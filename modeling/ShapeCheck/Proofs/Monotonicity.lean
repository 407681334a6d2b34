import ShapeCheck.Proofs.Acceptance

/-!
# Acceptance is monotone

A tree with a hole is filled with one checker and with another.  Whatever stands around the hole,
a checker that passes more makes a tree that passes more: no rule of the library's turns a pass of
one of its slots into a failure.

* `Context.accepts_fill_mono`: a context keeps the order of acceptance, by one lemma for each kind
  of rule that holds slots.
* `Context.isBuiltIn_fill`: filled with another checker, a tree stays one that the library builds.
* `Batch.acceptance_mono`: the same for batches, with the mark of being required and with further
  alternatives as special cases.
-/

namespace ShapeCheck

/-- A tree of checkers with a hole in the place of one slot. -/
inductive Context where
  | hole
  | arrayOf (item : Context) (required : Bool)
  | objectOf (item : Context) (required : Bool)
  | oneOfType
      (before : List Slot) (alternative : Context) (after : List Slot) (required : Bool)
  | shape
      (before : List (String × Slot)) (key : String) (field : Context)
      (after : List (String × Slot)) (required : Bool)
  | exact
      (before : List (String × Slot)) (key : String) (field : Context)
      (after : List (String × Slot)) (required : Bool)

namespace Context

/-- The tree with a slot in the hole. -/
def fill (s : Slot) : Context → Slot
  | hole => s
  | arrayOf item required => .checker (.arrayOf (item.fill s)) required
  | objectOf item required => .checker (.objectOf (item.fill s)) required
  | oneOfType before alternative after required =>
      .checker (.oneOfType (before ++ alternative.fill s :: after)) required
  | shape before key field after required =>
      .checker (.shape (before ++ (key, field.fill s) :: after)) required
  | exact before key field after required =>
      .checker (.exact (before ++ (key, field.fill s) :: after)) required

end Context

namespace Slot

/-- A slot accepts whatever another one does. -/
def AcceptsAll (wider narrower : Slot) : Prop :=
  ∀ v, narrower.accepts v = true → wider.accepts v = true

/-- Where rules keep the order of acceptance on values that are there, checkers with the same mark
keep it on all values. -/
theorem acceptsAll_checker
    {wider narrower : Rule} (hinert : narrower.isInert = false)
    (h : ∀ v, narrower.accepts v = true → wider.accepts v = true)
    (required : Bool) :
    (checker wider required).AcceptsAll (checker narrower required) := by
  intro v hv
  rw [accepts, hinert, Bool.false_or] at hv
  rw [accepts, Bool.or_eq_true]
  right
  cases hnullish : v.isNullish with
  | true =>
      rw [hnullish] at hv
      exact hv
  | false =>
      rw [hnullish] at hv
      exact h v hv

end Slot

namespace Rule

section Order

variable {s s' : Slot} (hcallable : s.isCallable = true) (h : s.AcceptsAll s')
include hcallable h

theorem accepts_arrayOf_mono {v : Value} (hv : (arrayOf s').accepts v = true) :
    (arrayOf s).accepts v = true := by
  rw [accepts_arrayOf, Bool.and_eq_true] at hv ⊢
  refine ⟨hcallable, ?_⟩
  cases hitems : v.items? with
  | none =>
      rw [hitems] at hv
      exact hv.2
  | some items =>
      rw [hitems] at hv
      exact List.all_eq_true.mpr fun x hx => h x (List.all_eq_true.mp hv.2 x hx)

theorem accepts_objectOf_mono {v : Value} (hv : (objectOf s').accepts v = true) :
    (objectOf s).accepts v = true := by
  rw [accepts, Bool.and_eq_true, Bool.and_eq_true] at hv ⊢
  refine ⟨⟨hcallable, hv.1.2⟩, ?_⟩
  exact List.all_eq_true.mpr fun p hp => h p.2 (List.all_eq_true.mp hv.2 p hp)

omit hcallable in
theorem accepts_oneOfType_mono
    {before after : List Slot} {v : Value}
    (hv : (oneOfType (before ++ s' :: after)).accepts v = true) :
    (oneOfType (before ++ s :: after)).accepts v = true := by
  rw [accepts, someAccepts_eq_true_iff] at hv ⊢
  obtain ⟨a, ha, haccepts⟩ := hv
  rcases List.mem_append.mp ha with hbefore | hrest
  · exact ⟨a, List.mem_append_left _ hbefore, haccepts⟩
  · rcases List.mem_cons.mp hrest with rfl | hafter
    · exact ⟨s, by simp, h v haccepts⟩
    · exact ⟨a, by simp [hafter], haccepts⟩

theorem fieldsAccept_mono
    {before after : List (String × Slot)} {key : String} {v : Value}
    (hv : fieldsAccept (before ++ (key, s') :: after) v = true) :
    fieldsAccept (before ++ (key, s) :: after) v = true := by
  rw [fieldsAccept_eq_true_iff, List.forall_mem_append, List.forall_mem_cons] at hv ⊢
  obtain ⟨hbefore, ⟨-, hfield⟩, hafter⟩ := hv
  exact ⟨hbefore, ⟨hcallable, h _ hfield⟩, hafter⟩

theorem accepts_shape_mono
    {before after : List (String × Slot)} {key : String} {v : Value}
    (hv : (shape (before ++ (key, s') :: after)).accepts v = true) :
    (shape (before ++ (key, s) :: after)).accepts v = true := by
  rw [accepts, Bool.and_eq_true] at hv ⊢
  exact ⟨hv.1, fieldsAccept_mono hcallable h hv.2⟩

/-- Which keys are declared does not depend on what stands under them. -/
theorem accepts_exact_mono
    {before after : List (String × Slot)} {key : String} {v : Value}
    (hv : (exact (before ++ (key, s') :: after)).accepts v = true) :
    (exact (before ++ (key, s) :: after)).accepts v = true := by
  have hkeys :
      Keyed.keys (before ++ (key, s) :: after) = Keyed.keys (before ++ (key, s') :: after) := by
    simp [Keyed.keys]
  rw [accepts, Bool.and_eq_true, Bool.and_eq_true] at hv ⊢
  rw [hkeys]
  exact ⟨⟨hv.1.1, fieldsAccept_mono hcallable h hv.1.2⟩, hv.2⟩

end Order

end Rule

namespace Context

variable {s s' : Slot}

theorem isCallable_fill (hcallable : s.isCallable = true) (ctx : Context) :
    (ctx.fill s).isCallable = true := by
  cases ctx with
  | hole => exact hcallable
  | arrayOf | objectOf | oneOfType | shape | exact => rfl

/-- A context keeps the order of acceptance. -/
theorem accepts_fill_mono
    (hcallable : s.isCallable = true) (h : s.AcceptsAll s') (ctx : Context) :
    (ctx.fill s).AcceptsAll (ctx.fill s') := by
  induction ctx with
  | hole =>
      exact h
  | arrayOf item required ih =>
      refine Slot.acceptsAll_checker (by rfl) (fun v hv => ?_) required
      exact Rule.accepts_arrayOf_mono (isCallable_fill hcallable item) ih hv
  | objectOf item required ih =>
      refine Slot.acceptsAll_checker (by rfl) (fun v hv => ?_) required
      exact Rule.accepts_objectOf_mono (isCallable_fill hcallable item) ih hv
  | oneOfType before alternative after required ih =>
      refine Slot.acceptsAll_checker (by rfl) (fun v hv => ?_) required
      exact Rule.accepts_oneOfType_mono ih hv
  | shape before key field after required ih =>
      refine Slot.acceptsAll_checker (by rfl) (fun v hv => ?_) required
      exact Rule.accepts_shape_mono (isCallable_fill hcallable field) ih hv
  | exact before key field after required ih =>
      refine Slot.acceptsAll_checker (by rfl) (fun v hv => ?_) required
      exact Rule.accepts_exact_mono (isCallable_fill hcallable field) ih hv

/-- With another checker in the hole, a tree that the library builds stays one. -/
theorem isBuiltIn_fill
    (hcallable : s.isCallable = true) (hbuiltIn : s.isBuiltIn = true)
    {ctx : Context} (h : (ctx.fill s').isBuiltIn = true) :
    (ctx.fill s).isBuiltIn = true := by
  induction ctx with
  | hole =>
      exact hbuiltIn
  | arrayOf item required ih | objectOf item required ih =>
      obtain ⟨-, -, hitem⟩ := Slot.isBuiltIn_checker h
      refine Slot.isBuiltIn_checker_iff.mpr ⟨rfl, rfl, fun child hchild => ?_⟩
      rw [List.mem_singleton.mp hchild]
      exact ih (hitem _ (by simp [Rule.slots]))
  | oneOfType before alternative after required ih =>
      obtain ⟨hbuilt, -, hslots⟩ := Slot.isBuiltIn_checker h
      simp only [Slot.isWellBuilt, List.all_append, List.all_cons, Bool.and_eq_true] at hbuilt
      simp only [Rule.slots, List.forall_mem_append, List.forall_mem_cons] at hslots
      refine Slot.isBuiltIn_checker_iff.mpr ⟨?_, rfl, ?_⟩
      · simp only [Slot.isWellBuilt, List.all_append, List.all_cons, Bool.and_eq_true]
        exact ⟨hbuilt.1, isCallable_fill hcallable alternative, hbuilt.2.2⟩
      · simp only [Rule.slots, List.forall_mem_append, List.forall_mem_cons]
        exact ⟨hslots.1, ih hslots.2.1, hslots.2.2⟩
  | shape before key field after required ih | exact before key field after required ih =>
      obtain ⟨hbuilt, -, hslots⟩ := Slot.isBuiltIn_checker h
      simp only [Rule.slots, List.map_append, List.map_cons, List.forall_mem_append,
        List.forall_mem_cons] at hslots
      refine Slot.isBuiltIn_checker_iff.mpr ⟨?_, rfl, ?_⟩
      · simpa [Slot.isWellBuilt, Keyed.keys] using hbuilt
      · simp only [Rule.slots, List.map_append, List.map_cons, List.forall_mem_append,
          List.forall_mem_cons]
        exact ⟨hslots.1, ih hslots.2.1, hslots.2.2⟩

/-- What stands in the hole of a tree that the library builds is such a tree. -/
theorem isBuiltIn_of_fill {ctx : Context} (h : (ctx.fill s).isBuiltIn = true) :
    s.isBuiltIn = true := by
  induction ctx with
  | hole =>
      exact h
  | arrayOf item required ih | objectOf item required ih =>
      obtain ⟨-, -, hitem⟩ := Slot.isBuiltIn_checker h
      exact ih (hitem _ (by simp [Rule.slots]))
  | oneOfType before alternative after required ih =>
      obtain ⟨-, -, hslots⟩ := Slot.isBuiltIn_checker h
      exact ih (hslots _ (by simp [Rule.slots]))
  | shape before key field after required ih | exact before key field after required ih =>
      obtain ⟨-, -, hslots⟩ := Slot.isBuiltIn_checker h
      exact ih (hslots _ (by simp [Rule.slots]))

end Context

namespace Slot

/-- Marking a checker as required changes nothing about how it is built. -/
theorem isBuiltIn_isRequired (c : Checker) :
    c.isRequired.slot.isBuiltIn = c.slot.isBuiltIn := by
  obtain ⟨rule, required⟩ := c
  rw [Bool.eq_iff_iff, Checker.slot, Checker.slot, isBuiltIn_checker_iff, isBuiltIn_checker_iff]
  cases rule <;> rfl

/-- A part of the alternatives of a choice makes a choice that the library builds. -/
theorem isBuiltIn_oneOfType_of_append
    {alternatives more : List Slot} {required : Bool}
    (h : (checker (.oneOfType (alternatives ++ more)) required).isBuiltIn = true) :
    (checker (.oneOfType alternatives) required).isBuiltIn = true := by
  obtain ⟨hbuilt, -, hslots⟩ := isBuiltIn_checker h
  rw [isWellBuilt, List.all_append, Bool.and_eq_true] at hbuilt
  rw [Rule.slots, List.forall_mem_append] at hslots
  exact isBuiltIn_checker_iff.mpr ⟨hbuilt.1, rfl, hslots.1⟩

/-- Without the mark of being required, a checker accepts all that it does with it. -/
theorem acceptsAll_isRequired (c : Checker) :
    c.slot.AcceptsAll c.isRequired.slot := by
  intro v hv
  obtain ⟨rule, required⟩ := c
  rw [Checker.slot, accepts, Bool.or_eq_true] at hv ⊢
  refine hv.imp_right fun h => ?_
  cases hnullish : v.isNullish <;> simp_all [Checker.isRequired]

/-- A choice with further alternatives accepts all that it does without them. -/
theorem acceptsAll_oneOfType_append (alternatives more : List Slot) (required : Bool) :
    (checker (.oneOfType (alternatives ++ more)) required).AcceptsAll
      (checker (.oneOfType alternatives) required) := by
  refine acceptsAll_checker (by rfl) (fun v hv => ?_) required
  rw [Rule.accepts, someAccepts_eq_true_iff] at hv ⊢
  obtain ⟨a, ha, haccepts⟩ := hv
  exact ⟨a, List.mem_append_left _ ha, haccepts⟩

end Slot

/-- Whether a checker passes a value: a batch over an object that holds nothing else reports
nothing. -/
def Checker.Passes (c : Checker) (v : Value) : Prop :=
  (Batch.run [("value", c.slot)] ⟨.object 0 none [("value", v)], "prop", none⟩).value = .ok none

namespace Batch

/-- An entry with a built-in tree contributes nothing where the tree accepts the property. -/
theorem value_runEntry_eq_none_iff_accepts
    {subject : Subject} {name : String} {s : Slot} (hbuiltIn : s.isBuiltIn = true)
    (hvalues : subject.values.isNullish = false) :
    (runEntry .standard subject (name, s)).value = .ok none ↔
      s.accepts (subject.values.property name) = true := by
  obtain ⟨found, hfound, hiff⟩ :
      ∃ found, (runEntry .standard subject (name, s)).value = .ok found ∧
        (found = none ↔ s.accepts (subject.values.property name) = true) :=
    value_runEntry_of_isBuiltIn .standard hbuiltIn hvalues
  rw [hfound, Except.ok.injEq]
  exact hiff

/-- A built-in checker passes what it accepts. -/
theorem passes_iff_accepts
    {c : Checker} (hbuiltIn : c.slot.isBuiltIn = true) (v : Value) :
    c.Passes v ↔ c.slot.accepts v = true := by
  have hread : (Value.object 0 none [("value", v)]).property "value" = v := rfl
  rw [Checker.Passes, value_run_eq_none_iff, List.forall_mem_singleton,
    value_runEntry_eq_none_iff_accepts hbuiltIn (by rfl), hread]

/-- An entry may be exchanged for one that accepts more, and a batch that passes still passes. -/
theorem run_passes_of_acceptsAll
    {before after : List (String × Slot)} {name : String} {s s' : Slot} {subject : Subject}
    (hbuiltIn : s.isBuiltIn = true) (hbuiltIn' : s'.isBuiltIn = true)
    (h : s.AcceptsAll s') (hvalues : subject.values.isNullish = false)
    (hrun : (run (before ++ (name, s') :: after) subject).value = .ok none) :
    (run (before ++ (name, s) :: after) subject).value = .ok none := by
  rw [value_run_eq_none_iff, List.forall_mem_append, List.forall_mem_cons] at hrun ⊢
  obtain ⟨hbefore, hentry, hafter⟩ := hrun
  refine ⟨hbefore, ?_, hafter⟩
  rw [value_runEntry_eq_none_iff_accepts hbuiltIn' hvalues] at hentry
  rw [value_runEntry_eq_none_iff_accepts hbuiltIn hvalues]
  exact h _ hentry

/-- Acceptance is monotone.  Where a batch passes with a checker somewhere in the tree of an entry,
at any depth, it passes with every checker that passes more values in its place.  So no mark of
being required makes a failing batch pass, and no further alternative makes a passing one fail. -/
theorem acceptance_mono
    (before after : List (String × Slot)) (name : String) (ctx : Context) (subject : Subject)
    (hvalues : subject.values.isNullish = false) :
    let passes (s : Slot) : Prop :=
      (run (before ++ (name, ctx.fill s) :: after) subject).value = .ok none
    (∀ c c' : Checker,
      c.slot.isBuiltIn = true → (ctx.fill c'.slot).isBuiltIn = true →
      (∀ v, c'.Passes v → c.Passes v) →
      passes c'.slot → passes c.slot) ∧
    (∀ c : Checker, (ctx.fill c.slot).isBuiltIn = true →
      passes c.isRequired.slot → passes c.slot) ∧
    ∀ (alternatives more : List Slot) (required : Bool),
      (ctx.fill (.checker (.oneOfType (alternatives ++ more)) required)).isBuiltIn = true →
      passes (.checker (.oneOfType alternatives) required) →
      passes (.checker (.oneOfType (alternatives ++ more)) required) := by
  intro passes
  have hmono {s s' : Slot} (hcallable : s.isCallable = true) (h : s.AcceptsAll s')
      (hbuiltIn : (ctx.fill s).isBuiltIn = true) (hbuiltIn' : (ctx.fill s').isBuiltIn = true) :
      passes s' → passes s :=
    run_passes_of_acceptsAll hbuiltIn hbuiltIn' (ctx.accepts_fill_mono hcallable h) hvalues
  refine ⟨?_, ?_, ?_⟩
  · intro c c' hc hfill' hwider
    have h : c.slot.AcceptsAll c'.slot := by
      intro v hv
      rw [← passes_iff_accepts hc]
      exact hwider v ((passes_iff_accepts (Context.isBuiltIn_of_fill hfill') v).mpr hv)
    exact hmono rfl h (Context.isBuiltIn_fill rfl hc hfill') hfill'
  · intro c hfill
    have hrequired : c.isRequired.slot.isBuiltIn = true := by
      rw [Slot.isBuiltIn_isRequired]
      exact Context.isBuiltIn_of_fill hfill
    exact hmono rfl (Slot.acceptsAll_isRequired c) hfill
      (Context.isBuiltIn_fill rfl hrequired hfill)
  · intro alternatives more required hfill
    have hfewer : (Slot.checker (.oneOfType alternatives) required).isBuiltIn = true :=
      Slot.isBuiltIn_oneOfType_of_append (Context.isBuiltIn_of_fill hfill)
    exact hmono rfl (Slot.acceptsAll_oneOfType_append alternatives more required) hfill
      (Context.isBuiltIn_fill rfl hfewer hfill)

/-- A list of objects whose field holds a required text also passes when the field may hold
anything, when the text is not required, and when a number would do as well. -/
theorem acceptance_mono_below_choice :
    let text : Checker := ⟨.primitive "string", true⟩
    let number : Slot := .checker (.primitive "number") false
    let anything : Checker := ⟨.any, false⟩
    let ctx : Context :=
      .arrayOf (.oneOfType [number] (.shape [] "a" .hole [("b", number)] true) [] false) false
    let subject : Subject :=
      ⟨.object 0 none [("list", .array 1 [.object 2 none [("a", .string "x")]])], "prop", none⟩
    let passes (s : Slot) : Prop := (run [("list", ctx.fill s)] subject).value = .ok none
    subject.values.isNullish = false ∧
      (ctx.fill text.slot).isBuiltIn = true ∧ anything.slot.isBuiltIn = true ∧
      (∀ v, text.Passes v → anything.Passes v) ∧
      passes text.slot ∧ passes anything.slot ∧ passes (.checker (.primitive "string") false) ∧
      passes (.checker (.oneOfType [text.slot, number]) true) := by
  intro text number anything ctx subject passes
  obtain ⟨hwiden, hunmark, hextend⟩ := acceptance_mono [] [] "list" ctx subject rfl
  have hanything : ∀ v, anything.Passes v := by
    intro v
    rw [passes_iff_accepts (by decide)]
    cases h : v.isNullish <;> simp [anything, Checker.slot, Slot.accepts, Rule.accepts, h]
  have hfill : (ctx.fill text.slot).isBuiltIn = true := by decide
  have htext : (run [("list", ctx.fill text.slot)] subject).value = .ok none := by
    decide +kernel
  have hchoice :
      (run [("list", ctx.fill (.checker (.oneOfType [text.slot]) true))] subject).value =
        .ok none := by
    decide +kernel
  refine ⟨rfl, hfill, by decide, fun v _ => hanything v, htext, ?_, ?_, ?_⟩
  · exact hwiden anything text (by decide) hfill (fun v _ => hanything v) htext
  · exact hunmark ⟨.primitive "string", false⟩ (by decide) htext
  · exact hextend [text.slot] [number] true (by decide) hchoice

end Batch
end ShapeCheck
