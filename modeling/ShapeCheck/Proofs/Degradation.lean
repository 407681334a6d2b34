import ShapeCheck.Proofs.Misuse
import ShapeCheck.Proofs.Monotonicity

/-!
# Choices that are built from wrong arguments

A choice of values needs an array, and a choice of checkers a list of slots that can be called.  Any
other argument is noticed when the choice is built: one warning is logged, and what is built is a
checker without demands.  Such a checker, marked as required or not, passes every value in every
place, even as an entry of a batch over null or undefined, where every other checker raises a
failure.

* `Checker.oneOf_cases` and `Checker.oneOfType_cases`: what is built and logged, by the argument.
* `Slot.AnswersLike` and `Context.answersLike_fill`: slots that answer alike do so in every tree.
* `Slot.PassesEverywhere` and `Checker.passesEverywhere_of_isInert`: what no demands amount to.
* `Checker.misused_choices_warn_and_pass`: all of this together.
-/

namespace ShapeCheck

/-- The warning about an argument of a constructor. -/
def LogEntry.misuse (event : Event) (message : String) : LogEntry :=
  ⟨.warn, event, [("message", message)]⟩

/-! ### Building a choice -/

namespace Checker

/-- A choice of values is built from an array, and everything else is warned of. -/
theorem oneOf_cases (allowed : Value) :
    (∃ id items, allowed = .array id items ∧
      oneOf allowed = ⟨optional (.oneOf items), []⟩) ∨
    ((∀ id items, allowed ≠ .array id items) ∧
      oneOf allowed =
        ⟨optional (.inert .oneOf),
          [.misuse .oneOfInvalidArgument
            "Invalid argument supplied to oneOf, expected an array."]⟩) := by
  cases allowed with
  | array id items =>
      exact Or.inl ⟨id, items, rfl, rfl⟩
  | undefined | null | bool | number | bigint | string | symbol | object | function | date
    | regexp =>
      refine Or.inr ⟨fun id items harray => ?_, rfl⟩
      cases harray

/-- Behind slots that can be called, the search finds the first one that cannot. -/
theorem firstUncallable?_append_cons
    {before : List Slot} {s : Slot}
    (hbefore : ∀ t ∈ before, t.isCallable = true) (hs : s.isCallable = false)
    (start : Nat) (after : List Slot) :
    firstUncallable? start (before ++ s :: after) = some (start + before.length, s) := by
  induction before generalizing start with
  | nil =>
      simp [firstUncallable?, hs]
  | cons t before ih =>
      obtain ⟨ht, hrest⟩ := List.forall_mem_cons.mp hbefore
      rw [List.cons_append, firstUncallable?, if_pos ht, ih hrest, List.length_cons,
        Nat.add_assoc, Nat.add_comm 1]

/-- A choice of checkers is built from a list of slots that can be called.  Of anything else than a
list, and of the first slot in a list that cannot be called, there is a warning. -/
theorem oneOfType_cases (alternatives : Slot) :
    (∃ slots, alternatives = .list slots ∧ (∀ s ∈ slots, s.isCallable = true) ∧
      oneOfType alternatives = ⟨optional (.oneOfType slots), []⟩) ∨
    (∃ before s after, alternatives = .list (before ++ s :: after) ∧
      (∀ t ∈ before, t.isCallable = true) ∧ s.isCallable = false ∧
      oneOfType alternatives =
        ⟨optional (.inert .oneOfType),
          [.misuse .oneOfTypeInvalidArgument
            ("Invalid argument supplied to oneOfType. Expected an array of check functions, " ++
              s!"but received {s.preciseType.withArticle} at index {before.length}.")]⟩) ∨
    ((∀ slots, alternatives ≠ .list slots) ∧
      oneOfType alternatives =
        ⟨optional (.inert .oneOfType),
          [.misuse .oneOfTypeInvalidArgument
            "Invalid argument supplied to oneOfType, expected an instance of array."]⟩) := by
  cases alternatives with
  | list slots =>
      rcases forall_or_exists_first Slot.isCallable slots with
        hall | ⟨before, s, after, rfl, hbefore, hs⟩
      · refine Or.inl ⟨slots, rfl, hall, ?_⟩
        have hfirst : firstUncallable? 0 slots = none :=
          firstUncallable?_eq_none_iff.mpr (List.all_eq_true.mpr hall)
        rw [oneOfType, oneOfTypeIn, hfirst]
        rfl
      · refine Or.inr (Or.inl ⟨before, s, after, rfl, hbefore, hs, ?_⟩)
        rw [oneOfType, oneOfTypeIn, firstUncallable?_append_cons hbefore hs, Nat.zero_add]
        rfl
  | checker | factory | value =>
      refine Or.inr (Or.inr ⟨fun slots hlist => ?_, rfl⟩)
      cases hlist

theorem isInert_oneOf_iff {allowed : Value} :
    (oneOf allowed).value.isInert = true ↔ ∀ id items, allowed ≠ .array id items := by
  rcases oneOf_cases allowed with ⟨id, items, rfl, hbuilt⟩ | ⟨hnot, hbuilt⟩
  · rw [hbuilt]
    exact iff_of_false Bool.false_ne_true fun h => h id items rfl
  · rw [hbuilt]
    exact iff_of_true rfl hnot

/-- A choice of values logs one warning when it has no demands, and otherwise nothing. -/
theorem entries_oneOf (allowed : Value) :
    (oneOf allowed).entries =
      if (oneOf allowed).value.isInert then
        [.misuse .oneOfInvalidArgument "Invalid argument supplied to oneOf, expected an array."]
      else [] := by
  rcases oneOf_cases allowed with ⟨id, items, -, hbuilt⟩ | ⟨-, hbuilt⟩ <;>
    rw [hbuilt] <;> rfl

section OneOfType

variable {alternatives : Slot}

/-- A choice of checkers with demands is one among slots that can be called, built in silence. -/
theorem exists_slots_of_not_isInert (h : (oneOfType alternatives).value.isInert = false) :
    ∃ slots, alternatives = .list slots ∧ (∀ s ∈ slots, s.isCallable = true) ∧
      oneOfType alternatives = ⟨optional (.oneOfType slots), []⟩ := by
  rcases oneOfType_cases alternatives with
    hlist | ⟨before, s, after, -, -, -, hbuilt⟩ | ⟨-, hbuilt⟩
  · exact hlist
  · rw [hbuilt] at h
    cases h
  · rw [hbuilt] at h
    cases h

theorem isInert_oneOfType_iff :
    (oneOfType alternatives).value.isInert = true
      ↔
    (∀ slots, alternatives ≠ .list slots) ∨
      ∃ slots, alternatives = .list slots ∧ ∃ s ∈ slots, s.isCallable = false := by
  rcases oneOfType_cases alternatives with
    ⟨slots, rfl, hall, hbuilt⟩ | ⟨before, s, after, rfl, -, hs, hbuilt⟩ | ⟨hnot, hbuilt⟩
  · rw [hbuilt]
    refine iff_of_false Bool.false_ne_true ?_
    rintro (hnot | ⟨slots', hslots, s, hmem, hs⟩)
    · exact hnot slots rfl
    · obtain rfl := Slot.list.inj hslots
      rw [hall s hmem] at hs
      cases hs
  · rw [hbuilt]
    exact iff_of_true rfl (Or.inr ⟨_, rfl, s, by simp, hs⟩)
  · rw [hbuilt]
    exact iff_of_true rfl (Or.inl hnot)

/-- A choice of checkers without demands logs one warning. -/
theorem exists_entries_of_isInert (h : (oneOfType alternatives).value.isInert = true) :
    ∃ message, (oneOfType alternatives).entries = [.misuse .oneOfTypeInvalidArgument message] := by
  rcases oneOfType_cases alternatives with
    ⟨slots, -, -, hbuilt⟩ | ⟨before, s, after, -, -, -, hbuilt⟩ | ⟨-, hbuilt⟩
  · rw [hbuilt] at h
    cases h
  · exact ⟨_, by rw [hbuilt]⟩
  · exact ⟨_, by rw [hbuilt]⟩

theorem entries_of_not_isInert (h : (oneOfType alternatives).value.isInert = false) :
    (oneOfType alternatives).entries = [] := by
  obtain ⟨slots, -, -, hbuilt⟩ := exists_slots_of_not_isInert h
  rw [hbuilt]

theorem entries_oneOfType_of_ne_list (h : ∀ slots, alternatives ≠ .list slots) :
    (oneOfType alternatives).entries =
      [.misuse .oneOfTypeInvalidArgument
        "Invalid argument supplied to oneOfType, expected an instance of array."] := by
  rcases oneOfType_cases alternatives with
    ⟨slots, hlist, -⟩ | ⟨before, s, after, hlist, -⟩ | ⟨-, hbuilt⟩
  · exact absurd hlist (h slots)
  · exact absurd hlist (h _)
  · rw [hbuilt]

/-- Of a list, the warning names the least index of a slot that cannot be called. -/
theorem exists_entries_oneOfType {slots : List Slot} (h : ∃ s ∈ slots, s.isCallable = false) :
    ∃ index s, slots[index]? = some s ∧ s.isCallable = false ∧
      (∀ t ∈ slots.take index, t.isCallable = true) ∧
      (oneOfType (.list slots)).entries =
        [.misuse .oneOfTypeInvalidArgument
          ("Invalid argument supplied to oneOfType. Expected an array of check functions, " ++
            s!"but received {s.preciseType.withArticle} at index {index}.")] := by
  obtain ⟨t, hmem, ht⟩ := h
  rcases oneOfType_cases (.list slots) with
    ⟨slots', hslots, hall, -⟩ | ⟨before, s, after, hslots, hbefore, hs, hbuilt⟩ | ⟨hnot, -⟩
  · obtain rfl := Slot.list.inj hslots
    rw [hall t hmem] at ht
    cases ht
  · obtain rfl := Slot.list.inj hslots
    refine ⟨before.length, s, by simp, hs, ?_, by rw [hbuilt]⟩
    rw [List.take_left]
    exact hbefore
  · exact absurd rfl (hnot slots)

end OneOfType

end Checker

/-! ### Slots that answer alike -/

section Replaced

variable {α : Type}

theorem allPass_append_cons_congr
    {test : α → Outcome} {a a' : α} (h : test a' = test a) (before after : List α) :
    allPass test (before ++ a' :: after) = allPass test (before ++ a :: after) := by
  induction before with
  | nil =>
      simp only [List.nil_append, allPass, Answer.andThen_outcome, h]
  | cons b before ih =>
      simp only [List.cons_append, allPass, Answer.andThen_outcome, ih]

theorem testAlternatives_append_cons_congr
    {q : Query} {a a' : SlotView Outcome} (h : a'.invoke q.forward = a.invoke q.forward)
    (before after : List (SlotView Outcome)) (tried : Nat) (expected : List String) :
    Rule.testAlternatives tried expected q (before ++ a' :: after) =
      Rule.testAlternatives tried expected q (before ++ a :: after) := by
  induction before generalizing tried expected with
  | nil =>
      simp only [List.nil_append, Rule.testAlternatives_cons, h]
  | cons b before ih =>
      simp only [List.cons_append, Rule.testAlternatives_cons, ih]

/-- With another value in one entry, a read is the same, or it is the read of this entry. -/
theorem Keyed.get?_append_cons_cases
    (before after : List (String × α)) (key : String) (a a' : α) (other : String) :
    get? (before ++ (key, a') :: after) other = get? (before ++ (key, a) :: after) other ∨
      get? (before ++ (key, a') :: after) other = some a' ∧
        get? (before ++ (key, a) :: after) other = some a := by
  induction before with
  | nil =>
      by_cases h : key = other <;> simp [get?, h]
  | cons entry before ih =>
      by_cases h : entry.1 = other
      · simp [get?, h]
      · simpa [get?, h] using ih

end Replaced

/-- Two slots that can be called give the same answers in a batch, as far as there is a container
to ask about. -/
structure Slot.AnswersLike (guards : Guards) (s' s : Slot) : Prop where
  callable' : s'.isCallable = true
  callable : s.isCallable = true
  invoke_eq : ∀ call : Call, call.caller = .batch → call.props.isNullish = false →
    s'.invoke guards call = s.invoke guards call

section AnswersLike

variable {guards : Guards} {s s' : Slot}

/-- Checkers answer alike where their rules do on values that are there. -/
theorem Slot.answersLike_checker
    {rule rule' : Rule} (hinert : rule'.isInert = rule.isInert)
    (h : ∀ q : Query, q.value.isNullish = false → rule'.test guards q = rule.test guards q)
    (required : Bool) :
    (checker rule' required).AnswersLike guards (checker rule required) where
  callable' := rfl
  callable := rfl
  invoke_eq call _ _ := by
    have hguarded :
        Checker.guarded guards rule'.isInert required (rule'.test guards) call =
          Checker.guarded guards rule.isInert required (rule.test guards) call := by
      rw [hinert]
      exact Checker.guarded_congr_of_present (h call.query)
    exact hguarded

namespace Rule

variable {q : Query} (h : s'.AnswersLike guards s) (hq : q.value.isNullish = false)
include h hq

theorem test_arrayOf_of_answersLike :
    (arrayOf s').test guards q = (arrayOf s).test guards q := by
  have hitem (index : Nat) : s'.invoke guards (q.item index) = s.invoke guards (q.item index) :=
    h.invoke_eq _ rfl hq
  simp only [test_arrayOf, h.callable', h.callable, hitem]

theorem test_objectOf_of_answersLike :
    (objectOf s').test guards q = (objectOf s).test guards q := by
  have hmember (key : String) : s'.invoke guards (q.member key) = s.invoke guards (q.member key) :=
    h.invoke_eq _ rfl hq
  simp only [test_objectOf, h.callable', h.callable, hmember]

theorem test_oneOfType_of_answersLike (before after : List Slot) :
    (oneOfType (before ++ s' :: after)).test guards q =
      (oneOfType (before ++ s :: after)).test guards q := by
  have hforward : s'.invoke guards q.forward = s.invoke guards q.forward :=
    h.invoke_eq _ rfl (Value.isNullish_of_property hq)
  simp only [test_eq_testOneOfType, testOneOfType, List.map_append, List.map_cons]
  exact testAlternatives_append_cons_congr hforward _ _ 0 []

theorem testField_of_answersLike (key : String) :
    testField q key (s'.view guards) = testField q key (s.view guards) := by
  rw [testField_of_isCallable h.callable', testField_of_isCallable h.callable,
    h.invoke_eq _ rfl hq]

theorem test_shape_of_answersLike (before after : List (String × Slot)) (key : String) :
    (shape (before ++ (key, s') :: after)).test guards q =
      (shape (before ++ (key, s) :: after)).test guards q := by
  have hfields :
      allPass (fun field => testField q field.1 (field.2.view guards))
          (before ++ (key, s') :: after) =
        allPass (fun field => testField q field.1 (field.2.view guards))
          (before ++ (key, s) :: after) := by
    refine allPass_append_cons_congr ?_ before after
    exact testField_of_answersLike h hq key
  rw [test_shape, test_shape, hfields]

/-- The same keys are declared, and at most the field in question is looked up under one of them. -/
theorem test_exact_of_answersLike (before after : List (String × Slot)) (key : String) :
    (exact (before ++ (key, s') :: after)).test guards q =
      (exact (before ++ (key, s) :: after)).test guards q := by
  have hkeys :
      Keyed.keys (before ++ (key, s') :: after) = Keyed.keys (before ++ (key, s) :: after) := by
    simp [Keyed.keys]
  have hkey : testKey guards (before ++ (key, s') :: after) q =
      testKey guards (before ++ (key, s) :: after) q := by
    funext other
    rcases Keyed.get?_append_cons_cases before after key s s' other with heq | ⟨hget', hget⟩
    · rw [testKey, testKey, heq, hkeys]
    · rw [testKey, testKey, hget', hget]
      exact testField_of_answersLike h hq other
  rw [test_exact, test_exact, hkeys, hkey]

end Rule

namespace Context

/-- In whatever tree they stand, slots that answer alike make trees that answer alike. -/
theorem answersLike_fill (h : s'.AnswersLike guards s) (ctx : Context) :
    (ctx.fill s').AnswersLike guards (ctx.fill s) := by
  induction ctx with
  | hole =>
      exact h
  | arrayOf item required ih =>
      refine Slot.answersLike_checker (by rfl) (fun q hq => ?_) required
      exact Rule.test_arrayOf_of_answersLike ih hq
  | objectOf item required ih =>
      refine Slot.answersLike_checker (by rfl) (fun q hq => ?_) required
      exact Rule.test_objectOf_of_answersLike ih hq
  | oneOfType before alternative after required ih =>
      refine Slot.answersLike_checker (by rfl) (fun q hq => ?_) required
      exact Rule.test_oneOfType_of_answersLike ih hq before after
  | shape before key field after required ih =>
      refine Slot.answersLike_checker (by rfl) (fun q hq => ?_) required
      exact Rule.test_shape_of_answersLike ih hq before after key
  | exact before key field after required ih =>
      refine Slot.answersLike_checker (by rfl) (fun q hq => ?_) required
      exact Rule.test_exact_of_answersLike ih hq before after key

/-- Without a container, what stands below the top of a tree is never asked. -/
theorem invoke_fill_of_noContainer
    {ctx : Context} (hctx : ctx ≠ .hole) {call : Call}
    (hcaller : call.caller = .batch) (hprops : call.props.isNullish = true) :
    (ctx.fill s).invoke guards call = guards.noContainer call := by
  cases ctx with
  | hole =>
      exact absurd rfl hctx
  | arrayOf | objectOf | oneOfType | shape | exact =>
      rw [fill, Slot.invoke_checker_of_noContainer hcaller hprops]
      rfl

end Context

end AnswersLike

namespace Batch

variable {subject : Subject}

/-- Behind the same entries, entries that contribute and log the same may be exchanged. -/
theorem run_append_congr
    {entries entries' : List (String × Slot)}
    (h : runEntries .standard subject entries' = runEntries .standard subject entries)
    (before : List (String × Slot)) :
    run (before ++ entries') subject = run (before ++ entries) subject := by
  have hentries : runEntries .standard subject (before ++ entries') =
      runEntries .standard subject (before ++ entries) := by
    induction before with
    | nil =>
        exact h
    | cons e before ih =>
        rw [List.cons_append, List.cons_append, runEntries_cons, runEntries_cons, ih]
  rw [run_eq, run_eq, hentries]

/-- An entry that contributes and logs nothing may be left out. -/
theorem runEntries_cons_of_silent
    {entry : String × Slot} (h : runEntry .standard subject entry = pure (.ok none))
    (after : List (String × Slot)) :
    runEntries .standard subject (entry :: after) = runEntries .standard subject after := by
  have hvalue : (runEntry .standard subject entry).value = .ok none := by
    rw [h]
    rfl
  rw [runEntries_cons_of_ok hvalue, h]
  apply Logged.ext
  · cases (runEntries .standard subject after).value <;> simp [Except.map]
  · rfl

/-- A slot may be exchanged for one that answers like it, anywhere below an entry, and also as an
entry itself where there is a subject. -/
theorem run_fill_of_answersLike
    {s s' : Slot} (h : s'.AnswersLike .standard s) {ctx : Context}
    (hplace : ctx = .hole → subject.values.isNullish = false)
    (before after : List (String × Slot)) (name : String) :
    run (before ++ (name, ctx.fill s') :: after) subject =
      run (before ++ (name, ctx.fill s) :: after) subject := by
  have hfill := ctx.answersLike_fill h
  have hinvoke : (ctx.fill s').invoke .standard (subject.call name) =
      (ctx.fill s).invoke .standard (subject.call name) := by
    cases hvalues : subject.values.isNullish with
    | false =>
        exact hfill.invoke_eq _ rfl hvalues
    | true =>
        -- The slots are not asked, for the checker above them misses its container first.
        have hctx : ctx ≠ .hole := by
          intro heq
          rw [hplace heq] at hvalues
          cases hvalues
        rw [Context.invoke_fill_of_noContainer hctx rfl hvalues,
          Context.invoke_fill_of_noContainer hctx rfl hvalues]
  have hentry : runEntry .standard subject (name, ctx.fill s') =
      runEntry .standard subject (name, ctx.fill s) := by
    rw [runEntry_of_isCallable hfill.callable', runEntry_of_isCallable hfill.callable, hinvoke]
  refine run_append_congr ?_ before
  rw [runEntries_cons, runEntries_cons, hentry]

end Batch

/-! ### Checkers without demands -/

/-- A slot passes everything in every place. -/
structure Slot.PassesEverywhere (s : Slot) : Prop where
  /-- It passes every value, null and undefined among them, and also where there is no container. -/
  passes : ∀ (guards : Guards) (call : Call), call.caller = .batch → s.invoke guards call = .pass
  /-- In every place of a tree below an entry, and as an entry where there is a subject, it does the
  same as the checker that accepts everything and is not required. -/
  likeAny : ∀ (ctx : Context) (before after : List (String × Slot)) (name : String)
    (subject : Batch.Subject), (ctx = .hole → subject.values.isNullish = false) →
    Batch.run (before ++ (name, ctx.fill s) :: after) subject =
      Batch.run (before ++ (name, ctx.fill Checker.any.slot) :: after) subject
  /-- As an entry it makes no difference, not even where the subject is null or undefined. -/
  idle : ∀ (before after : List (String × Slot)) (name : String) (subject : Batch.Subject),
    Batch.run (before ++ (name, s) :: after) subject = Batch.run (before ++ after) subject

namespace Checker

theorem invoke_slot_of_isInert
    {c : Checker} (hinert : c.isInert = true) (guards : Guards)
    {call : Call} (hcaller : call.caller = .batch) :
    c.slot.invoke guards call = .pass := by
  have hguarded : guarded guards c.rule.isInert c.required (c.rule.test guards) call = .pass := by
    rw [isInert] at hinert
    simp [guarded, hcaller, hinert]
  exact hguarded

/-- The checker that accepts everything passes wherever there is a container. -/
theorem invoke_any
    (guards : Guards) {call : Call} (hcaller : call.caller = .batch)
    (hprops : call.props.isNullish = false) :
    any.slot.invoke guards call = .pass := by
  cases hvalue : call.query.value.isNullish with
  | true => exact Slot.invoke_checker_of_absent hcaller hprops hvalue .any false
  | false => exact Slot.invoke_checker_of_present hcaller hvalue .any false

/-- A checker without demands passes everything in every place. -/
theorem passesEverywhere_of_isInert {c : Checker} (hinert : c.isInert = true) :
    c.slot.PassesEverywhere where
  passes guards call hcaller := invoke_slot_of_isInert hinert guards hcaller
  likeAny ctx before after name subject hplace := by
    -- The two differ only where there is no container.
    have hlike : c.slot.AnswersLike .standard any.slot := by
      refine ⟨rfl, rfl, fun call hcaller hprops => ?_⟩
      rw [invoke_slot_of_isInert hinert .standard hcaller, invoke_any .standard hcaller hprops]
    exact Batch.run_fill_of_answersLike hlike hplace before after name
  idle before after name subject := by
    refine Batch.run_append_congr (Batch.runEntries_cons_of_silent ?_ after) before
    have hpass : c.slot.invoke .standard (subject.call name) = .pass :=
      invoke_slot_of_isInert hinert .standard rfl
    have hcallable : c.slot.isCallable = true := rfl
    rw [Batch.runEntry_of_isCallable hcallable, hpass]
    rfl

/-- A choice among slots that can be called calls no others: what these would answer makes no
difference. -/
theorem answerOn_oneOfType
    {slots : List Slot} (hcallable : ∀ s ∈ slots, s.isCallable = true)
    {guards : Guards} {answer : Slot → Call → Outcome}
    (h : ∀ s : Slot, s.isCallable = true → answer s = s.invoke guards) (required : Bool) :
    (Slot.checker (.oneOfType slots) required).answerOn guards answer =
      (Slot.checker (.oneOfType slots) required).invoke guards := by
  funext call
  rw [Slot.invoke_eq_answerOn]
  refine Slot.answerOn_congr (List.all_eq_true.mpr hcallable) fun _ s _ childCall horder => ?_
  rw [h s horder.callable]

/-- A choice without alternatives fails on every value that is there. -/
theorem invoke_oneOfType_nil
    (guards : Guards) (required : Bool) {call : Call} (hcaller : call.caller = .batch)
    (hvalue : call.query.value.isNullish = false) :
    (Slot.checker (.oneOfType []) required).invoke guards call =
      .fail (Wording.noAlternative call.query []) := by
  rw [Slot.invoke_checker_of_present hcaller hvalue]
  rfl

/-- Wrong arguments of a choice are noticed when it is built.  A choice of values comes out without
demands when its argument is no array, a choice of checkers when its argument is no list or the list
holds something that cannot be called.  Just then one warning is logged, and otherwise nothing; of a
list, the warning names the least index of a slot that cannot be called and what stands there.  What
comes out without demands passes everything in every place, whether marked as required or not.  A
choice of values with demands allows just the items of the array.  A choice of checkers with demands
holds slots that can be called and calls no others; without any of them it fails on every value that
is there. -/
theorem misused_choices_warn_and_pass :
    (∀ allowed : Value,
      ((oneOf allowed).value.isInert = true ↔ ∀ id items, allowed ≠ .array id items) ∧
      (oneOf allowed).entries =
        if (oneOf allowed).value.isInert then
          [.misuse .oneOfInvalidArgument
            "Invalid argument supplied to oneOf, expected an array."]
        else []) ∧
    (∀ id items, (oneOf (.array id items)).value = optional (.oneOf items)) ∧
    (∀ alternatives : Slot,
      ((oneOfType alternatives).value.isInert = true ↔
        (∀ slots, alternatives ≠ .list slots) ∨
          ∃ slots, alternatives = .list slots ∧ ∃ s ∈ slots, s.isCallable = false) ∧
      ((oneOfType alternatives).value.isInert = true →
        ∃ message, (oneOfType alternatives).entries =
          [.misuse .oneOfTypeInvalidArgument message]) ∧
      ((oneOfType alternatives).value.isInert = false → (oneOfType alternatives).entries = []) ∧
      ((∀ slots, alternatives ≠ .list slots) →
        (oneOfType alternatives).entries =
          [.misuse .oneOfTypeInvalidArgument
            "Invalid argument supplied to oneOfType, expected an instance of array."])) ∧
    (∀ slots : List Slot, (∃ s ∈ slots, s.isCallable = false) →
      ∃ index s, slots[index]? = some s ∧ s.isCallable = false ∧
        (∀ t ∈ slots.take index, t.isCallable = true) ∧
        (oneOfType (.list slots)).entries =
          [.misuse .oneOfTypeInvalidArgument
            ("Invalid argument supplied to oneOfType. Expected an array of check functions, " ++
              s!"but received {s.preciseType.withArticle} at index {index}.")]) ∧
    (∀ c : Checker, c.isInert = true →
      c.slot.PassesEverywhere ∧ c.isRequired.slot.PassesEverywhere) ∧
    (∀ alternatives : Slot, (oneOfType alternatives).value.isInert = false →
      ∃ slots, alternatives = .list slots ∧
        (oneOfType alternatives).value = optional (.oneOfType slots) ∧
        (∀ s ∈ slots, s.isCallable = true) ∧
        ∀ (guards : Guards) (answer : Slot → Call → Outcome),
          (∀ s : Slot, s.isCallable = true → answer s = s.invoke guards) →
          ∀ required, (Slot.checker (.oneOfType slots) required).answerOn guards answer =
            (Slot.checker (.oneOfType slots) required).invoke guards) ∧
    (oneOfType (.list [])).value = optional (.oneOfType []) ∧
    ∀ (guards : Guards) (required : Bool) (call : Call), call.caller = .batch →
      call.query.value.isNullish = false →
      (Slot.checker (.oneOfType []) required).invoke guards call =
        .fail (Wording.noAlternative call.query []) := by
  refine ⟨?_, fun id items => rfl, ?_, fun slots => exists_entries_oneOfType, ?_, ?_, rfl, ?_⟩
  · intro allowed
    exact ⟨isInert_oneOf_iff, entries_oneOf allowed⟩
  · intro alternatives
    exact ⟨isInert_oneOfType_iff, exists_entries_of_isInert, entries_of_not_isInert,
      entries_oneOfType_of_ne_list⟩
  · intro c hinert
    exact ⟨passesEverywhere_of_isInert hinert,
      passesEverywhere_of_isInert (c := c.isRequired) hinert⟩
  · intro alternatives hinert
    obtain ⟨slots, rfl, hall, hbuilt⟩ := exists_slots_of_not_isInert hinert
    refine ⟨slots, rfl, by rw [hbuilt], hall, fun guards answer h required => ?_⟩
    exact answerOn_oneOfType hall h required
  · intro guards required call hcaller hvalue
    exact invoke_oneOfType_nil guards required hcaller hvalue

/-- A list with a plain value and a list among its slots is warned of at the first of the two.
Marked as required, what is left of it passes a null and a missing field in the rows of a list, and
as an entry it makes no difference to a batch over null; a choice without alternatives fails on the
rows. -/
theorem misused_choices_warn_and_pass_of_mixed :
    let text : Slot := .checker (.primitive "string") true
    let mixed : Slot := .list [text, .value (.bool true), .list []]
    let c : Checker := (oneOfType mixed).value
    let ctx : Context := .arrayOf (.exact [] "a" .hole [("b", text)] true) false
    let rows : Value :=
      .array 1
        [.object 2 none [("a", .null), ("b", .string "x")], .object 3 none [("b", .string "y")]]
    let subject : Batch.Subject := ⟨.object 0 none [("rows", rows)], "prop", none⟩
    let absent : Batch.Subject := ⟨.null, "prop", none⟩
    c.isInert = true ∧
      (oneOfType mixed).entries =
        [.misuse .oneOfTypeInvalidArgument
          ("Invalid argument supplied to oneOfType. Expected an array of check functions, " ++
            "but received a boolean at index 1.")] ∧
      (Batch.run [("rows", ctx.fill c.isRequired.slot)] subject).value = .ok none ∧
      Batch.run [("rows", c.isRequired.slot), ("text", text)] absent =
        Batch.run [("text", text)] absent ∧
      (Slot.checker (.oneOfType []) false).invoke .standard (subject.call "rows") =
        .fail (Wording.noAlternative (subject.call "rows").query []) := by
  intro text mixed c ctx rows subject absent
  obtain ⟨-, -, hchoice, -, hinert, -, -, hempty⟩ := misused_choices_warn_and_pass
  have hc : c.isInert = true :=
    (hchoice mixed).1.mpr (Or.inr ⟨_, rfl, .value (.bool true), by simp, rfl⟩)
  have hrequired := (hinert c hc).2
  have hbelow : ctx ≠ .hole := by
    simp [ctx]
  refine ⟨hc, rfl, ?_, ?_, ?_⟩
  · have hany : Batch.run [("rows", ctx.fill c.isRequired.slot)] subject =
        Batch.run [("rows", ctx.fill any.slot)] subject :=
      hrequired.likeAny ctx [] [] "rows" subject fun htop => absurd htop hbelow
    rw [hany]
    decide +kernel
  · exact hrequired.idle [] [("text", text)] "rows" absent
  · exact hempty .standard false (subject.call "rows") rfl rfl

end Checker
end ShapeCheck
