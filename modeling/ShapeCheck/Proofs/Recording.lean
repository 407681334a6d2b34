import ShapeCheck.Proofs.Answers

/-!
# The rules of the user's that are called

A run of a checker may return, with its outcome, the calls of the rules of the user's that are made
on the way.  What it returns is put together from outcomes and from what these rules say, and a rule
that raises a failure or panics ends it, so a relation between what is returned and the outcome has
to be checked for these few steps only.

* `Answer.IsInvariant`: what has to be checked.
* `Slot.invariant_viewIn`: what is checked for the steps holds of every run of every tree.
* `Slot.ruleCalls`: the calls made for the answer of a slot, in order.
* `Slot.answer_record`: recording changes no answer.
* `Slot.exists_rule_of_mem_ruleCalls`: only rules in the tree are called.
-/

namespace ShapeCheck

/-! ### What holds of every run -/

/-- A relation between what a run returns and its outcome that is kept when runs are put together:
it holds of outcomes that are no panic, and when a run goes on after an outcome that is not broken,
or ends with one that is. -/
structure Answer.IsInvariant {A : Type} [Answer A] (R : A → Outcome → Prop) : Prop where
  ofOutcome : ∀ {outcome}, (∀ text, outcome ≠ .panicked text) →
    R (Answer.ofOutcome outcome) outcome
  goesOn : ∀ {x outcome next outcome'}, R x outcome → outcome.isBroken = false →
    R (next outcome) outcome' → R (Answer.andThen x next) outcome'
  stops : ∀ {x outcome next}, R x outcome → outcome.isBroken = true →
    next outcome = Answer.ofOutcome outcome → R (Answer.andThen x next) outcome

namespace Answer.IsInvariant

variable {A α : Type} [Answer A] {R : A → Outcome → Prop} (hR : IsInvariant R)
include hR

theorem allPass
    {test : α → A} {test' : α → Outcome} {l : List α} (h : ∀ a ∈ l, R (test a) (test' a)) :
    R (ShapeCheck.allPass test l) (ShapeCheck.allPass test' l) := by
  induction l with
  | nil =>
      exact hR.ofOutcome (by simp)
  | cons a rest ih =>
      obtain ⟨ha, hrest⟩ := List.forall_mem_cons.mp h
      simp only [ShapeCheck.allPass, Answer.andThen_outcome]
      generalize test' a = outcome at ha
      rcases outcome with _ | failure | (failure | returned) | text
      case pass => exact hR.goesOn ha rfl (ih hrest)
      case fail | fault.notAFailure => exact hR.goesOn ha rfl (hR.ofOutcome (by simp))
      case fault.raised | panicked => exact hR.stops ha rfl rfl

theorem noneFails
    {test : α → A} {test' : α → Outcome} (h : ∀ a, R (test a) (test' a)) (l : List α) :
    R (ShapeCheck.noneFails test l) (ShapeCheck.noneFails test' l) := by
  induction l with
  | nil =>
      exact hR.ofOutcome (by simp)
  | cons a rest ih =>
      have ha := h a
      simp only [ShapeCheck.noneFails, Answer.andThen_outcome]
      generalize test' a = outcome at ha
      rcases outcome with _ | failure | (failure | returned) | text
      case pass | fault.notAFailure => exact hR.goesOn ha rfl ih
      case fail => exact hR.goesOn ha rfl (hR.ofOutcome (by simp))
      case fault.raised | panicked => exact hR.stops ha rfl rfl

/-- The test of one condition passes or fails, and does nothing else. -/
theorem ofCondition {p : Prop} [Decidable p] {failure : Failure} :
    R (Answer.ofOutcome (if p then .pass else .fail failure))
      (if p then .pass else .fail failure) := by
  refine hR.ofOutcome fun text => ?_
  split <;> simp

end Answer.IsInvariant

namespace Slot

/-- A relation holds of the runs of a slot and their outcomes. -/
def Keeps {A : Type} [Answer A] (R : A → Outcome → Prop) (s : Slot) : Prop :=
  ∀ call, R ((s.viewIn A .standard).invoke call) (s.invoke .standard call)

end Slot

namespace Rule

variable {A : Type} [Answer A] {R : A → Outcome → Prop} (hR : Answer.IsInvariant R) {q : Query}
include hR

theorem invariant_arrayOf {item : Slot} (hitem : item.Keeps R) :
    R ((arrayOf item).testIn A .standard q) ((arrayOf item).test .standard q) := by
  rw [testIn, testArrayOf, Slot.viewIn_callable, test_arrayOf]
  split
  · cases q.value.items? with
    | none => exact hR.ofOutcome (by simp)
    | some items => exact hR.noneFails (fun index => hitem (q.item index)) _
  · exact hR.ofOutcome (by simp)

theorem invariant_objectOf {item : Slot} (hitem : item.Keeps R) :
    R ((objectOf item).testIn A .standard q) ((objectOf item).test .standard q) := by
  rw [testIn, testObjectOf, Slot.viewIn_callable, test_objectOf]
  split
  · split
    · exact hR.noneFails (fun key => hitem (q.member key)) _
    · exact hR.ofOutcome (by simp)
  · exact hR.ofOutcome (by simp)

/-- A choice collects failures only, so a broken answer of an alternative ends it. -/
theorem invariant_alternatives
    {alternatives : List Slot} (h : ∀ a ∈ alternatives, a.Keeps R)
    (tried : Nat) (expected : List String) :
    R (testAlternatives tried expected q (alternatives.map (Slot.viewIn A .standard)))
      (testAlternatives tried expected q (alternatives.map (Slot.view .standard))) := by
  induction alternatives generalizing tried expected with
  | nil =>
      exact hR.ofOutcome (by simp)
  | cons a rest ih =>
      obtain ⟨ha, hrest⟩ := List.forall_mem_cons.mp h
      have ha := ha q.forward
      simp only [List.map_cons, testAlternatives, Answer.andThen_outcome, Slot.view_invoke]
      generalize a.invoke .standard q.forward = outcome at ha
      rcases outcome with _ | failure | (failure | returned) | text
      case fail => exact hR.goesOn ha rfl (ih hrest _ _)
      case pass | fault.notAFailure => exact hR.goesOn ha rfl (hR.ofOutcome (by simp))
      case fault.raised | panicked => exact hR.stops ha rfl rfl

theorem invariant_field {field : Slot} (hfield : field.Keeps R) (key : String) :
    R (testField q key (field.viewIn A .standard)) (testField q key (field.view .standard)) := by
  rw [testField, testField, Slot.viewIn_callable, Slot.view_callable, Slot.viewIn_preciseType,
    Slot.view_preciseType]
  split
  · exact hfield (q.member key)
  · exact hR.ofOutcome (by simp)

theorem invariant_shape
    {fields : List (String × Slot)} (h : ∀ field ∈ fields, field.2.Keeps R) :
    R ((shape fields).testIn A .standard q) ((shape fields).test .standard q) := by
  rw [testIn, viewFieldsIn_eq_map, testShape, test_shape, allPass_map]
  split
  · exact hR.allPass fun field hfield => invariant_field hR (h field hfield) field.1
  · exact hR.ofOutcome (by simp)

theorem invariant_exact
    {fields : List (String × Slot)} (h : ∀ field ∈ fields, field.2.Keeps R) :
    R ((exact fields).testIn A .standard q) ((exact fields).test .standard q) := by
  rw [testIn, viewFieldsIn_eq_map, testExact, test_exact, Keyed.keys_map]
  split
  · refine hR.allPass fun key _ => ?_
    rw [Keyed.get?_map, testKey]
    cases hget : Keyed.get? fields key with
    | none =>
        exact hR.ofOutcome (by simp)
    | some field =>
        exact invariant_field hR (h _ (Keyed.mem_of_get?_eq_some hget)) key
  · exact hR.ofOutcome (by simp)

/-- A rule keeps what its slots keep, and a rule of the user's what its own call keeps. -/
theorem invariant_testIn
    {rule : Rule} (hslots : ∀ child ∈ rule.slots, child.Keeps R)
    (hcustom : ∀ label test, rule = custom label test →
      R (Answer.ofRule label test q) (test q)) :
    R (rule.testIn A .standard q) (rule.test .standard q) := by
  cases rule with
  | inert | any =>
      exact hR.ofOutcome (by simp)
  | primitive | instanceOf | oneOf =>
      exact hR.ofCondition
  | arrayOf item =>
      exact invariant_arrayOf hR (hslots item (by simp [slots]))
  | objectOf item =>
      exact invariant_objectOf hR (hslots item (by simp [slots]))
  | oneOfType alternatives =>
      rw [testIn, viewSlotsIn_eq_map, test_eq_testOneOfType]
      exact invariant_alternatives hR hslots 0 []
  | shape fields =>
      exact invariant_shape hR fun field hfield => hslots field.2 (List.mem_map_of_mem hfield)
  | exact fields =>
      exact invariant_exact hR fun field hfield => hslots field.2 (List.mem_map_of_mem hfield)
  | custom label test =>
      exact hcustom label test rfl

end Rule

theorem Checker.invariant_guarded
    {A : Type} [Answer A] {R : A → Outcome → Prop} (hR : Answer.IsInvariant R)
    {run : Query → A} {test : Query → Outcome} (htest : ∀ q, R (run q) (test q))
    (inert required : Bool) (call : Call) :
    R (guarded .standard inert required run call)
      (guarded .standard inert required test call) := by
  rw [guarded, guarded]
  split
  · exact hR.ofOutcome (by simp [Guards.standard])
  · split
    · exact hR.ofOutcome (by simp)
    · split
      · exact hR.ofOutcome (by simp [Guards.standard])
      · split
        · refine hR.ofOutcome fun text => ?_
          split <;> simp
        · exact htest call.query

/-- An invariant that the calls of the rules in a tree keep holds of every run of the tree. -/
theorem Slot.invariant_viewIn
    {A : Type} [Answer A] {R : A → Outcome → Prop} (hR : Answer.IsInvariant R) {s : Slot}
    (hcustom : ∀ label test, s.HasRule label test → ∀ q, R (Answer.ofRule label test q) (test q)) :
    s.Keeps R := by
  induction s using Slot.induction with
  | checker rule required ih =>
      intro call
      refine Checker.invariant_guarded hR (fun q => ?_) _ _ call
      apply Rule.invariant_testIn hR
      · intro child hchild
        exact ih child hchild fun label test h => hcustom label test (.under hchild h)
      · rintro label test rfl
        exact hcustom label test (.here required) q
  | factory f =>
      exact fun call => hR.ofOutcome (by simp)
  | list items | value v =>
      exact fun call => hR.ofOutcome (by simp [Guards.standard])

/-! ### Recorded calls -/

/-- A call of a rule of the user's, and the answer that it gave. -/
structure RuleCall where
  label : String
  query : Query
  answer : Outcome

/-- An answer and the rules of the user's that were called for it, in order. -/
structure Recorded where
  answer : Outcome
  calls : List RuleCall

namespace Recorded

/-- What is done next is recorded behind what was done before, so no call is lost. -/
instance : Answer Recorded where
  ofOutcome outcome := ⟨outcome, []⟩
  andThen x next := ⟨(next x.answer).answer, x.calls ++ (next x.answer).calls⟩
  ofRule label test q := ⟨test q, [⟨label, q, test q⟩]⟩

/-- What is kept when records are put together: it holds without calls, where nothing panics, and
when calls are put behind those for an answer that is not broken. -/
structure IsInvariant (J : Recorded → Prop) : Prop where
  silent : ∀ outcome, (∀ text, outcome ≠ .panicked text) → J ⟨outcome, []⟩
  append : ∀ x y : Recorded, J x → x.answer.isBroken = false → J y →
    J ⟨y.answer, x.calls ++ y.calls⟩

/-- The answer of a record is the outcome, and what is kept holds of it. -/
theorem IsInvariant.isInvariant {J : Recorded → Prop} (hJ : IsInvariant J) :
    Answer.IsInvariant fun (x : Recorded) outcome => x.answer = outcome ∧ J x where
  ofOutcome h := ⟨rfl, hJ.silent _ h⟩
  goesOn := by
    rintro x _ next outcome' ⟨rfl, hx⟩ hfine ⟨hnext, hJnext⟩
    exact ⟨hnext, hJ.append x _ hx hfine hJnext⟩
  stops := by
    rintro ⟨answer, calls⟩ _ next ⟨rfl, hx⟩ - hstop
    have hsame : Answer.andThen ⟨answer, calls⟩ next = (⟨answer, calls⟩ : Recorded) := by
      simp [Answer.andThen, hstop, Answer.ofOutcome]
    exact ⟨by rw [hsame], by rwa [hsame]⟩

/-- The recorded calls are calls of rules in a tree. -/
def CallsRulesOf (s : Slot) (x : Recorded) : Prop :=
  ∀ c ∈ x.calls, ∃ test, s.HasRule c.label test ∧ c.answer = test c.query

theorem isInvariant_callsRulesOf (s : Slot) :
    IsInvariant (CallsRulesOf s) where
  silent outcome _ := by
    intro c hc
    cases hc
  append x y hx _ hy := by
    intro c hc
    rcases List.mem_append.mp hc with hc | hc
    · exact hx c hc
    · exact hy c hc

end Recorded

namespace Slot

/-- What a slot answers, with the rules of the user's that are called for it. -/
def record (s : Slot) (call : Call) : Recorded :=
  (s.viewIn Recorded .standard).invoke call

/-- The calls of rules of the user's that are made for the answer of a slot, in order. -/
def ruleCalls (s : Slot) (call : Call) : List RuleCall :=
  (s.record call).calls

/-- What is kept by the calls of the rules in a tree holds of what is recorded for the tree, and the
recorded answer is the answer. -/
theorem record_invariant
    {J : Recorded → Prop} (hJ : Recorded.IsInvariant J) {s : Slot}
    (hcustom : ∀ label test, s.HasRule label test → ∀ q, J ⟨test q, [⟨label, q, test q⟩]⟩)
    (call : Call) :
    (s.record call).answer = s.invoke .standard call ∧ J (s.record call) :=
  invariant_viewIn hJ.isInvariant (fun label test h q => ⟨rfl, hcustom label test h q⟩) call

/-- Recording changes no answer. -/
theorem answer_record (s : Slot) (call : Call) :
    (s.record call).answer = s.invoke .standard call := by
  have hany : Recorded.IsInvariant fun _ => True := ⟨fun _ _ => trivial, fun _ _ _ _ _ => trivial⟩
  exact (record_invariant hany (fun _ _ _ _ => trivial) call).1

/-- Every recorded call is one of a rule in the tree, and holds what this rule answers. -/
theorem exists_rule_of_mem_ruleCalls
    {s : Slot} {call : Call} {c : RuleCall} (h : c ∈ s.ruleCalls call) :
    ∃ test, s.HasRule c.label test ∧ c.answer = test c.query := by
  have hrecord : (s.record call).CallsRulesOf s := by
    refine (record_invariant (Recorded.isInvariant_callsRulesOf s) ?_ call).2
    intro label test hrule q c hc
    obtain rfl := List.mem_singleton.mp hc
    exact ⟨test, hrule, rfl⟩
  exact hrecord c h

end Slot
end ShapeCheck
