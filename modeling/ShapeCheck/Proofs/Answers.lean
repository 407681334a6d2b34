import ShapeCheck.Proofs.Reading
import ShapeCheck.Proofs.Tree

/-!
# What checkers answer

The laws by which later proofs open a checker: what it answers to a call inside a batch, and what
each rule with slots answers, in terms of the answers of these slots.

* `allPass_eq_iff`: a run of tests answers with the first answer that is no pass.
* `noneFails_eq_allPass`: to overlook what is neither a pass nor a failure is to read it as a pass.
* `testOneOfType_cases`: a choice is decided by the first alternative that does not fail.
* `Slot.invoke_checker_of_present`: on a value that is there, a checker answers what its rule does.
-/

namespace ShapeCheck

namespace Outcome

/-- Whether an answer says about the value whether it passes. -/
def isVerdict : Outcome → Bool
  | pass | fail _ => true
  | fault _ | panicked _ => false

/-- Whether an answer is a failure. -/
def isFailure : Outcome → Bool
  | fail _ => true
  | _ => false

/-- Whether an answer shows that a checker is broken: it raised a failure or panicked. -/
def isBroken : Outcome → Bool
  | fault (.raised _) | panicked _ => true
  | pass | fail _ | fault (.notAFailure _) => false

/-- An answer for which what is neither a pass nor a failure counts as a pass. -/
def forgiven : Outcome → Outcome
  | fault (.notAFailure _) => pass
  | outcome => outcome

/-- The types that a failing answer would have let pass. -/
def expectedTypes : Outcome → List String
  | fail failure => failure.details.expectedType.toList
  | _ => []

/-- An answer of the alternative at an index, as the answer of the choice that it decides. -/
def ofAlternative (q : Query) (index : Nat) : Outcome → Outcome
  | fault (.notAFailure returned) =>
      .fault (.raised (Wording.alternativeNotAFailure q index returned))
  | outcome => outcome

theorem forgiven_of_isVerdict
    {outcome : Outcome} (h : outcome.isVerdict = true) :
    outcome.forgiven = outcome := by
  cases outcome with
  | pass | fail => rfl
  | fault | panicked => cases h

/-- An alternative that does not fail does not make the choice fail. -/
theorem ofAlternative_ne_fail
    {outcome : Outcome} (h : outcome.isFailure = false)
    {q : Query} {index : Nat} {failure : Failure} :
    outcome.ofAlternative q index ≠ .fail failure := by
  rcases outcome with _ | _ | (_ | _) | _ <;> simp_all [ofAlternative, isFailure]

end Outcome

section Loops

variable {α β : Type}

theorem allPass_cons_of_pass
    {test : α → Outcome} {a : α} (h : test a = .pass) (rest : List α) :
    allPass test (a :: rest) = allPass test rest := by
  simp [allPass, h]

/-- An answer that is no pass ends a run of tests. -/
theorem allPass_cons_of_ne_pass
    {test : α → Outcome} {a : α} (h : test a ≠ .pass) (rest : List α) :
    allPass test (a :: rest) = test a := by
  cases ha : test a <;> simp_all [allPass]

/-- A run of tests answers with the first answer that is no pass. -/
theorem allPass_eq_iff
    {test : α → Outcome} {outcome : Outcome} (hne : outcome ≠ .pass) (l : List α) :
    allPass test l = outcome
      ↔
    ∃ before a after,
      l = before ++ a :: after ∧ (∀ b ∈ before, test b = .pass) ∧ test a = outcome := by
  induction l with
  | nil =>
      simp [allPass, hne.symm]
  | cons a rest ih =>
      by_cases hpass : test a = .pass
      · rw [allPass_cons_of_pass hpass, ih]
        constructor
        · rintro ⟨before, b, after, rfl, hbefore, hb⟩
          refine ⟨a :: before, b, after, rfl, ?_, hb⟩
          exact List.forall_mem_cons.mpr ⟨hpass, hbefore⟩
        · rintro ⟨before, b, after, hsplit, hbefore, hb⟩
          cases before with
          | nil =>
              obtain ⟨rfl, rfl⟩ := List.cons.inj hsplit
              exact absurd (hb.symm.trans hpass) hne
          | cons c before =>
              obtain ⟨rfl, rfl⟩ := List.cons.inj hsplit
              exact ⟨before, b, after, rfl, (List.forall_mem_cons.mp hbefore).2, hb⟩
      · rw [allPass_cons_of_ne_pass hpass]
        constructor
        · intro h
          exact ⟨[], a, rest, rfl, by simp, h⟩
        · rintro ⟨before, b, after, hsplit, hbefore, hb⟩
          cases before with
          | nil =>
              obtain ⟨rfl, rfl⟩ := List.cons.inj hsplit
              exact hb
          | cons c before =>
              obtain ⟨rfl, rfl⟩ := List.cons.inj hsplit
              exact absurd (hbefore a List.mem_cons_self) hpass

theorem allPass_map
    {A : Type} [Answer A] (f : α → β) (test : β → A) (l : List α) :
    allPass test (l.map f) = allPass (fun a => test (f a)) l := by
  induction l with
  | nil =>
      rfl
  | cons a rest ih =>
      simp only [List.map_cons, allPass, ih]

/-- The answer of a run is a pass or the answer of one of its tests. -/
theorem allPass_eq_pass_or_mem (test : α → Outcome) (l : List α) :
    allPass test l = .pass ∨ ∃ a ∈ l, allPass test l = test a := by
  by_cases hpass : allPass test l = .pass
  · exact Or.inl hpass
  · obtain ⟨before, a, after, rfl, -, ha⟩ := (allPass_eq_iff hpass l).mp rfl
    exact Or.inr ⟨a, by simp, ha.symm⟩

/-- To overlook what is neither a pass nor a failure is to read it as a pass. -/
theorem noneFails_eq_allPass (test : α → Outcome) (l : List α) :
    noneFails test l = allPass (fun a => (test a).forgiven) l := by
  induction l with
  | nil =>
      rfl
  | cons a rest ih =>
      cases h : test a with
      | pass | fail | panicked =>
          simp [noneFails, allPass, Outcome.forgiven, h, ih]
      | fault f =>
          cases f <;> simp [noneFails, allPass, Outcome.forgiven, h, ih]

/-- A run of tests that all say pass or failure says pass or failure. -/
theorem isVerdict_allPass
    {test : α → Outcome} {l : List α}
    (h : ∀ a ∈ l, (test a).isVerdict = true) :
    (allPass test l).isVerdict = true := by
  rcases allPass_eq_pass_or_mem test l with hpass | ⟨a, ha, heq⟩
  · rw [hpass]
    rfl
  · rw [heq]
    exact h a ha

theorem allPass_congr
    {test test' : α → Outcome} {l : List α}
    (h : ∀ a ∈ l, test a = test' a) :
    allPass test l = allPass test' l := by
  induction l with
  | nil =>
      rfl
  | cons a rest ih =>
      obtain ⟨ha, hrest⟩ := List.forall_mem_cons.mp h
      simp only [allPass, ha, ih hrest]

/-- Where every test says pass or failure, there is nothing to overlook. -/
theorem noneFails_eq_allPass_of_isVerdict
    {test : α → Outcome} {l : List α}
    (h : ∀ a ∈ l, (test a).isVerdict = true) :
    noneFails test l = allPass test l := by
  rw [noneFails_eq_allPass]
  exact allPass_congr fun a ha => Outcome.forgiven_of_isVerdict (h a ha)

/-- A list splits at the first member without a property, unless every member has it. -/
theorem forall_or_exists_first (p : α → Bool) (l : List α) :
    (∀ a ∈ l, p a = true) ∨
      ∃ before a after,
        l = before ++ a :: after ∧ (∀ b ∈ before, p b = true) ∧ p a = false := by
  cases h : l.find? (fun a => !p a) with
  | none =>
      left
      intro a ha
      simpa using List.find?_eq_none.mp h a ha
  | some a =>
      right
      obtain ⟨ha, before, after, hsplit, hbefore⟩ := List.find?_eq_some_iff_append.mp h
      exact ⟨before, a, after, hsplit, by simpa using hbefore, by simpa using ha⟩

/-- Alternatives that fail are counted and remembered, and decide nothing. -/
theorem testAlternatives_of_failing
    {q : Query} {before : List (SlotView Outcome)}
    (hfail : ∀ a ∈ before, (a.invoke q.forward).isFailure = true)
    (tried : Nat) (expected : List String) (rest : List (SlotView Outcome)) :
    Rule.testAlternatives tried expected q (before ++ rest) =
      Rule.testAlternatives (tried + before.length)
        (expected ++ before.flatMap fun a => (a.invoke q.forward).expectedTypes) q rest := by
  induction before generalizing tried expected with
  | nil =>
      simp
  | cons a before ih =>
      obtain ⟨ha, hbefore⟩ := List.forall_mem_cons.mp hfail
      cases h : a.invoke q.forward with
      | fail failure =>
          have hstep :
              Rule.testAlternatives tried expected q (a :: (before ++ rest)) =
                Rule.testAlternatives (tried + 1)
                  (expected ++ failure.details.expectedType.toList) q (before ++ rest) := by
            rw [Rule.testAlternatives_cons, h]
          rw [List.cons_append, hstep, ih hbefore]
          simp [h, Outcome.expectedTypes, Nat.add_assoc, Nat.add_comm 1]
      | pass | fault | panicked =>
          rw [h] at ha
          cases ha

/-- A choice is decided by its first alternative that does not fail; without one it fails. -/
theorem testOneOfType_cases (alternatives : List (SlotView Outcome)) (q : Query) :
    ((∀ a ∈ alternatives, (a.invoke q.forward).isFailure = true) ∧
      Rule.testOneOfType alternatives q =
        .fail (Wording.noAlternative q
          (alternatives.flatMap fun a => (a.invoke q.forward).expectedTypes))) ∨
    ∃ before a after,
      alternatives = before ++ a :: after ∧
      (∀ b ∈ before, (b.invoke q.forward).isFailure = true) ∧
      (a.invoke q.forward).isFailure = false ∧
      Rule.testOneOfType alternatives q =
        (a.invoke q.forward).ofAlternative q before.length := by
  rcases forall_or_exists_first (fun a => (a.invoke q.forward).isFailure) alternatives with
    hall | ⟨before, a, after, rfl, hbefore, ha⟩
  · left
    refine ⟨hall, ?_⟩
    have h := testAlternatives_of_failing hall 0 [] []
    rw [List.append_nil, List.nil_append] at h
    rw [Rule.testOneOfType, h]
    rfl
  · right
    refine ⟨before, a, after, rfl, hbefore, ha, ?_⟩
    rw [Rule.testOneOfType, testAlternatives_of_failing hbefore, Rule.testAlternatives_cons,
      Nat.zero_add]
    cases h : a.invoke q.forward with
    | fail failure =>
        rw [h] at ha
        cases ha
    | fault f =>
        cases f <;> rfl
    | pass | panicked => rfl

end Loops

/-- A checker asks its rule about values that are there only. -/
theorem Checker.guarded_congr_of_present
    {guards : Guards} {inert required : Bool} {test test' : Query → Outcome} {call : Call}
    (h : call.query.value.isNullish = false → test' call.query = test call.query) :
    guarded guards inert required test' call = guarded guards inert required test call := by
  cases hvalue : call.query.value.isNullish with
  | true => simp only [guarded, hvalue, if_true]
  | false => simp only [guarded, h hvalue]

namespace Slot

variable {guards : Guards}

@[simp] theorem view_invoke (s : Slot) :
    (s.view guards).invoke = s.invoke guards := by
  rfl

/-- On a value that is there, a checker answers what its rule does. -/
theorem invoke_checker_of_present
    {call : Call} (hcaller : call.caller = .batch)
    (hpresent : call.query.value.isNullish = false)
    (rule : Rule) (required : Bool) :
    (checker rule required).invoke guards call = rule.test guards call.query := by
  have hprops : call.props.isNullish = false :=
    Value.isNullish_of_property hpresent
  rw [invoke_checker]
  by_cases hinert : rule.isInert = true
  · cases rule <;>
      simp_all [Checker.guarded, Rule.isInert]
  · simp [Checker.guarded, hcaller, hinert, hprops, hpresent]

/-- On null and undefined, a checker answers by its mark of being required. -/
theorem invoke_checker_of_absent
    {call : Call} (hcaller : call.caller = .batch)
    (hprops : call.props.isNullish = false)
    (habsent : call.query.value.isNullish = true)
    (rule : Rule) (required : Bool) :
    (checker rule required).invoke guards call =
      if rule.isInert = false ∧ required = true then .fail (Wording.missing call.query)
      else .pass := by
  rw [invoke_checker]
  cases hinert : rule.isInert <;> cases required <;>
    simp [Checker.guarded, hcaller, hprops, habsent]

/-- Without a container, only a checker without demands passes. -/
theorem invoke_checker_of_noContainer
    {call : Call} (hcaller : call.caller = .batch)
    (hprops : call.props.isNullish = true)
    (rule : Rule) (required : Bool) :
    (checker rule required).invoke guards call =
      if rule.isInert = true then .pass else guards.noContainer call := by
  rw [invoke_checker]
  cases hinert : rule.isInert <;>
    simp [Checker.guarded, hcaller, hprops]

end Slot

namespace Rule

variable {guards : Guards}

/-- The answer of a field that has a checker is the answer of the checker. -/
theorem testField_of_isCallable
    {slot : Slot} (hcallable : slot.isCallable = true) (q : Query) (key : String) :
    testField q key (slot.view guards) = slot.invoke guards (q.member key) := by
  simp [testField, hcallable]

theorem testField_of_not_isCallable
    {slot : Slot} (hcallable : slot.isCallable = false) (q : Query) (key : String) :
    testField q key (slot.view guards) = .fail (Wording.invalidField q key slot.preciseType) := by
  simp [testField, hcallable]

/-- A field passes when it has a checker and this checker passes. -/
theorem testField_eq_pass_iff {slot : Slot} {q : Query} {key : String} :
    testField q key (slot.view guards) = .pass
      ↔
    slot.isCallable = true ∧ slot.invoke guards (q.member key) = .pass := by
  cases hcallable : slot.isCallable with
  | true => simp [testField_of_isCallable hcallable]
  | false => simp [testField_of_not_isCallable hcallable]

/-- The answer of an exact object at one of its keys. -/
def testKey (guards : Guards) (fields : List (String × Slot)) (q : Query) (key : String) :
    Outcome :=
  match Keyed.get? fields key with
  | some slot => testField q key (slot.view guards)
  | none => .fail (Wording.undeclaredKey q key (Keyed.keys fields))

theorem testKey_eq_pass_iff {fields : List (String × Slot)} {q : Query} {key : String} :
    testKey guards fields q key = .pass
      ↔
    ∃ declared, Keyed.get? fields key = some declared ∧
      declared.isCallable = true ∧ declared.invoke guards (q.member key) = .pass := by
  rw [testKey]
  cases Keyed.get? fields key with
  | none => simp
  | some declared => simp [testField_eq_pass_iff]

theorem test_arrayOf (item : Slot) (q : Query) :
    (arrayOf item).test guards q =
      if item.isCallable then
        match q.value.items? with
        | some items =>
            noneFails (fun index => item.invoke guards (q.item index)) (List.range items.length)
        | none => .fail (Wording.notAnArray q)
      else
        .fail (Wording.invalidNotation q .arrayOf) := by
  cases hcallable : item.isCallable <;> cases hitems : q.value.items? <;>
    simp [test_eq_testArrayOf, testArrayOf, hcallable, hitems]

theorem test_objectOf (item : Slot) (q : Query) :
    (objectOf item).test guards q =
      if item.isCallable then
        if q.value.propType = .object then
          noneFails (fun key => item.invoke guards (q.member key)) q.value.ownKeys
        else
          .fail (Wording.notAMap q)
      else
        .fail (Wording.invalidNotation q .objectOf) := by
  simp only [test_eq_testObjectOf, testObjectOf, Slot.view_callable, Slot.view_invoke,
    Answer.ofOutcome_outcome]

theorem test_shape (fields : List (String × Slot)) (q : Query) :
    (shape fields).test guards q =
      if q.value.propType = .object then
        allPass (fun field => testField q field.1 (field.2.view guards)) fields
      else
        .fail (Wording.notAnObject q) := by
  simp only [test_eq_testShape, testShape, allPass_map, Answer.ofOutcome_outcome]

theorem test_exact (fields : List (String × Slot)) (q : Query) :
    (exact fields).test guards q =
      if q.value.propType = .object then
        allPass (testKey guards fields q) (exactKeys q.value.ownKeys (Keyed.keys fields))
      else
        .fail (Wording.notAnObject q) := by
  simp only [test_eq_testExact, testExact, Keyed.keys_map, Answer.ofOutcome_outcome]
  split
  · apply allPass_congr
    intro key _
    rw [Keyed.get?_map, testKey]
    cases Keyed.get? fields key <;> rfl
  · rfl

/-- The own keys and the remaining declared names reach every declared field. -/
theorem mem_exactKeys {own declared : List String} {key : String} :
    key ∈ exactKeys own declared ↔ key ∈ own ∨ key ∈ declared := by
  by_cases hown : key ∈ own <;> simp [exactKeys, hown]

/-- What holds of the field at every key of an exact object holds of every field, and every own key
is declared. -/
theorem forall_exactKeys_iff
    {fields : List (String × Slot)} (hnodup : (Keyed.keys fields).Nodup)
    {own : List String} {P : String → Slot → Prop} :
    (∀ key ∈ exactKeys own (Keyed.keys fields),
      ∃ slot, Keyed.get? fields key = some slot ∧ P key slot)
      ↔
    (∀ field ∈ fields, P field.1 field.2) ∧ ∀ key ∈ own, key ∈ Keyed.keys fields := by
  constructor
  · intro h
    constructor
    · rintro ⟨key, slot⟩ hfield
      have hdeclared : key ∈ Keyed.keys fields := List.mem_map_of_mem hfield
      obtain ⟨slot', hget, hslot⟩ := h key (mem_exactKeys.mpr (Or.inr hdeclared))
      rw [Keyed.get?_eq_some_of_mem hnodup hfield] at hget
      obtain rfl := Option.some.inj hget
      exact hslot
    · intro key hown
      obtain ⟨slot, hget, -⟩ := h key (mem_exactKeys.mpr (Or.inl hown))
      exact List.mem_map_of_mem (Keyed.mem_of_get?_eq_some hget)
  · rintro ⟨hfields, hown⟩ key hkey
    have hdeclared : key ∈ Keyed.keys fields :=
      (mem_exactKeys.mp hkey).elim (hown key) id
    obtain ⟨⟨key', slot⟩, hfield, rfl⟩ := List.mem_map.mp hdeclared
    exact ⟨slot, Keyed.get?_eq_some_of_mem hnodup hfield, hfields _ hfield⟩

/-- A choice is decided by its first alternative that does not fail; without one it fails. -/
theorem test_oneOfType_cases (guards : Guards) (alternatives : List Slot) (q : Query) :
    ((∀ a ∈ alternatives, (a.invoke guards q.forward).isFailure = true) ∧
      (oneOfType alternatives).test guards q =
        .fail (Wording.noAlternative q
          (alternatives.flatMap fun a => (a.invoke guards q.forward).expectedTypes))) ∨
    ∃ before a after,
      alternatives = before ++ a :: after ∧
      (∀ b ∈ before, (b.invoke guards q.forward).isFailure = true) ∧
      (a.invoke guards q.forward).isFailure = false ∧
      (oneOfType alternatives).test guards q =
        (a.invoke guards q.forward).ofAlternative q before.length := by
  rw [test_eq_testOneOfType]
  rcases testOneOfType_cases (alternatives.map (Slot.view guards)) q with
    ⟨hall, htest⟩ | ⟨before, a, after, hsplit, hbefore, ha, htest⟩
  · left
    refine ⟨fun a ha => hall _ (List.mem_map_of_mem ha), ?_⟩
    rw [htest, List.flatMap_map]
    rfl
  · right
    obtain ⟨before', rest, rfl, rfl, hrest⟩ := List.map_eq_append_iff.mp hsplit
    obtain ⟨a', after', rfl, rfl, rfl⟩ := List.map_eq_cons_iff.mp hrest
    refine ⟨before', a', after', rfl, fun b hb => hbefore _ (List.mem_map_of_mem hb), ha, ?_⟩
    rw [htest, List.length_map]
    rfl

end Rule
end ShapeCheck
