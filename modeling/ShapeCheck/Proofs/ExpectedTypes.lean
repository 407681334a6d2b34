import ShapeCheck.Proofs.Provenance

/-!
# The types that a choice lists

When every alternative of a choice fails, the failure of the choice lists the types that these
failures carry.  Only the failure of a checker of one type carries a type, and a container hands up
the failure of a checker inside it as it is.  A listed type is therefore accepted by the alternative
that contributes it when this alternative is itself the checker of the type; a type contributed by a
container is the type of something inside it.

* `Checker.FailsItself.eq_primitive`: which failures carry a type.
* `Slot.exists_path_of_expectedTypes`: where a type that an alternative contributes comes from.
* `Slot.choice_lists_expected_types`: the failure of a choice, its list and its message.
-/

namespace ShapeCheck

/-- Whether a slot accepts every value of the named type. -/
def Slot.AcceptsType (s : Slot) (type : String) : Prop :=
  ∀ v : Value, v.isNullish = false → v.propType.name = type → s.accepts v = true

namespace Checker

/-- A failure that carries a type is the failure of a checker of this type. -/
theorem FailsItself.eq_primitive
    {c : Checker} {q : Query} {failure : Failure} {type : String}
    (h : c.FailsItself q failure) (htype : failure.details.expectedType = some type) :
    c.rule = .primitive type ∧ q.value.propType.name ≠ type := by
  cases h with
  | missing => cases htype
  | refused _ hrefuses =>
      cases hrefuses with
      | primitive hne =>
          obtain rfl := Option.some.inj htype
          exact ⟨rfl, hne⟩
      | _ => cases htype

/-- The checker of a type accepts every value of the type. -/
theorem acceptsType_of_primitive
    {c : Checker} {type : String} (h : c.rule = .primitive type) :
    c.slot.AcceptsType type := by
  intro v hpresent htype
  simp [slot, h, Slot.accepts, Rule.accepts, hpresent, htype]

end Checker

namespace Slot

/-- A path without steps leads nowhere else. -/
theorem Leads.eq_slot
    {s : Slot} {v : Value} {c : Checker} (h : s.Leads v [] c) :
    s = c.slot := by
  cases h
  rfl

section Choice

variable {q : Query}

theorem mem_expectedTypes_iff {outcome : Outcome} {type : String} :
    type ∈ outcome.expectedTypes ↔
      ∃ failure, outcome = .fail failure ∧ failure.details.expectedType = some type := by
  cases outcome <;> simp [Outcome.expectedTypes]

/-- A type that a failing tree contributes is that of a checker inside it, which refuses what stands
at the end of the path to it. -/
theorem exists_path_of_expectedTypes
    {a : Slot} (hbuiltIn : a.isBuiltIn = true) (hpresent : q.value.isNullish = false)
    {type : String} (htype : type ∈ (a.invoke .standard q.forward).expectedTypes) :
    ∃ path c,
      a.Leads q.value path c ∧ c.rule = .primitive type ∧
      (q.value.readAlong path).propType.name ≠ type := by
  obtain ⟨failure, hfail, hexpected⟩ := mem_expectedTypes_iff.mp htype
  obtain ⟨path, c, hleads, hfails⟩ :=
    exists_path_of_fail hbuiltIn q.forward failure rfl (Value.isNullish_of_property hpresent) hfail
  obtain ⟨hrule, hne⟩ := hfails.eq_primitive hexpected
  rw [Query.along_value] at hne
  exact ⟨path, c, hleads, hrule, hne⟩

/-- A choice whose alternatives all reject a value fails with the types that their failures
carry. -/
theorem invoke_oneOfType_of_rejected
    {alternatives : List Slot} {required : Bool}
    (hbuiltIn : (checker (.oneOfType alternatives) required).isBuiltIn = true)
    {call : Call} (hcaller : call.caller = .batch) (hpresent : call.query.value.isNullish = false)
    (hrejected : ∀ a ∈ alternatives, a.accepts call.query.value = false) :
    (∀ a ∈ alternatives, (a.invoke .standard call.query.forward).isFailure = true) ∧
    (checker (.oneOfType alternatives) required).invoke .standard call =
      .fail (Wording.noAlternative call.query
        (alternatives.flatMap fun a =>
          (a.invoke .standard call.query.forward).expectedTypes)) := by
  obtain ⟨hbuilt, -, hchildren⟩ := isBuiltIn_checker hbuiltIn
  have hcallable := List.all_eq_true.mp hbuilt
  constructor
  · intro a ha
    have hdecides := Slot.decides .standard (hchildren a ha) (hcallable a ha)
    exact hdecides.isFailure hpresent (hrejected a ha)
  · rw [invoke_checker_of_present hcaller hpresent]
    exact (Rule.Refuses.noAlternative hrejected).test_eq hbuiltIn hpresent

/-- The failure of a choice that rejects a value that is there.  It lists the types that the
failures of the alternatives carry.  Each listed type is that of a checker in the tree of some alternative,
which refuses what stands at the end of the path to it and accepts every value of its type.  Where
the path has no steps, the alternative is this checker, so it accepts every value of the listed type
itself; a container contributes the type of something inside it.  The list is left out of the
message when no failure of an alternative carries a type, and only then. -/
theorem choice_lists_expected_types
    {alternatives : List Slot} {required : Bool}
    (hbuiltIn : (checker (.oneOfType alternatives) required).isBuiltIn = true)
    {call : Call} (hcaller : call.caller = .batch) (hpresent : call.query.value.isNullish = false)
    (hrejected : ∀ a ∈ alternatives, a.accepts call.query.value = false) :
    let q := call.query
    ∃ (failure : Failure) (listed : List String),
      (checker (.oneOfType alternatives) required).invoke .standard call = .fail failure ∧
      (∀ type, type ∈ listed ↔ ∃ a ∈ alternatives, ∃ found,
        a.invoke .standard q.forward = .fail found ∧ found.details.expectedType = some type) ∧
      (∀ type ∈ listed, ∃ a ∈ alternatives, ∃ path c,
        a.Leads q.value path c ∧
        (q.value.readAlong path).propType.name ≠ type ∧
        c.slot.AcceptsType type ∧
        (path = [] → a.AcceptsType type)) ∧
      (listed = [] ↔ ∀ a ∈ alternatives, ∃ found,
        a.invoke .standard q.forward = .fail found ∧ found.details.expectedType = none) ∧
      failure.message =
        s!"Invalid {q.location} `{q.fullName}` supplied to `{q.component}`" ++
          (if listed = [] then ""
            else ", expected one of type [" ++ String.intercalate ", " listed ++ "]") ++ "." := by
  intro q
  obtain ⟨hfails, hinvoke⟩ := invoke_oneOfType_of_rejected hbuiltIn hcaller hpresent hrejected
  obtain ⟨-, -, hchildren⟩ := isBuiltIn_checker hbuiltIn
  refine ⟨_, alternatives.flatMap fun a => (a.invoke .standard q.forward).expectedTypes, hinvoke,
    ?_, ?_, ?_, ?_⟩
  · intro type
    simp only [List.mem_flatMap, mem_expectedTypes_iff]
  · intro type htype
    obtain ⟨a, ha, hmem⟩ := List.mem_flatMap.mp htype
    obtain ⟨path, c, hleads, hrule, hne⟩ :=
      exists_path_of_expectedTypes (hchildren a ha) hpresent hmem
    have haccepts := Checker.acceptsType_of_primitive hrule
    refine ⟨a, ha, path, c, hleads, hne, haccepts, ?_⟩
    rintro rfl
    rw [hleads.eq_slot]
    exact haccepts
  · rw [List.flatMap_eq_nil_iff]
    refine forall₂_congr fun a ha => ?_
    have hfail := hfails a ha
    cases h : a.invoke .standard q.forward with
    | fail found => simp [Outcome.expectedTypes]
    | pass | fault | panicked =>
        rw [h] at hfail
        cases hfail
  · simp only [Wording.noAlternative, Failure.plain, List.isEmpty_iff, q]

/-- A choice between an array of texts and a number rejects an array of a number.  The array
contributes the type of its item, and no alternative accepts texts; the number contributes its own
type. -/
theorem choice_lists_expected_types_of_item :
    let number : Slot := .checker (.primitive "number") true
    let texts : Slot := .checker (.arrayOf (.checker (.primitive "string") false)) false
    let choice : Slot := .checker (.oneOfType [texts, number]) false
    let call : Call :=
      ⟨.object 0 none [("x", .array 1 [.number .zero])], "x", some "C", "prop", none, .batch⟩
    choice.isBuiltIn = true ∧ call.caller = .batch ∧ call.query.value.isNullish = false ∧
      (∀ a ∈ [texts, number], a.accepts call.query.value = false) ∧
      ∃ (failure : Failure) (listed : List String),
        choice.invoke .standard call = .fail failure ∧
        "string" ∈ listed ∧ ¬ (∃ a ∈ [texts, number], a.AcceptsType "string") ∧
        "number" ∈ listed ∧ number.AcceptsType "number" := by
  intro number texts choice call
  have hbuiltIn : choice.isBuiltIn = true := by decide
  have hpresent : call.query.value.isNullish = false := rfl
  have hrejected : ∀ a ∈ [texts, number], a.accepts call.query.value = false := by decide +kernel
  obtain ⟨failure, listed, hinvoke, hlisted, -, -, -⟩ :=
    choice_lists_expected_types hbuiltIn rfl hpresent hrejected
  have hmem {type : String}
      (h : ∃ a ∈ [texts, number],
        type ∈ (a.invoke .standard call.query.forward).expectedTypes) :
      type ∈ listed := by
    obtain ⟨a, ha, htype⟩ := h
    obtain ⟨found, hfail, hexpected⟩ := mem_expectedTypes_iff.mp htype
    exact (hlisted type).mpr ⟨a, ha, found, hfail, hexpected⟩
  refine ⟨hbuiltIn, rfl, hpresent, hrejected, failure, listed, hinvoke, ?_, ?_, ?_, ?_⟩
  · exact hmem ⟨texts, by simp, by decide +kernel⟩
  · rintro ⟨a, ha, haccepts⟩
    have hrefused : ∀ a ∈ [texts, number], a.accepts (.string "a") = false := by decide +kernel
    exact absurd (haccepts (.string "a") rfl rfl) (by simp [hrefused a ha])
  · exact hmem ⟨number, by simp, by decide +kernel⟩
  · exact Checker.acceptsType_of_primitive (c := ⟨.primitive "number", true⟩) rfl

end Choice

end Slot
end ShapeCheck
