import Mathlib.Data.List.Nodup
import ShapeCheck.Proofs.Answers

/-!
# Objects with and without other properties

An exact object is checked along its own keys and then along the declared names that are left, an
object with fields along the declared names.  The two orders lead to different failures, but to the
same passes: an exact object passes when its fields do and it has no other own keys.

* `gatherKeys_eq`: the keys of an exact object, gathered one after the other.
* `test_exact_eq_pass_iff`: when an exact object passes.
* `Slot.exact_passes_iff_shape_passes`: the same for every call, with the keys that are gone
  through.
-/

namespace ShapeCheck

namespace Value

theorem ownKeys_of_isNullish
    {v : Value} (h : v.isNullish = true) :
    v.ownKeys = [] := by
  cases v with
  | undefined | null => rfl
  | _ => cases h

end Value

namespace Rule

/-- Keys gathered one after the other: a declared name is put behind the others unless it is among
them. -/
def gatherKeys (own declared : List String) : List String :=
  declared.foldl (fun keys name => if keys.contains name then keys else keys ++ [name]) own

/-- The own keys come first, the declared names that are not among them follow in their order. -/
theorem gatherKeys_eq
    {declared : List String} (h : declared.Nodup) (own : List String) :
    gatherKeys own declared = own ++ declared.filter (!own.contains ·) := by
  induction declared generalizing own with
  | nil =>
      simp [gatherKeys]
  | cons name rest ih =>
      obtain ⟨hname, hrest⟩ := List.nodup_cons.mp h
      by_cases hown : name ∈ own
      · have hstep : gatherKeys own (name :: rest) = gatherKeys own rest := by
          simp [gatherKeys, hown]
        rw [hstep, ih hrest]
        simp [hown]
      · have hstep : gatherKeys own (name :: rest) = gatherKeys (own ++ [name]) rest := by
          simp [gatherKeys, hown]
        -- The name does not come again, so it makes no difference that it is among the keys now.
        have hfilter :
            rest.filter (!(own ++ [name]).contains ·) = rest.filter (!own.contains ·) := by
          refine List.filter_congr fun key hkey => ?_
          have hne : key ≠ name := by
            rintro rfl
            exact hname hkey
          simp [hne]
        rw [hstep, ih hrest, hfilter]
        simp [hown]

/-- No key is gone through twice. -/
theorem nodup_gatherKeys
    {own declared : List String} (hown : own.Nodup) (hdeclared : declared.Nodup) :
    (gatherKeys own declared).Nodup := by
  rw [gatherKeys_eq hdeclared, List.nodup_append]
  refine ⟨hown, hdeclared.filter _, ?_⟩
  rintro key hkey _ hrest rfl
  simp [hkey] at hrest

/-- An exact object passes when its fields do and every own key is declared. -/
theorem test_exact_eq_pass_iff
    {fields : List (String × Slot)} (hfields : (Keyed.keys fields).Nodup) (q : Query) :
    (exact fields).test .standard q = .pass
      ↔
    (shape fields).test .standard q = .pass ∧
      ∀ key ∈ q.value.ownKeys, key ∈ Keyed.keys fields := by
  rw [test_exact, test_shape]
  by_cases hobject : q.value.propType = .object
  · rw [if_pos hobject, if_pos hobject, allPass_eq_pass_iff, allPass_eq_pass_iff]
    simp only [testKey_eq_pass_iff, testField_eq_pass_iff]
    exact forall_exactKeys_iff hfields
  · simp [hobject]

end Rule

namespace Slot

/-- An exact object and an object with the same fields, both required or both not, pass the same
calls, but for the calls on a value with an own key that is not declared.  The keys that an exact
object is checked at are its own and then the other declared names, each of them once. -/
theorem exact_passes_iff_shape_passes
    {fields : List (String × Slot)} (hfields : (Keyed.keys fields).Nodup) :
    (∀ (required : Bool) (call : Call),
      (checker (.exact fields) required).invoke .standard call = .pass
        ↔
      (checker (.shape fields) required).invoke .standard call = .pass ∧
        ∀ key ∈ (call.props.property call.name).ownKeys, key ∈ Keyed.keys fields) ∧
    ∀ q : Query, q.value.ownKeys.Nodup →
      let keys := Rule.gatherKeys q.value.ownKeys (Keyed.keys fields)
      ((Rule.exact fields).test .standard q =
        if q.value.propType = .object then allPass (Rule.testKey .standard fields q) keys
        else .fail (Wording.notAnObject q)) ∧
      keys = q.value.ownKeys ++ (Keyed.keys fields).filter (!q.value.ownKeys.contains ·) ∧
      keys.Nodup ∧
      ∀ key ∈ Keyed.keys fields, keys.count key = 1 := by
  constructor
  · intro required call
    cases hcaller : call.caller with
    | outside =>
        simp [invoke_checker, Checker.guarded, hcaller, Guards.standard]
    | batch =>
        cases hvalue : call.query.value.isNullish with
        | false =>
            rw [invoke_checker_of_present hcaller hvalue, invoke_checker_of_present hcaller hvalue]
            exact Rule.test_exact_eq_pass_iff hfields call.query
        | true =>
            have hkeys : (call.props.property call.name).ownKeys = [] :=
              Value.ownKeys_of_isNullish hvalue
            have hsame :
                (checker (.exact fields) required).invoke .standard call =
                  (checker (.shape fields) required).invoke .standard call := by
              simp [invoke_checker, Checker.guarded, Rule.isInert, hvalue]
            rw [hsame, hkeys]
            simp
  · intro q hown keys
    have hkeys : keys = Rule.exactKeys q.value.ownKeys (Keyed.keys fields) :=
      Rule.gatherKeys_eq hfields q.value.ownKeys
    have hnodup : keys.Nodup := Rule.nodup_gatherKeys hown hfields
    refine ⟨?_, hkeys, hnodup, ?_⟩
    · rw [Rule.test_exact, hkeys]
    · intro key hkey
      apply List.count_eq_one_of_mem hnodup
      rw [hkeys]
      exact Rule.mem_exactKeys.mpr (Or.inr hkey)

/-- A date has no own keys, so it passes both where no field is required; an object with a key that
is not declared passes only where other properties may be there. -/
theorem exact_passes_iff_shape_passes_of_date :
    let fields : List (String × Slot) :=
      [("a", .checker (.custom "none" fun _ => .pass) false), ("b", .checker .any false)]
    let q : Query := ⟨.object 0 none [("x", .object 1 none [("c", .null), ("b", .null)])],
      "x", "C", "prop", "x"⟩
    let call (v : Value) : Call := ⟨.object 0 none [("x", v)], "x", none, "prop", none, .batch⟩
    (Keyed.keys fields).Nodup ∧ q.value.ownKeys.Nodup ∧
      (checker (.exact fields) true).invoke .standard (call (.date 1 ⟨0, 0⟩)) = .pass ∧
      (checker (.exact fields) true).invoke .standard (call q.value) ≠ .pass ∧
      (checker (.shape fields) true).invoke .standard (call q.value) = .pass ∧
      Rule.gatherKeys q.value.ownKeys (Keyed.keys fields) = ["c", "b", "a"] := by
  intro fields q call
  have hfields : (Keyed.keys fields).Nodup := by decide
  have hown : q.value.ownKeys.Nodup := by decide
  obtain ⟨hpass, hkeys⟩ := exact_passes_iff_shape_passes hfields
  refine ⟨hfields, hown, ?_, ?_, rfl, ?_⟩
  · rw [hpass]
    exact ⟨rfl, by decide⟩
  · rw [ne_eq, hpass]
    rintro ⟨-, hdeclared⟩
    exact absurd (hdeclared "c" (by decide)) (by decide)
  · rw [(hkeys q hown).2.1]
    decide

end Slot
end ShapeCheck
