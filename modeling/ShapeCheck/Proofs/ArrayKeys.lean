import Mathlib.Data.List.Induction
import ShapeCheck.Proofs.Reading

/-!
# The keys of arrays

An item of an array is read under the decimal text of its index.  The keys are read leniently, so
the same item is also found under texts with zeros or a plus sign in front, and under no others.

* `IsIndexKey`: the keys that stand for an index.
* `arrayIndex?_eq_some_iff`: these are the keys that are read as this index.
* `Value.items_by_index_keys`: what an array holds under which key.
-/

namespace ShapeCheck

/-- A key stands for an index when it is the decimal text of the index, perhaps with zeros in front
and with a plus sign in front of them. -/
def IsIndexKey (key : String) (index : Nat) : Prop :=
  ∃ sign ∈ ["", "+"], ∃ zeros : Nat,
    key = sign ++ String.ofList (List.replicate zeros '0') ++ toString index

section Digits

variable {digits : List Char} {index : Nat}

theorem exists_digitChar {c : Char} (h : c.isDigit = true) :
    ∃ d < 10, c = Nat.digitChar d := by
  obtain ⟨hlow, hhigh⟩ : 48 ≤ c.toNat ∧ c.toNat ≤ 57 := Char.isDigit_iff_toNat.mp h
  refine ⟨c.toNat - 48, by omega, Char.toNat_inj.mp ?_⟩
  rw [Nat.toNat_digitChar_of_lt_ten (by omega)]
  omega

/-- Digits are zeros and the decimal text of the number that they stand for. -/
theorem exists_zeros_of_digits (hne : digits ≠ []) (hdigits : ∀ c ∈ digits, c.isDigit = true) :
    ∃ zeros : Nat,
      digits = List.replicate zeros '0' ++ Nat.toDigits 10 (Nat.ofDigitChars 10 digits 0) := by
  induction digits using List.reverseRecOn with
  | nil =>
      exact absurd rfl hne
  | append_singleton front c ih =>
      obtain ⟨hfront, hc⟩ := List.forall_mem_append.mp hdigits
      obtain ⟨d, hd, rfl⟩ := exists_digitChar (hc c List.mem_cons_self)
      rw [Nat.ofDigitChars_append, Nat.ofDigitChars_cons_digitChar_of_lt_ten hd,
        Nat.ofDigitChars_nil]
      by_cases hempty : front = []
      · refine ⟨0, ?_⟩
        rw [hempty, Nat.ofDigitChars_nil, Nat.mul_zero, Nat.zero_add, Nat.toDigits_of_lt_base hd]
        rfl
      · obtain ⟨zeros, hzeros⟩ := ih hempty hfront
        generalize Nat.ofDigitChars 10 front 0 = n at hzeros ⊢
        rcases Nat.eq_zero_or_pos n with rfl | hpos
        · -- Nothing but zeros has been read, and the text of zero is one of them.
          refine ⟨zeros + 1, ?_⟩
          rw [Nat.mul_zero, Nat.zero_add, Nat.toDigits_of_lt_base hd, hzeros, Nat.toDigits_zero,
            List.replicate_succ']
        · refine ⟨zeros, ?_⟩
          rw [← Nat.toDigits_append_toDigits (by decide) hpos hd, Nat.toDigits_of_lt_base hd,
            ← List.append_assoc, ← hzeros]

theorem ofDigitChars_zeros_append (zeros index : Nat) :
    Nat.ofDigitChars 10 (List.replicate zeros '0' ++ Nat.toDigits 10 index) 0 = index := by
  rw [Nat.ofDigitChars_append, Nat.ofDigitChars_replicate_zero, Nat.mul_zero,
    Nat.ofDigitChars_ten_toDigits]

theorem isDigit_of_mem_zeros_append {zeros : Nat} {c : Char}
    (hc : c ∈ List.replicate zeros '0' ++ Nat.toDigits 10 index) :
    c.isDigit = true := by
  rcases List.mem_append.mp hc with hzero | hdigit
  · rw [List.eq_of_mem_replicate hzero]
    rfl
  · exact Nat.isDigit_of_mem_toDigits (by decide) (by decide) hdigit

end Digits

section Keys

variable {key : String} {index : Nat}

/-- A key that is read as an index consists of digits, after at most one plus sign. -/
theorem exists_digits_of_arrayIndex? (h : arrayIndex? key = some index) :
    ∃ sign ∈ ["", "+"], ∃ digits : List Char,
      key.toList = sign.toList ++ digits ∧ digits ≠ [] ∧ (∀ c ∈ digits, c.isDigit = true) ∧
        Nat.ofDigitChars 10 digits 0 = index := by
  obtain ⟨sign, hsign, digits, hkey, hread⟩ :
      ∃ sign ∈ ["", "+"], ∃ digits : List Char, key.toList = sign.toList ++ digits ∧
        arrayIndex? key =
          if digits.isEmpty || !digits.all Char.isDigit then none
          else some (Nat.ofDigitChars 10 digits 0) := by
    simp only [arrayIndex?, Nat.ofDigitChars_eq_foldl]
    split
    · next rest hrest => exact ⟨"+", by simp, rest, hrest, rfl⟩
    · exact ⟨"", by simp, key.toList, rfl, rfl⟩
  rw [hread] at h
  split_ifs at h with hbad
  rw [Bool.or_eq_true, not_or, List.isEmpty_iff, Bool.not_eq_true', Bool.not_eq_false,
    List.all_eq_true] at hbad
  exact ⟨sign, hsign, digits, hkey, hbad.1, hbad.2, Option.some.inj h⟩

/-- Digits are read after a plus sign as they are without. -/
theorem arrayIndex?_of_sign
    {sign : String} (hsign : sign ∈ ["", "+"]) {digits : List Char}
    (hkey : key.toList = sign.toList ++ digits)
    (hne : digits ≠ []) (hdigits : ∀ c ∈ digits, c.isDigit = true) :
    arrayIndex? key = some (Nat.ofDigitChars 10 digits 0) := by
  obtain rfl | rfl : sign = "" ∨ sign = "+" := by simpa using hsign
  · rw [String.toList_empty, List.nil_append] at hkey
    subst hkey
    exact arrayIndex?_of_digits hne hdigits
  · have hplus : key.toList = '+' :: digits := hkey
    have hall : digits.all Char.isDigit = true := List.all_eq_true.mpr hdigits
    simp [arrayIndex?, hplus, hne, hall, Nat.ofDigitChars_eq_foldl]

/-- The keys that are read as an index. -/
theorem arrayIndex?_eq_some_iff :
    arrayIndex? key = some index ↔ IsIndexKey key index := by
  constructor
  · intro h
    obtain ⟨sign, hsign, digits, hkey, hne, hdigits, rfl⟩ := exists_digits_of_arrayIndex? h
    obtain ⟨zeros, hzeros⟩ := exists_zeros_of_digits hne hdigits
    refine ⟨sign, hsign, zeros, String.toList_inj.mp ?_⟩
    rw [hkey, String.toList_append, String.toList_append, String.toList_ofList,
      Nat.toString_eq_repr, Nat.toList_repr, List.append_assoc, ← hzeros]
  · rintro ⟨sign, hsign, zeros, rfl⟩
    have hkey : (sign ++ String.ofList (List.replicate zeros '0') ++ toString index).toList =
        sign.toList ++ (List.replicate zeros '0' ++ Nat.toDigits 10 index) := by
      rw [String.toList_append, String.toList_append, String.toList_ofList,
        Nat.toString_eq_repr, Nat.toList_repr, List.append_assoc]
    rw [arrayIndex?_of_sign hsign hkey, ofDigitChars_zeros_append]
    · exact List.append_ne_nil_of_right_ne_nil _ Nat.toDigits_ne_nil
    · exact fun c hc => isDigit_of_mem_zeros_append hc

end Keys

namespace Value

/-- An array holds an item under the keys that stand for its index and under no others; the decimal
text of the index is one of them. -/
theorem items_by_index_keys (id : Identity) (items : List Value) :
    (∀ key item,
      (array id items).property? key = some item
        ↔
      ∃ index, IsIndexKey key index ∧ items[index]? = some item) ∧
    (∀ index : Nat, (array id items).property? (toString index) = items[index]?) := by
  constructor
  · intro key item
    rw [property?, Option.bind_eq_some_iff]
    exact exists_congr fun index => and_congr_left' arrayIndex?_eq_some_iff
  · intro index
    rw [property?, arrayIndex?_toString, Option.bind_some]

/-- The second item is also found with a zero and with a plus sign in front of its index. -/
example :
    let items := [.bool false, .bool true]
    (array 0 items).property? "01" = some (.bool true) ∧
      (array 0 items).property? "+1" = some (.bool true) ∧
      (array 0 items).property? "-0" = none := by
  exact ⟨rfl, rfl, rfl⟩

end Value
end ShapeCheck
