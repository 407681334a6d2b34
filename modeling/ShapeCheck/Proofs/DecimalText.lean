import Mathlib.Algebra.Order.Field.Power
import Mathlib.Data.Rat.Cast.Order
import Mathlib.Tactic.FieldSimp
import Mathlib.Tactic.Positivity
import Mathlib.Tactic.Ring
import ShapeCheck.Binary64.Notation

/-!
# Decimals and their text

What a decimal stands for, and how this shows in its text: the place of the decimal point bounds the
number, trailing zeros make no difference, and the two notations can be told apart by their
characters.

* `Decimal.point_le_iff` and `Decimal.lt_point_iff`: the place of the decimal point as a bound.
* `Decimal.positional_of_natural`: a decimal that stands for a natural number is written like it.
* `Decimal.positional_injective` and `Decimal.scientific_injective`: texts of one length with one
  place of the decimal point.
-/

namespace ShapeCheck
namespace Decimal

/-- The number that a decimal stands for. -/
def toRat (d : Decimal) : ℚ :=
  d.significand * 10 ^ d.exponent

section Digits

variable {n : Nat}

theorem toDigits_injective {m n : Nat} (h : Nat.toDigits 10 m = Nat.toDigits 10 n) :
    m = n := by
  rw [← Nat.ofDigitChars_ten_toDigits (n := m), h, Nat.ofDigitChars_ten_toDigits]

/-- A positive number has `k` digits when it lies between two neighbouring powers of ten. -/
theorem length_toDigits_eq_iff {k : Nat} (hk : 0 < k) (hn : 0 < n) :
    (Nat.toDigits 10 n).length = k ↔ 10 ^ (k - 1) ≤ n ∧ n < 10 ^ k := by
  have hupper := Nat.length_toDigits_le_iff (n := n) (by decide : 1 < 10) hk
  by_cases hone : k = 1
  · have hpos := Nat.length_toDigits_pos (b := 10) (n := n)
    subst hone
    rw [Nat.sub_self, Nat.pow_zero]
    omega
  · have hlower :=
      Nat.length_toDigits_le_iff (n := n) (by decide : 1 < 10) (by omega : 0 < k - 1)
    omega

theorem toDigits_mul_ten (hn : 0 < n) :
    Nat.toDigits 10 (n * 10) = Nat.toDigits 10 n ++ ['0'] := by
  rw [Nat.toDigits_of_base_le (by decide) (by omega), Nat.mul_div_cancel n (by decide),
    Nat.mul_mod_left]
  rfl

/-- A power of ten appends zeros. -/
theorem toDigits_mul_pow (hn : 0 < n) (k : Nat) :
    Nat.toDigits 10 (n * 10 ^ k) = Nat.toDigits 10 n ++ List.replicate k '0' := by
  induction k with
  | zero =>
      simp
  | succ k ih =>
      rw [Nat.pow_succ, ← Nat.mul_assoc, toDigits_mul_ten (by positivity), ih, List.append_assoc,
        List.replicate_succ']

end Digits

section Reduce

variable {d : Decimal}

/-- A trailing zero counts as a power of ten. -/
theorem mul_zpow_of_mod_eq_zero {n : Nat} (h : n % 10 = 0) (e : Int) :
    (n / 10 : Nat) * (10 : ℚ) ^ (e + 1) = n * 10 ^ e := by
  have hten : (n : ℚ) = (n / 10 : Nat) * 10 := by
    exact_mod_cast (Nat.div_mul_cancel (Nat.dvd_of_mod_eq_zero h)).symm
  rw [hten, zpow_add_one₀ (by norm_num)]
  ring

@[simp] theorem toRat_reduce (d : Decimal) :
    d.reduce.toRat = d.toRat := by
  fun_induction reduce d with
  | case1 d h ih =>
      rw [ih, toRat, toRat, mul_zpow_of_mod_eq_zero h.2]
  | case2 d h =>
      rfl

theorem reduce_of_mod_ne_zero (h : d.significand % 10 ≠ 0) :
    d.reduce = d := by
  rw [reduce, if_neg fun hzero => h hzero.2]

/-- No trailing zeros are left. -/
theorem reduce_significand_mod (h : d.significand ≠ 0) :
    d.reduce.significand % 10 ≠ 0 := by
  fun_induction reduce d with
  | case1 d hd ih =>
      have hne : d.significand / 10 ≠ 0 := by omega
      exact ih hne
  | case2 d hd =>
      intro hzero
      exact hd ⟨h, hzero⟩

theorem exponent_le_reduce (d : Decimal) :
    d.exponent ≤ d.reduce.exponent := by
  fun_induction reduce d with
  | case1 d h ih => exact Int.le_of_lt (Int.lt_of_lt_of_le (Int.lt_succ d.exponent) ih)
  | case2 d h => exact Int.le_refl _

theorem exists_toRat_eq (h : 0 ≤ d.exponent) :
    ∃ n : Nat, d.toRat = n := by
  obtain ⟨k, hk⟩ := Int.eq_ofNat_of_zero_le h
  refine ⟨d.significand * 10 ^ k, ?_⟩
  rw [toRat, hk, zpow_natCast]
  norm_cast

end Reduce

section Point

variable {d : Decimal}

/-- The digits in front of the last place, and the last place, bound the number from both sides. -/
theorem toRat_bounds (h : 0 < d.significand) :
    (10 : ℚ) ^ (d.point - 1) ≤ d.toRat ∧ d.toRat < 10 ^ d.point := by
  have hlength : 0 < d.digits.length := Nat.length_toDigits_pos
  obtain ⟨hlow, hhigh⟩ := (length_toDigits_eq_iff hlength h).mp rfl
  have hunit : (0 : ℚ) < 10 ^ d.exponent := by positivity
  have hpoint : d.point - 1 = ((d.digits.length - 1 : Nat) : Int) + d.exponent := by
    rw [point]
    omega
  constructor
  · rw [hpoint, zpow_add₀ (by norm_num), zpow_natCast, toRat]
    refine mul_le_mul_of_nonneg_right ?_ hunit.le
    exact_mod_cast hlow
  · rw [point, zpow_add₀ (by norm_num), zpow_natCast, toRat]
    refine mul_lt_mul_of_pos_right ?_ hunit
    exact_mod_cast hhigh

/-- A number below a power of ten has its decimal point accordingly far to the left. -/
theorem point_le_iff (h : 0 < d.significand) {j : Int} :
    d.point ≤ j ↔ d.toRat < 10 ^ j := by
  obtain ⟨hlow, hhigh⟩ := toRat_bounds h
  constructor
  · intro hle
    exact hhigh.trans_le (zpow_le_zpow_right₀ (by norm_num) hle)
  · intro hlt
    have hpow : (10 : ℚ) ^ (d.point - 1) < 10 ^ j := hlow.trans_lt hlt
    have hlt' := (zpow_lt_zpow_iff_right₀ (by norm_num)).mp hpow
    omega

theorem lt_point_iff (h : 0 < d.significand) {j : Int} :
    j < d.point ↔ (10 : ℚ) ^ j ≤ d.toRat := by
  rw [← not_lt, ← point_le_iff h, not_le]

/-- The text has a fraction just when there are digits behind the decimal point. -/
theorem length_le_point_iff :
    (d.digits.length : Int) ≤ d.point ↔ 0 ≤ d.exponent := by
  rw [point]
  omega

end Point

section Text

variable {digits digits' : List Char} {point : Int}

/-- A decimal that stands for a natural number is written like this number. -/
theorem positional_of_natural
    {d : Decimal} (hpos : 0 < d.significand) (hexponent : 0 ≤ d.exponent)
    {n : Nat} (hn : d.toRat = n) :
    positional d.digits d.point = Nat.toDigits 10 n := by
  obtain ⟨k, hk⟩ := Int.eq_ofNat_of_zero_le hexponent
  have hnat : n = d.significand * 10 ^ k := by
    have hrat : (n : ℚ) = d.significand * 10 ^ k := by
      rw [← hn, toRat, hk]
      simp
    exact_mod_cast hrat
  have hlength : 0 < d.digits.length := Nat.length_toDigits_pos
  have hpoint : d.point.toNat = d.digits.length + k := by
    rw [point, hk]
    omega
  rw [positional, if_neg (by omega), if_pos (by omega), hpoint, Nat.add_sub_cancel_left, hnat,
    toDigits_mul_pow hpos]
  rfl

/-- A decimal point is written just when there are digits behind it. -/
theorem point_mem_positional_iff {d : Decimal} :
    '.' ∈ positional d.digits d.point ↔ d.exponent < 0 := by
  have hdigits : '.' ∉ d.digits := by
    intro hmem
    exact absurd (Nat.isDigit_of_mem_toDigits (by decide) (by decide) hmem) (by decide)
  have hlength : 0 < d.digits.length := Nat.length_toDigits_pos
  have hpoint : d.point = d.digits.length + d.exponent := rfl
  rw [positional]
  split
  · next hle =>
      simp only [List.mem_cons, true_or, or_true, true_iff]
      omega
  · next hgt =>
      split
      · next hle =>
          simp [hdigits]
          omega
      · next hgt' =>
          simp only [List.mem_append, List.mem_cons, true_or, or_true, true_iff]
          omega

/-- Only digits and the decimal point occur where no power of ten is written. -/
theorem exponentMark_not_mem_positional (h : 'e' ∉ digits) :
    'e' ∉ positional digits point := by
  have htake : 'e' ∉ digits.take point.toNat := fun hmem => h (List.mem_of_mem_take hmem)
  have hdrop : 'e' ∉ digits.drop point.toNat := fun hmem => h (List.mem_of_mem_drop hmem)
  rw [positional]
  split_ifs <;> simp [h, htake, hdrop]

theorem exponentMark_mem_scientific :
    'e' ∈ scientific digits point := by
  cases digits with
  | nil => simp [scientific, powerOfTen]
  | cons first rest => cases rest <;> simp [scientific, powerOfTen]

theorem exponentMark_not_mem_digits (d : Decimal) :
    'e' ∉ d.digits := by
  intro hmem
  exact absurd (Nat.isDigit_of_mem_toDigits (by decide) (by decide) hmem) (by decide)

/-- As many digits with the decimal point in the same place are read off the text. -/
theorem positional_injective
    (hlength : digits.length = digits'.length)
    (h : positional digits point = positional digits' point) :
    digits = digits' := by
  rw [positional, positional, ← hlength] at h
  split_ifs at h with hleft hright
  · simpa using h
  · exact (List.append_inj h hlength).1
  · obtain ⟨htake, hdrop⟩ := List.append_inj h (by simp [hlength])
    rw [← List.take_append_drop point.toNat digits, htake, (List.cons.inj hdrop).2,
      List.take_append_drop]

theorem scientific_injective
    (hlength : digits.length = digits'.length)
    (h : scientific digits point = scientific digits' point) :
    digits = digits' := by
  match digits, digits' with
  | [], [] =>
      rfl
  | [first], [first'] =>
      rw [(List.cons.inj h).1]
  | first :: second :: rest, first' :: second' :: rest' =>
      obtain ⟨hfirst, htail⟩ := List.cons.inj h
      have hrest := (List.append_inj (List.cons.inj htail).2 (by simpa using hlength)).1
      rw [hfirst, hrest]

end Text

end Decimal
end ShapeCheck
