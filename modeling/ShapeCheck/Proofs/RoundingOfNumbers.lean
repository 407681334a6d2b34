import ShapeCheck.Proofs.Magnitude
import ShapeCheck.Proofs.ShortestDecimal

/-!
# The reals that round to a number

A finite number stands for a multiple of a power of two, and the reals that round to it lie within
half of this power, which leaves room for a decimal of seventeen digits.

* `interval_proper` and `interval_wide`: every number but zero has a shortest decimal.
* `highest_le_lowest`: the intervals lie in the order of the numbers.
* `natAbs?_eq_some_iff`: which numbers are integers.
* `shortest_exponent_nonneg_iff`: which shortest decimals have no digits behind the decimal point.
-/

namespace ShapeCheck
namespace Binary64

/-- The distance between neighbouring numbers of the same exponent. -/
def place (x : Binary64) : ℚ :=
  2 ^ x.exponent

/-- What a finite number stands for, without the sign. -/
def magnitude (x : Binary64) : ℚ :=
  x.significand * x.place

section Interval

variable {x y : Binary64}

theorem place_pos (x : Binary64) :
    0 < x.place := by
  rw [place]
  positivity

theorem significand_lt (x : Binary64) :
    x.significand < 2 * hiddenBit := by
  have hfraction := x.fraction_lt
  rw [significand]
  split_ifs <;> omega

theorem significand_pos (h : x.isZero = false) :
    0 < x.significand := by
  have hfields := exponentField_mul_add_fraction x
  rw [isZero, decide_eq_false_iff_not] at h
  rw [significand]
  split_ifs with hfield
  · rw [hfield] at hfields
    omega
  · exact Nat.add_pos_left (by decide) _

theorem magnitude_of_isZero (h : x.isZero = true) :
    x.magnitude = 0 := by
  rw [isZero, decide_eq_true_iff] at h
  have hsignificand : x.significand = 0 := by
    rw [significand, exponentField, fraction, h]
    rfl
  rw [magnitude, hsignificand, Nat.cast_zero, zero_mul]

/-- Quarters of a place as they are counted in the interval. -/
theorem quarters_div (x : Binary64) (a : Nat) :
    ((a * Nat.pow 2 (x.exponent - 2).toNat : Nat) : ℚ) / Nat.pow 2 (2 - x.exponent).toNat =
      a / 4 * x.place := by
  have hscale : (2 : ℚ) ^ (x.exponent - 2) =
      2 ^ (x.exponent - 2).toNat / 2 ^ (2 - x.exponent).toNat := by
    rw [RoundingInterval.zpow_eq_div, neg_sub]
  rw [zpow_sub₀ (by norm_num)] at hscale
  rw [place, Nat.cast_mul, Nat.pow_eq, Nat.pow_eq, Nat.cast_pow, Nat.cast_pow, Nat.cast_ofNat,
    mul_div_assoc, ← hscale]
  ring

@[simp] theorem exact_interval (x : Binary64) :
    x.interval.exact = x.magnitude := by
  rw [RoundingInterval.exact, magnitude]
  refine (quarters_div x (4 * x.significand)).trans ?_
  push_cast
  ring

theorem highest_interval (x : Binary64) :
    x.interval.highest = (x.significand + 1 / 2) * x.place := by
  rw [RoundingInterval.highest]
  refine (quarters_div x (4 * x.significand + 2)).trans ?_
  push_cast
  ring

/-- Below a power of two the numbers lie closer together. -/
theorem lowest_interval (h : x.isZero = false) :
    x.interval.lowest =
      (x.significand - if x.fraction = 0 ∧ 1 < x.exponentField then 1 / 4 else 1 / 2) *
        x.place := by
  have hpos := significand_pos h
  rw [RoundingInterval.lowest]
  refine (quarters_div x _).trans ?_
  rw [Nat.cast_sub (by split_ifs <;> omega)]
  split_ifs
  · push_cast
    ring
  · push_cast
    ring

theorem interval_proper (h : x.isZero = false) :
    x.interval.Proper where
  denominator_pos := Nat.pow_pos (by decide)
  low_lt := by
    have hpos := significand_pos h
    refine Nat.mul_lt_mul_of_pos_right ?_ (Nat.pow_pos (by decide))
    split_ifs <;> omega
  lt_high := Nat.mul_lt_mul_of_pos_right (by omega) (Nat.pow_pos (by decide))

theorem le_lowest_interval (h : x.isZero = false) :
    (x.significand - 1 / 2) * x.place ≤ x.interval.lowest := by
  have hplace := x.place_pos
  rw [lowest_interval h]
  refine mul_le_mul_of_nonneg_right ?_ hplace.le
  split_ifs <;> linarith

/-- Seventeen digits tell all numbers apart. -/
theorem interval_wide (h : x.isZero = false) :
    x.interval.Wide := by
  have hplace := x.place_pos
  have hdecade := (RoundingInterval.exact_bounds (interval_proper h)).1
  have hunit : (10 : ℚ) ^ (x.interval.decade - 17) = 10 ^ (x.interval.decade - 1) / 10 ^ 16 := by
    rw [← zpow_natCast, ← zpow_sub₀ (by norm_num)]
    congr 1
    omega
  rw [exact_interval, magnitude] at hdecade
  rw [RoundingInterval.Wide, hunit, highest_interval, lowest_interval h, ← sub_mul,
    div_lt_iff₀ (by norm_num)]
  refine lt_of_le_of_lt hdecade ?_
  rw [mul_assoc, mul_comm x.place, ← mul_assoc]
  refine mul_lt_mul_of_pos_right ?_ hplace
  split_ifs with hpower
  · have hsignificand : x.significand = hiddenBit := by
      rw [significand, if_neg (by omega), hpower.1, Nat.add_zero]
    rw [hsignificand, hiddenBit]
    norm_num
  · have hlt : (x.significand : ℚ) < (2 * hiddenBit : Nat) := by exact_mod_cast x.significand_lt
    rw [hiddenBit] at hlt
    push_cast at hlt
    linarith

end Interval

section Order

variable {x y : Binary64}

/-- The numbers from a power of two on. -/
theorem hiddenBit_sub_le_lowest (h : 1 < x.exponentField) :
    (hiddenBit - 1 / 4) * x.place ≤ x.interval.lowest := by
  have hzero : x.isZero = false := by
    have hfields := exponentField_mul_add_fraction x
    rw [isZero, decide_eq_false_iff_not]
    intro hzero
    rw [hzero, hiddenBit] at hfields
    omega
  have hsignificand : x.significand = hiddenBit + x.fraction := by
    rw [significand, if_neg (by omega)]
  rw [lowest_interval hzero, hsignificand]
  refine mul_le_mul_of_nonneg_right ?_ x.place_pos.le
  push_cast
  split_ifs with hpower
  · rw [hpower.1, Nat.cast_zero, add_zero]
  · have hfraction : (1 : ℚ) ≤ x.fraction := by
      exact_mod_cast Nat.one_le_iff_ne_zero.mpr fun hzero => hpower ⟨hzero, h⟩
    linarith

/-- The intervals lie in the order of the numbers. -/
theorem highest_le_lowest (h : x.absBits < y.absBits) :
    x.interval.highest ≤ y.interval.lowest := by
  have hx := x.fraction_lt
  have hy := y.fraction_lt
  have hzero : y.isZero = false := by
    rw [isZero, decide_eq_false_iff_not]
    omega
  rw [← exponentField_mul_add_fraction x, ← exponentField_mul_add_fraction y] at h
  rw [highest_interval]
  by_cases hexponent : x.exponent = y.exponent
  · -- On one grid the numbers are at least one place apart.
    have hplace : x.place = y.place := by rw [place, place, hexponent]
    have hsignificand : x.significand + 1 ≤ y.significand := by
      simp only [exponent, significand, hiddenBit] at *
      split_ifs at * <;> omega
    have hcast : (x.significand : ℚ) + 1 ≤ y.significand := by exact_mod_cast hsignificand
    rw [hplace]
    refine le_trans ?_ (le_lowest_interval hzero)
    refine mul_le_mul_of_nonneg_right ?_ y.place_pos.le
    linarith
  · -- On different grids there is a power of two in between.
    have hfields : x.exponentField < y.exponentField ∧ 1 < y.exponentField := by
      simp only [exponent, hiddenBit] at *
      split_ifs at * <;> omega
    have hlt : x.exponent + 1 ≤ y.exponent := by
      simp only [exponent] at *
      split_ifs at * <;> omega
    have hplace : 2 * x.place ≤ y.place := by
      rw [place, place, ← zpow_one_add₀ (by norm_num), add_comm]
      exact zpow_le_zpow_right₀ (by norm_num) hlt
    have hsignificand : (x.significand : ℚ) + 1 ≤ 2 * hiddenBit := by
      exact_mod_cast x.significand_lt
    calc
      (x.significand + 1 / 2) * x.place
        ≤ (hiddenBit - 1 / 4) * (2 * x.place) := by
          rw [← mul_assoc]
          exact mul_le_mul_of_nonneg_right (by linarith) x.place_pos.le
      _ ≤ (hiddenBit - 1 / 4) * y.place :=
          mul_le_mul_of_nonneg_left hplace (by norm_num [hiddenBit])
      _ ≤ y.interval.lowest := hiddenBit_sub_le_lowest hfields.2

end Order

section Integers

variable {x : Binary64} {n : Nat}

theorem place_of_nonneg (h : 0 ≤ x.exponent) :
    x.place = (2 ^ x.exponent.toNat : Nat) := by
  obtain ⟨k, hk⟩ := Int.eq_ofNat_of_zero_le h
  rw [place, hk, zpow_natCast, Int.toNat_natCast]
  norm_cast

theorem place_of_nonpos (h : x.exponent ≤ 0) :
    x.place = 1 / (2 ^ (-x.exponent).toNat : Nat) := by
  obtain ⟨k, hk⟩ := Int.eq_ofNat_of_zero_le (Int.neg_nonneg_of_nonpos h)
  rw [place, ← neg_neg x.exponent, hk, zpow_neg, zpow_natCast, neg_neg, Int.toNat_natCast, one_div]
  norm_cast

/-- The magnitude of an integral number. -/
theorem natAbs?_eq_some_iff :
    x.natAbs? = some n ↔ x.magnitude = n := by
  rw [natAbs?, magnitude]
  split_ifs with hexponent hmod
  · rw [place_of_nonneg hexponent, Option.some_inj, ← Nat.cast_mul, Nat.cast_inj]
    rfl
  · have hpow : 0 < 2 ^ (-x.exponent).toNat := Nat.two_pow_pos _
    rw [place_of_nonpos (by omega), mul_one_div, Option.some_inj,
      div_eq_iff (by exact_mod_cast hpow.ne'), ← Nat.cast_mul, Nat.cast_inj]
    exact Nat.div_eq_iff_eq_mul_left hpow (Nat.dvd_of_mod_eq_zero hmod)
  · have hpow : 0 < 2 ^ (-x.exponent).toNat := Nat.two_pow_pos _
    rw [place_of_nonpos (by omega), mul_one_div, div_eq_iff (by exact_mod_cast hpow.ne'),
      ← Nat.cast_mul, Nat.cast_inj]
    refine iff_of_false nofun fun heq => hmod ?_
    rw [heq]
    exact Nat.mul_mod_left n _

/-- A number with a fraction has places behind the binary point. -/
theorem exponent_neg (h : x.natAbs? = none) :
    x.exponent < 0 := by
  by_contra hnonneg
  rw [natAbs?, if_pos (not_lt.mp hnonneg)] at h
  exact Option.some_ne_none _ h

/-- Only one integer rounds to a number whose neighbours are no more than one apart. -/
theorem magnitude_eq_of_contains (hzero : x.isZero = false) (hexponent : x.exponent ≤ 0)
    (h : x.interval.Contains n) :
    x.magnitude = n := by
  have hpow : (0 : ℚ) < (2 ^ (-x.exponent).toNat : Nat) := by positivity
  have hlow := (le_lowest_interval hzero).trans (RoundingInterval.lowest_le_of_contains h)
  have hhigh := RoundingInterval.le_highest_of_contains h
  rw [highest_interval] at hhigh
  rw [place_of_nonpos hexponent, mul_one_div, div_le_iff₀ hpow] at hlow
  rw [place_of_nonpos hexponent, mul_one_div, le_div_iff₀ hpow] at hhigh
  rw [magnitude, place_of_nonpos hexponent, mul_one_div, div_eq_iff hpow.ne']
  -- Two whole numbers that are no more than a half apart are the same.
  have habove : (x.significand : ℚ) < (n * 2 ^ (-x.exponent).toNat + 1 : Nat) := by
    push_cast at hlow ⊢
    linarith
  have hbelow : (n * 2 ^ (-x.exponent).toNat : Nat) < ((x.significand + 1 : Nat) : ℚ) := by
    push_cast at hhigh ⊢
    linarith
  rw [Nat.cast_lt] at habove hbelow
  exact_mod_cast (by omega : x.significand = n * 2 ^ (-x.exponent).toNat)

end Integers

section Shortest

variable {x : Binary64} {tie : Tie} {n : Nat}

theorem contains_shortest (tie : Tie) (h : x.isZero = false) :
    x.interval.Contains (x.shortest tie).toRat :=
  RoundingInterval.contains_shortest (interval_proper h) (interval_wide h)

theorem shortest_significand_mod (tie : Tie) (h : x.isZero = false) :
    (x.shortest tie).significand % 10 ≠ 0 :=
  RoundingInterval.shortest_significand_mod (interval_proper h) (interval_wide h)

theorem shortest_significand_pos (tie : Tie) (h : x.isZero = false) :
    0 < (x.shortest tie).significand :=
  Nat.pos_of_ne_zero fun hzero => shortest_significand_mod tie h (by rw [hzero])

theorem shortest_exponent_nonneg (tie : Tie) (h : x.isZero = false) (hn : x.magnitude = n) :
    0 ≤ (x.shortest tie).exponent :=
  RoundingInterval.shortest_exponent_nonneg (interval_proper h) (interval_wide h)
    ((exact_interval x).trans hn)

/-- Integers up to the last place are written out. -/
theorem toRat_shortest (tie : Tie) (h : x.isZero = false) (hexponent : x.exponent ≤ 0)
    (hn : x.magnitude = n) :
    (x.shortest tie).toRat = n := by
  obtain ⟨m, hm⟩ := Decimal.exists_toRat_eq (shortest_exponent_nonneg tie h hn)
  have hcontains := contains_shortest tie h
  rw [hm] at hcontains
  rw [hm, ← hn, magnitude_eq_of_contains h hexponent hcontains]

theorem shortest_exponent_neg (tie : Tie) (h : x.isZero = false) (hnone : x.natAbs? = none) :
    (x.shortest tie).exponent < 0 := by
  by_contra hnonneg
  obtain ⟨m, hm⟩ := Decimal.exists_toRat_eq (not_lt.mp hnonneg)
  have hcontains := contains_shortest tie h
  rw [hm] at hcontains
  rw [natAbs?_eq_some_iff.mpr (magnitude_eq_of_contains h (exponent_neg hnone).le hcontains)]
    at hnone
  exact Option.some_ne_none _ hnone

/-- From 2⁵³ on all numbers are integers. -/
theorem exists_natAbs?_eq_some (h : 0 < x.exponent) :
    ∃ n, x.natAbs? = some n ∧ 2 * hiddenBit ≤ n := by
  refine ⟨x.significand * 2 ^ x.exponent.toNat, by rw [natAbs?, if_pos h.le]; rfl, ?_⟩
  have hfield : x.exponentField ≠ 0 := by
    intro hzero
    rw [exponent, if_pos hzero] at h
    omega
  have hsignificand : hiddenBit ≤ x.significand := by
    rw [significand, if_neg hfield]
    exact Nat.le_add_right _ _
  have hpow : 2 ≤ 2 ^ x.exponent.toNat := Nat.le_self_pow (by omega) 2
  rw [Nat.mul_comm]
  exact Nat.mul_le_mul hsignificand hpow

/-- Below 2⁵³ there are at most sixteen digits in front of the decimal point. -/
theorem point_shortest_le (tie : Tie) (h : x.isZero = false) (hexponent : x.exponent ≤ 0) :
    (x.shortest tie).point ≤ 16 := by
  have hplace : x.place ≤ 1 := zpow_le_one_of_nonpos₀ (by norm_num) hexponent
  have hsignificand : (x.significand : ℚ) < (2 * hiddenBit : Nat) := by
    exact_mod_cast x.significand_lt
  rw [Decimal.point_le_iff (shortest_significand_pos tie h)]
  calc
    (x.shortest tie).toRat
      ≤ x.interval.highest := RoundingInterval.le_highest_of_contains (contains_shortest tie h)
    _ = (x.significand + 1 / 2) * x.place := highest_interval x
    _ ≤ x.significand + 1 / 2 := mul_le_of_le_one_right (by positivity) hplace
    _ < (2 * hiddenBit : Nat) + 1 / 2 := by linarith
    _ < 10 ^ (16 : Int) := by norm_num [hiddenBit]

end Shortest

end Binary64
end ShapeCheck
