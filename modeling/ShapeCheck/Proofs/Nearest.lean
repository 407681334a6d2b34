import Mathlib.Algebra.Order.Ring.Abs
import ShapeCheck.Proofs.RoundingOfNumbers

/-!
# The nearest number

A rational number rounds to the number that is nearest to it, and from the middle between two
numbers to the one with the even significand.  The intervals of the shortest decimals are made of
the rational numbers that round to a number.

* `IsNearest`: the number that a rational number rounds to.
* `magnitude_of_next`: the distance between neighbours.
* `contains_iff_isNearest`: what lies in the interval of a number.
-/

namespace ShapeCheck

namespace RoundingInterval

/-- An end belongs to a closed interval only. -/
theorem contains_iff {r : RoundingInterval} {q : ℚ} :
    r.Contains q ↔
      r.lowest ≤ q ∧ q ≤ r.highest ∧ (q = r.lowest ∨ q = r.highest → r.closed = true) := by
  rw [Contains]
  split_ifs with hclosed
  · exact ⟨fun h => ⟨h.1, h.2, fun _ => hclosed⟩, fun h => ⟨h.1, h.2.1⟩⟩
  · constructor
    · rintro ⟨hlow, hhigh⟩
      exact ⟨hlow.le, hhigh.le, fun hend => absurd hend (not_or.mpr ⟨hlow.ne', hhigh.ne⟩)⟩
    · rintro ⟨hlow, hhigh, hends⟩
      obtain ⟨hne, hne'⟩ := not_or.mp fun hend => hclosed (hends hend)
      exact ⟨lt_of_le_of_ne hlow (Ne.symm hne), lt_of_le_of_ne hhigh hne'⟩

end RoundingInterval

namespace Binary64

/-- A number is the one that a rational number rounds to, signs apart: none is nearer, and the
significand is even where another one is as near.  Infinity takes part as the power of two after the
largest number. -/
structure IsNearest (q : ℚ) (x : Binary64) : Prop where
  isNaN : x.isNaN = false
  le : ∀ y : Binary64, y.isNaN = false → |q - x.magnitude| ≤ |q - y.magnitude|
  even : ∀ y : Binary64, y.isNaN = false → |q - y.magnitude| = |q - x.magnitude| →
    y.absBits = x.absBits ∨ x.significand % 2 = 0

/-- The least positive number. -/
def leastPlace : ℚ :=
  2 ^ (-1074 : Int)

section Neighbours

variable {x y : Binary64}

theorem leastPlace_pos :
    0 < leastPlace := by
  rw [leastPlace]
  positivity

theorem place_eq (x : Binary64) :
    x.place = 2 ^ (x.exponentField - 1) * leastPlace := by
  rw [place, exponent, leastPlace, ← zpow_natCast, ← zpow_add₀ (by norm_num)]
  congr 1
  split_ifs <;> omega

theorem magnitude_eq (x : Binary64) :
    x.magnitude = x.units * leastPlace := by
  rw [magnitude, place_eq, units_eq, significand]
  split_ifs with hfield
  · rw [hfield, Nat.zero_sub, pow_zero, one_mul]
  · push_cast
    ring

theorem magnitude_lt_magnitude (h : x.absBits < y.absBits) :
    x.magnitude < y.magnitude := by
  rw [magnitude_eq, magnitude_eq]
  exact mul_lt_mul_of_pos_right (by exact_mod_cast units_lt_units h) leastPlace_pos

theorem magnitude_inj : x.magnitude = y.magnitude ↔ x.absBits = y.absBits := by
  rw [magnitude_eq, magnitude_eq, mul_left_inj' leastPlace_pos.ne', Nat.cast_inj, units_inj]

theorem magnitude_le_magnitude (h : x.absBits ≤ y.absBits) :
    x.magnitude ≤ y.magnitude := by
  rcases Nat.lt_or_eq_of_le h with hlt | heq
  · exact (magnitude_lt_magnitude hlt).le
  · exact (magnitude_inj.mpr heq).le

/-- The fields of the next word: the fraction goes up by one, or starts again in the next field. -/
theorem fields_of_next (h : y.absBits = x.absBits + 1) :
    (y.exponentField = x.exponentField ∧ y.fraction = x.fraction + 1) ∨
      (y.exponentField = x.exponentField + 1 ∧ y.fraction = 0 ∧ x.fraction + 1 = hiddenBit) := by
  have hx := exponentField_mul_add_fraction x
  have hy := exponentField_mul_add_fraction y
  have hxlt := x.fraction_lt
  have hylt := y.fraction_lt
  simp only [hiddenBit] at *
  omega

/-- The next number is one place away. -/
theorem magnitude_of_next (h : y.absBits = x.absBits + 1) :
    y.magnitude = x.magnitude + x.place := by
  have hunits : y.units = x.units + 2 ^ (x.exponentField - 1) := by
    rw [units_eq, units_eq]
    rcases fields_of_next h with ⟨hfield, hfraction⟩ | ⟨hfield, hfraction, hlast⟩
    · rw [hfield, hfraction]
      split_ifs with hzero
      · rw [hzero]
        rfl
      · ring
    · rw [hfield, hfraction, if_neg (Nat.succ_ne_zero _), Nat.add_sub_cancel, Nat.add_zero,
        ← hlast]
      split_ifs with hzero
      · rw [hzero]
        ring
      · rw [← Nat.two_pow_pred_mul_two (Nat.pos_of_ne_zero hzero)]
        ring
  rw [magnitude_eq, magnitude_eq, place_eq, hunits]
  push_cast
  ring

/-- The interval of a number ends in the middle between the number and the next one, and there the
interval of the next one begins. -/
theorem interval_of_next (h : y.absBits = x.absBits + 1) :
    x.interval.highest = (x.magnitude + y.magnitude) / 2 ∧
      y.interval.lowest = (x.magnitude + y.magnitude) / 2 := by
  have hnext := magnitude_of_next h
  have hy : y.isZero = false := by
    rw [isZero, decide_eq_false_iff_not]
    omega
  constructor
  · rw [highest_interval, hnext, magnitude]
    ring
  · -- After a power of two the place is twice that of the number before, so a quarter is enough.
    have hplace : (if y.fraction = 0 ∧ 1 < y.exponentField then 1 / 4 else 1 / 2) * y.place =
        x.place / 2 := by
      rw [place_eq, place_eq]
      rcases fields_of_next h with ⟨hfield, hfraction⟩ | ⟨hfield, hfraction, -⟩
      · rw [if_neg (by omega), hfield]
        ring
      · rw [hfield, Nat.add_sub_cancel]
        split_ifs with hpower
        · obtain ⟨k, hk⟩ := Nat.exists_eq_add_one_of_ne_zero (by omega : x.exponentField ≠ 0)
          rw [hk, Nat.add_sub_cancel, pow_succ]
          ring
        · have hzero : x.exponentField = 0 := by omega
          rw [hzero]
          ring
    rw [lowest_interval hy, sub_mul, hplace, ← magnitude, hnext]
    ring

end Neighbours

section Intervals

variable {x : Binary64} {q : ℚ}

/-- The smaller one of two numbers is as near as the other one up to the middle between them. -/
theorem abs_sub_smaller_le_iff {a b : ℚ} (h : a < b) :
    |q - a| ≤ |q - b| ↔ q ≤ (a + b) / 2 := by
  rw [← sq_le_sq]
  constructor <;> intro hle <;> nlinarith

/-- The larger one of two numbers is as near as the other one from the middle between them. -/
theorem abs_sub_larger_le_iff {a b : ℚ} (h : a < b) :
    |q - b| ≤ |q - a| ↔ (a + b) / 2 ≤ q := by
  rw [← sq_le_sq]
  constructor <;> intro hle <;> nlinarith

/-- A word with the given part beside the sign. -/
theorem exists_absBits_eq {n : Nat} (h : n ≤ infinityBits) :
    ∃ y : Binary64, y.absBits = n ∧ y.isNaN = false := by
  have hlt : n < signBit := Nat.lt_of_le_of_lt h (by decide)
  have habs : (⟨UInt64.ofNat n⟩ : Binary64).absBits = n := by
    rw [absBits, UInt64.toNat_ofNat_of_lt' (Nat.lt_trans hlt (by decide)), Nat.mod_eq_of_lt hlt]
  refine ⟨⟨UInt64.ofNat n⟩, habs, ?_⟩
  rw [isNaN, habs, decide_eq_false_iff_not]
  omega

theorem closed_interval_iff (x : Binary64) :
    x.interval.closed = true ↔ x.significand % 2 = 0 :=
  decide_eq_true_iff

/-- What lies between the middles to both neighbours, with an even significand if it lies on one of
them, is not nearer to any other number. -/
theorem isNearest_of_between
    {p s : Binary64} (hp : p.absBits + 1 = x.absBits) (hs : s.absBits = x.absBits + 1)
    (hNaN : x.isNaN = false)
    (hlower : (p.magnitude + x.magnitude) / 2 ≤ q) (hupper : q ≤ (x.magnitude + s.magnitude) / 2)
    (hends : q = (p.magnitude + x.magnitude) / 2 ∨ q = (x.magnitude + s.magnitude) / 2 →
      x.significand % 2 = 0) :
    x.IsNearest q where
  isNaN := hNaN
  le y _ := by
    rcases Nat.lt_trichotomy y.absBits x.absBits with hlt | heq | hgt
    · have hyp : y.magnitude ≤ p.magnitude := magnitude_le_magnitude (by omega)
      exact (abs_sub_larger_le_iff (magnitude_lt_magnitude hlt)).mpr (by linarith)
    · rw [magnitude_inj.mpr heq]
    · have hsy : s.magnitude ≤ y.magnitude := magnitude_le_magnitude (by omega)
      exact (abs_sub_smaller_le_iff (magnitude_lt_magnitude hgt)).mpr (by linarith)
  even y _ htie := by
    rcases Nat.lt_trichotomy y.absBits x.absBits with hlt | heq | hgt
    · have hyp : y.magnitude ≤ p.magnitude := magnitude_le_magnitude (by omega)
      have hmiddle := (abs_sub_smaller_le_iff (magnitude_lt_magnitude hlt)).mp htie.le
      exact .inr (hends (.inl (by linarith)))
    · exact .inl heq
    · have hsy : s.magnitude ≤ y.magnitude := magnitude_le_magnitude (by omega)
      have hmiddle := (abs_sub_larger_le_iff (magnitude_lt_magnitude hgt)).mp htie.le
      exact .inr (hends (.inr (by linarith)))

/-- What rounds to a number is not beyond the middle to a smaller one, and the significand is even
where it lies on this middle. -/
theorem IsNearest.of_smaller
    {p : Binary64} (h : x.IsNearest q) (hNaN : p.isNaN = false) (hp : p.absBits < x.absBits) :
    (p.magnitude + x.magnitude) / 2 ≤ q ∧
      (q = (p.magnitude + x.magnitude) / 2 → x.significand % 2 = 0) := by
  have hpx := magnitude_lt_magnitude hp
  refine ⟨(abs_sub_larger_le_iff hpx).mp (h.le p hNaN), fun hend => ?_⟩
  have htie := (abs_sub_smaller_le_iff hpx).mpr hend.le
  exact (h.even p hNaN (le_antisymm htie (h.le p hNaN))).resolve_left hp.ne

theorem IsNearest.of_larger
    {s : Binary64} (h : x.IsNearest q) (hNaN : s.isNaN = false) (hs : x.absBits < s.absBits) :
    q ≤ (x.magnitude + s.magnitude) / 2 ∧
      (q = (x.magnitude + s.magnitude) / 2 → x.significand % 2 = 0) := by
  have hxs := magnitude_lt_magnitude hs
  refine ⟨(abs_sub_smaller_le_iff hxs).mp (h.le s hNaN), fun hend => ?_⟩
  have htie := (abs_sub_larger_le_iff hxs).mpr hend.ge
  exact (h.even s hNaN (le_antisymm htie (h.le s hNaN))).resolve_left hs.ne'

/-- The interval of a number holds what rounds to the number. -/
theorem contains_iff_isNearest (hfinite : x.isFinite = true) (hzero : x.isZero = false) :
    x.interval.Contains q ↔ x.IsNearest q := by
  rw [isFinite, decide_eq_true_iff] at hfinite
  rw [isZero, decide_eq_false_iff_not] at hzero
  have hNaN : x.isNaN = false := by
    rw [isNaN, decide_eq_false_iff_not]
    omega
  obtain ⟨p, hp, hpNaN⟩ := exists_absBits_eq (n := x.absBits - 1) (by omega)
  obtain ⟨s, hs, hsNaN⟩ := exists_absBits_eq (n := x.absBits + 1) (by omega)
  have hnext : x.absBits = p.absBits + 1 := by omega
  rw [RoundingInterval.contains_iff, closed_interval_iff, (interval_of_next hnext).2,
    (interval_of_next hs).1]
  constructor
  · rintro ⟨hlower, hupper, hends⟩
    exact isNearest_of_between hnext.symm hs hNaN hlower hupper hends
  · intro h
    obtain ⟨hlower, hlowest⟩ := h.of_smaller hpNaN (by omega)
    obtain ⟨hupper, hhighest⟩ := h.of_larger hsNaN (by omega)
    exact ⟨hlower, hupper, fun hend => hend.elim hlowest hhighest⟩

end Intervals

end Binary64
end ShapeCheck
