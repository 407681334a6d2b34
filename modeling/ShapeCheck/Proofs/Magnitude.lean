import Mathlib.Algebra.Group.Nat.Defs
import ShapeCheck.Binary64.Basic

/-!
# What a word stands for

A finite word stands for a multiple of the least positive number, so numbers can be compared as
integers.  The magnitude grows with the word without its sign, and a number and its sign determine
the word.

* `units_lt_units`: magnitudes are ordered as the words without their signs are.
* `sameValue_iff_numeric`: numbers compare by what they stand for and by their signs.
-/

namespace ShapeCheck
namespace Binary64

/-- The magnitude in units of the least positive number; infinity counts as the power of two after
the largest number. -/
def units (x : Binary64) : Nat :=
  x.significand * 2 ^ (x.exponent + 1074).toNat

/-- The number that a word stands for, in units of the least positive one. -/
def scaled (x : Binary64) : Int :=
  if x.isNegative then -(x.units : Int) else x.units

section Units

variable {x y : Binary64}

theorem units_eq (x : Binary64) :
    x.units =
      if x.exponentField = 0 then x.fraction
      else (hiddenBit + x.fraction) * 2 ^ (x.exponentField - 1) := by
  unfold units significand exponent
  split
  · simp
  · next hfield =>
      have hexponent : ((x.exponentField : Int) - 1075 + 1074).toNat = x.exponentField - 1 := by
        omega
      rw [hexponent]

theorem fraction_lt (x : Binary64) :
    x.fraction < hiddenBit :=
  Nat.mod_lt _ (by decide)

/-- The two fields make up the word without its sign. -/
theorem exponentField_mul_add_fraction (x : Binary64) :
    x.exponentField * hiddenBit + x.fraction = x.absBits :=
  Nat.div_add_mod' x.absBits hiddenBit

/-- A number stays below the power of two that its exponent sets. -/
theorem units_lt (x : Binary64) :
    x.units < hiddenBit * 2 ^ x.exponentField := by
  have hfraction := x.fraction_lt
  rw [units_eq]
  split
  · next hfield =>
      rw [hfield, Nat.pow_zero, Nat.mul_one]
      exact hfraction
  · next hfield =>
      have hdouble : 2 ^ (x.exponentField - 1) * 2 = 2 ^ x.exponentField :=
        Nat.two_pow_pred_mul_two (Nat.pos_of_ne_zero hfield)
      calc
        (hiddenBit + x.fraction) * 2 ^ (x.exponentField - 1)
          < (hiddenBit * 2) * 2 ^ (x.exponentField - 1) :=
            Nat.mul_lt_mul_of_pos_right (by omega) (Nat.two_pow_pos _)
        _ = hiddenBit * 2 ^ x.exponentField := by
            rw [← hdouble, Nat.mul_assoc, Nat.mul_comm 2]

/-- Magnitudes are ordered as the words without their signs are. -/
theorem units_lt_units (h : x.absBits < y.absBits) :
    x.units < y.units := by
  have hx := x.fraction_lt
  have hy := y.fraction_lt
  rw [← exponentField_mul_add_fraction x, ← exponentField_mul_add_fraction y] at h
  have hfields : x.exponentField ≤ y.exponentField := by
    refine Nat.le_of_not_lt fun hgt => ?_
    have hmul := Nat.mul_le_mul_right hiddenBit (Nat.succ_le_of_lt hgt)
    rw [Nat.succ_mul] at hmul
    omega
  obtain hlt | heq := Nat.lt_or_eq_of_le hfields
  · have hlow : hiddenBit * 2 ^ x.exponentField ≤ y.units := by
      rw [units_eq, if_neg (by omega)]
      exact Nat.mul_le_mul (by omega) (Nat.pow_le_pow_right (by decide) (by omega))
    exact Nat.lt_of_lt_of_le x.units_lt hlow
  · rw [heq] at h
    rw [units_eq, units_eq, heq]
    split
    · omega
    · exact Nat.mul_lt_mul_of_pos_right (by omega) (Nat.two_pow_pos _)

theorem units_inj : x.units = y.units ↔ x.absBits = y.absBits := by
  constructor
  · intro h
    rcases Nat.lt_trichotomy x.absBits y.absBits with hlt | heq | hgt
    · exact absurd h (Nat.ne_of_lt (units_lt_units hlt))
    · exact heq
    · exact absurd h.symm (Nat.ne_of_lt (units_lt_units hgt))
  · intro h
    rw [units_eq, units_eq, exponentField, exponentField, fraction, fraction, h]

/-- A word is its sign and the rest. -/
theorem ext_of_sign (hsign : x.isNegative = y.isNegative) (habs : x.absBits = y.absBits) :
    x = y := by
  have hx := x.bits.toNat_lt
  have hy := y.bits.toNat_lt
  have hlow : signBit ≤ x.bits.toNat ↔ signBit ≤ y.bits.toNat :=
    decide_eq_decide.mp hsign
  have hbits : x.bits.toNat = y.bits.toNat := by
    simp only [absBits, signBit] at habs hlow
    omega
  cases x
  cases y
  exact congrArg Binary64.mk (UInt64.toNat.inj hbits)

/-- Numbers compare by what they stand for and by their signs, which tell the two zeros apart; the
words without a number are all alike. -/
theorem sameValue_iff_numeric :
    x.sameValue y = true ↔
      (x.isNaN = true ∧ y.isNaN = true) ∨
        (x.isNaN = false ∧ y.isNaN = false ∧ x.scaled = y.scaled ∧
          x.isNegative = y.isNegative) := by
  rw [sameValue_iff]
  constructor
  · rintro (hnan | rfl)
    · exact .inl hnan
    · cases hx : x.isNaN with
      | true => exact .inl ⟨rfl, rfl⟩
      | false => exact .inr ⟨rfl, rfl, rfl, rfl⟩
  · rintro (hnan | ⟨-, -, hscaled, hsign⟩)
    · exact .inl hnan
    · have hunits : x.units = y.units := by
        simp only [scaled, hsign] at hscaled
        split at hscaled <;> omega
      exact .inr (ext_of_sign hsign (units_inj.mp hunits))

end Units

end Binary64

end ShapeCheck
