import ShapeCheck.Proofs.Nearest

/-!
# Integers as numbers

An integer becomes a number by counting steps of a power of two, of which it has fifty-three bits.
A remainder of half a step goes to the even count, so the number is the one that the integer rounds
to, and an integer of at most fifty-three bits is kept.

* `rounded_div`: steps are counted to the nearest.
* `contains_of_rounded`: what is counted lies in the interval of the count.
* `isNearest_ofInt` and `magnitude_ofInt`: what becomes of an integer.
-/

namespace ShapeCheck
namespace Binary64

section Integers

variable {x : Binary64} {n w : Nat}

/-- Steps of a given size are counted, a remainder of half a step going to the even count. -/
structure Rounded (n : Nat) (unit : ℚ) (w : Nat) : Prop where
  lower : (w - 1 / 2) * unit ≤ n
  upper : n ≤ (w + 1 / 2) * unit
  even : n = (w - 1 / 2) * unit ∨ n = (w + 1 / 2) * unit → w % 2 = 0

/-- A quotient is rounded up when the remainder is large, or when it is half and the quotient is
odd. -/
theorem rounded_div {unit : Nat} (hunit : 0 < unit) :
    Rounded n unit
      (if unit < 2 * (n % unit) ∨ (unit = 2 * (n % unit) ∧ n / unit % 2 = 1) then n / unit + 1
        else n / unit) := by
  have hdiv : ((n / unit : Nat) : ℚ) * unit + (n % unit : Nat) = n := by
    exact_mod_cast Nat.div_add_mod' n unit
  have hlt : ((n % unit : Nat) : ℚ) < unit := by exact_mod_cast Nat.mod_lt n hunit
  have hnonneg : (0 : ℚ) ≤ (n % unit : Nat) := Nat.cast_nonneg _
  split_ifs with hup
  · have hhalf : (unit : ℚ) ≤ 2 * (n % unit : Nat) := by
      exact_mod_cast (by omega : unit ≤ 2 * (n % unit))
    refine ⟨?_, ?_, ?_⟩
    · push_cast
      linarith
    · push_cast
      linarith
    · push_cast
      rintro (htie | htie)
      · have heq : unit = 2 * (n % unit) := by
          exact_mod_cast (by linarith : (unit : ℚ) = 2 * (n % unit : Nat))
        omega
      · linarith
  · have hhalf : 2 * ((n % unit : Nat) : ℚ) ≤ unit := by
      exact_mod_cast (by omega : 2 * (n % unit) ≤ unit)
    refine ⟨?_, ?_, ?_⟩
    · linarith
    · linarith
    · rintro (htie | htie)
      · linarith
      · have heq : unit = 2 * (n % unit) := by
          exact_mod_cast (by linarith : (unit : ℚ) = 2 * (n % unit : Nat))
        omega

/-- An integer with few digits is counted exactly. -/
theorem rounded_of_log2_le (hn : n ≠ 0) (htop : n.log2 ≤ 52) :
    hiddenBit ≤ n * 2 ^ (52 - n.log2) ∧ n * 2 ^ (52 - n.log2) < 2 * hiddenBit ∧
      ((n * 2 ^ (52 - n.log2) : Nat) : ℚ) * 2 ^ ((n.log2 : Int) - 52) = n := by
  have hsplit : 2 ^ n.log2 * 2 ^ (52 - n.log2) = hiddenBit := by
    rw [← Nat.pow_add, Nat.add_sub_cancel' htop]
    rfl
  refine ⟨?_, ?_, ?_⟩
  · rw [← hsplit]
    exact Nat.mul_le_mul_right _ (Nat.log2_self_le hn)
  · have hlt : n * 2 ^ (52 - n.log2) < 2 ^ (n.log2 + 1) * 2 ^ (52 - n.log2) :=
      Nat.mul_lt_mul_of_pos_right Nat.lt_log2_self (Nat.two_pow_pos _)
    rwa [Nat.pow_succ, Nat.mul_comm _ 2, Nat.mul_assoc, hsplit] at hlt
  · have hneg : (n.log2 : Int) - 52 = -(52 - n.log2 : Nat) := by omega
    rw [hneg, zpow_neg, zpow_natCast]
    push_cast
    field_simp

/-- An integer with many digits is counted in steps of a power of two. -/
theorem quotient_bounds (hn : n ≠ 0) (htop : 52 < n.log2) :
    hiddenBit ≤ n / 2 ^ (n.log2 - 52) ∧ n / 2 ^ (n.log2 - 52) < 2 * hiddenBit := by
  have hunit := Nat.two_pow_pos (n.log2 - 52)
  have hsplit : hiddenBit * 2 ^ (n.log2 - 52) = 2 ^ n.log2 := by
    rw [show hiddenBit = 2 ^ 52 from rfl, ← Nat.pow_add, Nat.add_sub_cancel' htop.le]
  constructor
  · rw [Nat.le_div_iff_mul_le hunit, hsplit]
    exact Nat.log2_self_le hn
  · rw [Nat.div_lt_iff_lt_mul hunit, Nat.mul_assoc, hsplit, Nat.mul_comm, ← Nat.pow_succ]
    exact Nat.lt_log2_self

/-- The word of an integer counts it in steps of which it has fifty-three bits. -/
theorem absBitsOfNat_eq (hn : n ≠ 0) (hsmall : n.log2 ≤ 1022) :
    ∃ w, absBitsOfNat n = (n.log2 + 1022) * hiddenBit + w ∧
      hiddenBit ≤ w ∧ w ≤ 2 * hiddenBit ∧ Rounded n (2 ^ ((n.log2 : Int) - 52)) w ∧
      (n.log2 ≤ 52 → w * (2 : ℚ) ^ ((n.log2 : Int) - 52) = n) := by
  have hfits : ∀ w ≤ 2 * hiddenBit, min infinityBits ((n.log2 + 1022) * hiddenBit + w) =
      (n.log2 + 1022) * hiddenBit + w := by
    intro w hw
    refine Nat.min_eq_right ?_
    rw [infinityBits]
    rw [hiddenBit] at *
    omega
  rw [absBitsOfNat, if_neg hn]
  dsimp only
  by_cases htop : n.log2 ≤ 52
  · obtain ⟨hlow, hhigh, hexact⟩ := rounded_of_log2_le hn htop
    have hunit : (0 : ℚ) < 2 ^ ((n.log2 : Int) - 52) := by positivity
    rw [if_pos htop, Nat.pow_eq]
    refine ⟨_, hfits _ hhigh.le, hlow, hhigh.le, ⟨?_, ?_, ?_⟩, fun _ => hexact⟩
    · rw [sub_mul, hexact]
      linarith
    · rw [add_mul, hexact]
      linarith
    · rw [sub_mul, add_mul, hexact]
      rintro (htie | htie) <;> linarith
  · obtain ⟨hlow, hhigh⟩ := quotient_bounds hn (Nat.lt_of_not_le htop)
    have hrounded := rounded_div (n := n) (Nat.two_pow_pos (n.log2 - 52))
    have hunit : ((2 ^ (n.log2 - 52) : Nat) : ℚ) = 2 ^ ((n.log2 : Int) - 52) := by
      rw [Nat.cast_pow, Nat.cast_ofNat, ← zpow_natCast]
      congr 1
      omega
    rw [hunit] at hrounded
    rw [if_neg htop, Nat.pow_eq]
    refine ⟨_, hfits _ ?_, ?_, ?_, hrounded, fun hle => absurd hle htop⟩ <;> split_ifs <;> omega

/-- The number whose word counts steps is so many steps. -/
theorem steps_of_absBits {t : Nat} (h : x.absBits = (t + 1022) * hiddenBit + w)
    (hlow : hiddenBit ≤ w) (hhigh : w ≤ 2 * hiddenBit) :
    (x.significand = w ∧ x.place = 2 ^ ((t : Int) - 52) ∧ x.exponentField = t + 1023) ∨
      (w = 2 * hiddenBit ∧ x.significand = hiddenBit ∧ x.fraction = 0 ∧
        x.place = 2 * 2 ^ ((t : Int) - 52) ∧ x.exponentField = t + 1024) := by
  have hfields := exponentField_mul_add_fraction x
  have hfraction := x.fraction_lt
  rcases Nat.lt_or_eq_of_le hhigh with hlt | heq
  · have hfield : x.exponentField = t + 1023 := by
      simp only [hiddenBit] at *
      omega
    refine .inl ⟨?_, ?_, hfield⟩
    · rw [significand, if_neg (by omega)]
      simp only [hiddenBit] at *
      omega
    · have hexponent : ((t + 1023 : Nat) : Int) - 1075 = (t : Int) - 52 := by omega
      rw [place, exponent, if_neg (by omega), hfield, hexponent]
  · -- Rounded up to a power of two, the count goes on in the next field with twice the step.
    have hfield : x.exponentField = t + 1024 := by
      simp only [hiddenBit] at *
      omega
    have hzero : x.fraction = 0 := by
      simp only [hiddenBit] at *
      omega
    refine .inr ⟨heq, ?_, hzero, ?_, hfield⟩
    · rw [significand, if_neg (by omega), hzero, Nat.add_zero]
    · have hexponent : ((t + 1024 : Nat) : Int) - 1075 = 1 + ((t : Int) - 52) := by omega
      rw [place, exponent, if_neg (by omega), hfield, hexponent, zpow_one_add₀ (by norm_num)]

/-- An integer lies in the interval of the number that it becomes. -/
theorem contains_of_rounded {t : Nat} (h : x.absBits = (t + 1022) * hiddenBit + w)
    (hlow : hiddenBit ≤ w) (hhigh : w ≤ 2 * hiddenBit)
    (hrounded : Rounded n (2 ^ ((t : Int) - 52)) w) (hn : 2 ^ t ≤ n) :
    x.interval.Contains n := by
  have hzero : x.isZero = false := by
    rw [isZero, decide_eq_false_iff_not]
    simp only [hiddenBit] at *
    omega
  have hunit : (0 : ℚ) < 2 ^ ((t : Int) - 52) := by positivity
  have hstart : (hiddenBit : ℚ) * 2 ^ ((t : Int) - 52) ≤ n := by
    have hpow : (hiddenBit : ℚ) = 2 ^ (52 : Int) := by norm_num [hiddenBit]
    rw [hpow, ← zpow_add₀ (by norm_num), add_sub_cancel, zpow_natCast]
    exact_mod_cast hn
  obtain ⟨hlower, hupper, heven⟩ := hrounded
  rw [RoundingInterval.contains_iff, closed_interval_iff, highest_interval, lowest_interval hzero]
  rcases steps_of_absBits h hlow hhigh with
    ⟨hsignificand, hplace, hfield⟩ | ⟨rfl, hsignificand, hfraction, hplace, hfield⟩
  · rw [hsignificand, hplace]
    by_cases hpower : x.fraction = 0
    · -- The interval is narrower below a power of two, where the integer cannot lie.
      obtain rfl : hiddenBit = w := by
        rw [← hsignificand, significand, if_neg (by omega), hpower, Nat.add_zero]
      rw [if_pos ⟨hpower, by omega⟩]
      exact ⟨by linarith, hupper, fun _ => rfl⟩
    · rw [if_neg fun hand => hpower hand.1]
      exact ⟨hlower, hupper, heven⟩
  · rw [hsignificand, hplace, if_pos ⟨hfraction, by omega⟩]
    push_cast at hlower hupper
    exact ⟨by linarith, by linarith, fun _ => rfl⟩

theorem absBitsOfNat_le (n : Nat) :
    absBitsOfNat n ≤ infinityBits := by
  rw [absBitsOfNat]
  split_ifs
  · exact Nat.zero_le _
  · exact Nat.min_le_left _ _

theorem toNat_bits_ofInt (k : Int) :
    (ofInt k).bits.toNat = (if k < 0 then signBit else 0) + absBitsOfNat k.natAbs := by
  have hle := absBitsOfNat_le k.natAbs
  refine UInt64.toNat_ofNat_of_lt' ?_
  simp only [signBit, infinityBits, UInt64.size] at *
  split_ifs <;> omega

theorem absBits_ofInt (k : Int) :
    (ofInt k).absBits = absBitsOfNat k.natAbs := by
  have hle := absBitsOfNat_le k.natAbs
  rw [absBits, toNat_bits_ofInt]
  simp only [signBit, infinityBits] at *
  split_ifs <;> omega

theorem isNegative_ofInt (k : Int) :
    (ofInt k).isNegative = decide (k < 0) := by
  have hle := absBitsOfNat_le k.natAbs
  rw [isNegative, toNat_bits_ofInt, decide_eq_decide]
  simp only [signBit, infinityBits] at *
  split_ifs <;> omega

theorem magnitude_ofInt_zero :
    (ofInt 0).magnitude = 0 :=
  magnitude_of_isZero rfl

/-- An integer becomes the number that it rounds to. -/
theorem isNearest_ofInt {k : Int} (h : k.natAbs < 2 ^ 64) :
    (ofInt k).isFinite = true ∧ (ofInt k).IsNearest k.natAbs := by
  by_cases hk : k.natAbs = 0
  · obtain rfl := Int.natAbs_eq_zero.mp hk
    refine ⟨rfl, rfl, fun y _ => ?_, fun y _ _ => .inr rfl⟩
    rw [magnitude_ofInt_zero]
    simp
  · have hlog : k.natAbs.log2 < 64 := (Nat.log2_lt hk).mpr h
    obtain ⟨w, habs, hlow, hhigh, hrounded, -⟩ := absBitsOfNat_eq hk (by omega)
    rw [← absBits_ofInt] at habs
    have hcontains := contains_of_rounded habs hlow hhigh hrounded (Nat.log2_self_le hk)
    have hfinite : (ofInt k).isFinite = true := by
      rw [isFinite, decide_eq_true_iff, habs, infinityBits]
      rw [hiddenBit] at *
      omega
    have hzero : (ofInt k).isZero = false := by
      rw [isZero, decide_eq_false_iff_not, habs]
      rw [hiddenBit] at *
      omega
    exact ⟨hfinite, (contains_iff_isNearest hfinite hzero).mp hcontains⟩

/-- Up to 2⁵³ every integer is a number. -/
theorem magnitude_ofInt {k : Int} (h : k.natAbs < 2 ^ 53) :
    (ofInt k).magnitude = k.natAbs := by
  by_cases hk : k.natAbs = 0
  · obtain rfl := Int.natAbs_eq_zero.mp hk
    exact magnitude_ofInt_zero
  · have hlog : k.natAbs.log2 ≤ 52 := Nat.le_of_lt_succ ((Nat.log2_lt hk).mpr h)
    obtain ⟨w, habs, hlow, hhigh, -, hexact⟩ := absBitsOfNat_eq hk (by omega)
    rw [← absBits_ofInt] at habs
    rw [← hexact hlog, magnitude]
    rcases steps_of_absBits habs hlow hhigh with
      ⟨hsignificand, hplace, -⟩ | ⟨rfl, hsignificand, -, hplace, -⟩
    · rw [hsignificand, hplace]
    · rw [hsignificand, hplace]
      push_cast
      ring

end Integers
end Binary64
end ShapeCheck
