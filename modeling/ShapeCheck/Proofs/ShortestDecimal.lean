import Mathlib.Tactic.Linarith
import ShapeCheck.Proofs.DecimalText

/-!
# Shortest decimals

The search for the shortest decimal, seen from the numbers that it is about.  A grid of decimals is
skipped just when none of its points lies in the interval, so the search ends at the coarsest grid
with a point in the interval, and there it takes a neighbour of the value.

* `RoundingInterval.exact_bounds`: the decade of the value.
* `RoundingInterval.decimal?_eq_none_iff`: which grids are skipped.
* `RoundingInterval.exists_shortest`: what the search finds, on an interval that is wide enough.
* `RoundingInterval.shortest_even_cases`: the two ways to break ties differ at most by one in the
  last digit, and only where two decimals are equally near.
-/

namespace ShapeCheck
namespace RoundingInterval

/-- The least number of the interval, or the one below all of them. -/
def lowest (r : RoundingInterval) : ℚ :=
  r.low / r.denominator

/-- The number around which the interval lies. -/
def exact (r : RoundingInterval) : ℚ :=
  r.value / r.denominator

/-- The greatest number of the interval, or the one above all of them. -/
def highest (r : RoundingInterval) : ℚ :=
  r.high / r.denominator

/-- A number lies in the interval. -/
def Contains (r : RoundingInterval) (q : ℚ) : Prop :=
  if r.closed then r.lowest ≤ q ∧ q ≤ r.highest else r.lowest < q ∧ q < r.highest

/-- The value lies between the ends. -/
structure Proper (r : RoundingInterval) : Prop where
  denominator_pos : 0 < r.denominator
  low_lt : r.low < r.value
  lt_high : r.value < r.high

section Bounds

variable {r : RoundingInterval} {q : ℚ}

theorem lowest_le_of_contains (h : r.Contains q) :
    r.lowest ≤ q := by
  rw [Contains] at h
  split_ifs at h
  · exact h.1
  · exact h.1.le

theorem le_highest_of_contains (h : r.Contains q) :
    q ≤ r.highest := by
  rw [Contains] at h
  split_ifs at h
  · exact h.2
  · exact h.2.le

theorem contains_of_lt (hlow : r.lowest < q) (hhigh : q < r.highest) :
    r.Contains q := by
  rw [Contains]
  split_ifs
  · exact ⟨hlow.le, hhigh.le⟩
  · exact ⟨hlow, hhigh⟩

namespace Proper

theorem lowest_lt (h : r.Proper) :
    r.lowest < r.exact :=
  div_lt_div_of_pos_right (by exact_mod_cast h.low_lt) (by exact_mod_cast h.denominator_pos)

theorem lt_highest (h : r.Proper) :
    r.exact < r.highest :=
  div_lt_div_of_pos_right (by exact_mod_cast h.lt_high) (by exact_mod_cast h.denominator_pos)

theorem exact_pos (h : r.Proper) :
    0 < r.exact := by
  have hvalue : 0 < r.value := Nat.zero_lt_of_lt h.low_lt
  have hdenominator := h.denominator_pos
  rw [exact]
  positivity

theorem contains_exact (h : r.Proper) :
    r.Contains r.exact :=
  contains_of_lt h.lowest_lt h.lt_highest

end Proper

end Bounds

section Units

variable {r : RoundingInterval} {e : Int}

/-- A power as the fraction by which an interval is scaled. -/
theorem zpow_eq_div (b : ℚ) (e : Int) :
    b ^ e = b ^ e.toNat / b ^ (-e).toNat := by
  obtain ⟨k, rfl | rfl⟩ := e.eq_nat_or_neg
  · simp
  · simp

theorem scaled_div (a : Nat) (r : RoundingInterval) (e : Int) :
    ((a * Nat.pow 10 (-e).toNat : Nat) : ℚ) / (r.inUnits e).denominator =
      a / r.denominator / 10 ^ e := by
  rw [zpow_eq_div]
  simp only [inUnits, Nat.pow_eq, Nat.cast_mul, Nat.cast_pow, Nat.cast_ofNat]
  field_simp

theorem lowest_inUnits : (r.inUnits e).lowest = r.lowest / 10 ^ e :=
  scaled_div r.low r e

theorem exact_inUnits : (r.inUnits e).exact = r.exact / 10 ^ e :=
  scaled_div r.value r e

theorem highest_inUnits : (r.inUnits e).highest = r.highest / 10 ^ e :=
  scaled_div r.high r e

theorem contains_inUnits_iff {q : ℚ} :
    (r.inUnits e).Contains q ↔ r.Contains (q * 10 ^ e) := by
  have hunit : (0 : ℚ) < 10 ^ e := by positivity
  have hclosed : (r.inUnits e).closed = r.closed := rfl
  rw [Contains, Contains, hclosed, lowest_inUnits, highest_inUnits, div_le_iff₀ hunit,
    le_div_iff₀ hunit, div_lt_iff₀ hunit, lt_div_iff₀ hunit]

theorem Proper.inUnits (h : r.Proper) (e : Int) :
    (r.inUnits e).Proper where
  denominator_pos := Nat.mul_pos h.denominator_pos (Nat.pow_pos (by decide))
  low_lt := Nat.mul_lt_mul_of_pos_right h.low_lt (Nat.pow_pos (by decide))
  lt_high := Nat.mul_lt_mul_of_pos_right h.lt_high (Nat.pow_pos (by decide))

theorem holds_iff (h : r.Proper) (c : Nat) :
    r.holds c = true ↔ r.Contains c := by
  have hpos : (0 : ℚ) < r.denominator := by exact_mod_cast h.denominator_pos
  rw [holds, Contains, lowest, highest, div_le_iff₀ hpos, le_div_iff₀ hpos, div_lt_iff₀ hpos,
    lt_div_iff₀ hpos]
  split_ifs
  · rw [Bool.and_eq_true, decide_eq_true_iff, decide_eq_true_iff]
    exact_mod_cast Iff.rfl
  · rw [Bool.and_eq_true, decide_eq_true_iff, decide_eq_true_iff]
    exact_mod_cast Iff.rfl

end Units

section Decade

variable {r : RoundingInterval}

/-- The whole part of a value bounds it from both sides. -/
theorem whole_bounds (h : r.Proper) :
    ((r.value / r.denominator : Nat) : ℚ) ≤ r.exact ∧
      r.exact < (r.value / r.denominator + 1 : Nat) := by
  have hpos : (0 : ℚ) < r.denominator := by exact_mod_cast h.denominator_pos
  rw [exact, le_div_iff₀ hpos, div_lt_iff₀ hpos]
  constructor
  · exact_mod_cast Nat.div_mul_le_self r.value r.denominator
  · exact_mod_cast (Nat.div_lt_iff_lt_mul h.denominator_pos).mp (Nat.lt_succ_self _)

/-- The value lies in its decade. -/
theorem exact_bounds (h : r.Proper) :
    (10 : ℚ) ^ (r.decade - 1) ≤ r.exact ∧ r.exact < 10 ^ r.decade := by
  have hden := h.denominator_pos
  have hvalue : 0 < r.value := Nat.zero_lt_of_lt h.low_lt
  have hpos : (0 : ℚ) < r.denominator := by exact_mod_cast hden
  rw [decade]
  split_ifs with hwhole
  · -- The digits of the whole part are counted.
    have hlength := Nat.length_toDigits_pos (b := 10) (n := r.value / r.denominator)
    obtain ⟨hlow, hhigh⟩ :=
      (Decimal.length_toDigits_eq_iff hlength (Nat.div_pos hwhole hden)).mp rfl
    obtain ⟨hfloor, hceil⟩ := whole_bounds h
    generalize (Nat.toDigits 10 (r.value / r.denominator)).length = k at hlength hlow hhigh
    have hpred : (k : Int) - 1 = (k - 1 : Nat) := by omega
    rw [hpred, zpow_natCast, zpow_natCast]
    constructor
    · exact le_trans (by exact_mod_cast hlow) hfloor
    · exact lt_of_lt_of_le hceil (by exact_mod_cast hhigh)
  · -- The digits of the inverse are counted, rounded down where it is a power of ten.
    have hsmall : r.value ≤ r.denominator - 1 := by omega
    have hlength := Nat.length_toDigits_pos (b := 10) (n := (r.denominator - 1) / r.value)
    obtain ⟨hlow, hhigh⟩ :=
      (Decimal.length_toDigits_eq_iff hlength (Nat.div_pos hsmall hvalue)).mp rfl
    generalize (Nat.toDigits 10 ((r.denominator - 1) / r.value)).length = k at hlength hlow hhigh
    have hfloor := (Nat.le_div_iff_mul_le hvalue).mp hlow
    have hceil := (Nat.div_lt_iff_lt_mul hvalue).mp hhigh
    have hsucc : (1 - (k : Int)) - 1 = -(k : Nat) := by omega
    have hpred : 1 - (k : Int) = -(k - 1 : Nat) := by omega
    rw [hsucc, hpred, zpow_neg, zpow_neg, zpow_natCast, zpow_natCast, exact]
    constructor
    · rw [inv_le_iff_one_le_mul₀ (by positivity), ← mul_div_right_comm, le_div_iff₀ hpos, one_mul]
      exact_mod_cast (by rw [Nat.mul_comm]; omega : r.denominator ≤ r.value * 10 ^ k)
    · rw [← one_div, div_lt_div_iff₀ hpos (by positivity), one_mul, mul_comm]
      exact_mod_cast (by omega : 10 ^ (k - 1) * r.value < r.denominator)

end Decade

section Search

variable {r : RoundingInterval} {tie : Tie}

/-- The interval has no gaps. -/
theorem contains_of_le_of_le {p q m : ℚ}
    (hp : r.Contains p) (hq : r.Contains q) (hpm : p ≤ m) (hmq : m ≤ q) :
    r.Contains m := by
  rw [Contains] at *
  split_ifs at *
  · exact ⟨hp.1.trans hpm, hmq.trans hq.2⟩
  · exact ⟨hp.1.trans_le hpm, hmq.trans_lt hq.2⟩

theorem nearer_eq_or (tie : Tie) (r : RoundingInterval) (c : Nat) :
    r.nearer tie c = c ∨ r.nearer tie c = c + 1 := by
  cases tie <;> grind [nearer]

/-- Whatever is found is a neighbour of the value, and lies in the interval. -/
theorem of_nearest?_eq_some (h : r.Proper) {c : Nat} (hc : r.nearest? tie = some c) :
    r.Contains c ∧ (c = r.value / r.denominator ∨ c = r.value / r.denominator + 1) := by
  rw [nearest?] at hc
  rw [← holds_iff h]
  split at hc
  · next hlow hhigh =>
      rw [← Option.some.inj hc]
      rcases nearer_eq_or tie r (r.value / r.denominator) with heq | heq
      · exact ⟨by rwa [heq], .inl heq⟩
      · exact ⟨by rwa [heq], .inr heq⟩
  · next hlow _ =>
      obtain rfl := Option.some.inj hc
      exact ⟨hlow, .inl rfl⟩
  · next _ hhigh =>
      obtain rfl := Option.some.inj hc
      exact ⟨hhigh, .inr rfl⟩
  · exact absurd hc (Option.some_ne_none c).symm

/-- A whole number in the interval leaves a neighbour of the value in it. -/
theorem nearest?_eq_none_iff (h : r.Proper) :
    r.nearest? tie = none ↔ ∀ c : Nat, ¬r.Contains c := by
  obtain ⟨hfloor, hceil⟩ := whole_bounds h
  constructor
  · intro hnone c hc
    rw [nearest?] at hnone
    split at hnone <;> try exact absurd hnone (Option.some_ne_none _)
    next hlow hhigh =>
      rcases Nat.lt_or_ge (r.value / r.denominator) c with hlt | hge
      · refine Bool.eq_false_iff.mp hhigh ((holds_iff h _).mpr ?_)
        exact contains_of_le_of_le h.contains_exact hc hceil.le (by exact_mod_cast hlt)
      · refine Bool.eq_false_iff.mp hlow ((holds_iff h _).mpr ?_)
        exact contains_of_le_of_le hc h.contains_exact (by exact_mod_cast hge) hfloor
  · intro hnone
    refine Option.eq_none_iff_forall_ne_some.mpr fun c hc => ?_
    exact hnone c (of_nearest?_eq_some h hc).1

/-- A grid is skipped when none of its points lies in the interval. -/
theorem decimal?_eq_none_iff (h : r.Proper) {n : Nat} :
    r.decimal? tie n = none ↔ ∀ c : Nat, ¬r.Contains (c * 10 ^ (r.decade - n)) := by
  rw [decimal?, Option.map_eq_none_iff, nearest?_eq_none_iff (h.inUnits _)]
  exact forall_congr' fun c => not_congr contains_inUnits_iff

theorem of_decimal?_eq_some (h : r.Proper) {n : Nat} {d : Decimal}
    (hd : r.decimal? tie n = some d) :
    d.exponent = r.decade - n ∧ r.Contains d.toRat := by
  rw [decimal?] at hd
  obtain ⟨c, hc, rfl⟩ := Option.map_eq_some_iff.mp hd
  exact ⟨rfl, contains_inUnits_iff.mp (of_nearest?_eq_some (h.inUnits _) hc).1⟩

/-- The interval is wider than the finest grid that is tried. -/
def Wide (r : RoundingInterval) : Prop :=
  (10 : ℚ) ^ (r.decade - 17) < r.highest - r.lowest

/-- The finest grid is not skipped. -/
theorem decimal?_ne_none_of_wide (h : r.Proper) (hwide : r.Wide) :
    r.decimal? tie 17 ≠ none := by
  intro hnone
  rw [decimal?_eq_none_iff h, Nat.cast_ofNat] at hnone
  have hunit : (0 : ℚ) < 10 ^ (r.decade - 17) := by positivity
  obtain ⟨hfloor, hceil⟩ := whole_bounds (h.inUnits (r.decade - 17))
  rw [exact_inUnits] at hfloor hceil
  generalize (r.inUnits (r.decade - 17)).value / (r.inUnits (r.decade - 17)).denominator = c
    at hfloor hceil
  rw [le_div_iff₀ hunit] at hfloor
  rw [div_lt_iff₀ hunit] at hceil
  have hbelow : c * 10 ^ (r.decade - 17) ≤ r.lowest := by
    by_contra hlt
    exact hnone c (contains_of_lt (not_le.mp hlt) (hfloor.trans_lt h.lt_highest))
  have habove : r.highest ≤ (c + 1 : Nat) * 10 ^ (r.decade - 17) := by
    by_contra hlt
    exact hnone (c + 1) (contains_of_lt (h.lowest_lt.trans hceil) (not_le.mp hlt))
  rw [Wide] at hwide
  push_cast at habove
  linarith

/-- The search ends at the coarsest grid with a point in the interval. -/
theorem exists_shortest (tie : Tie) (h : r.Proper) (hwide : r.Wide) :
    ∃ n d, 0 < n ∧ r.decimal? tie n = some d ∧
      (∀ m, 0 < m → m < n → ∀ c : Nat, ¬r.Contains (c * 10 ^ (r.decade - m))) ∧
      r.shortest tie = d.reduce := by
  rw [shortest]
  cases hfind : (List.range' 1 17).findSome? (r.decimal? tie) with
  | none =>
      have hnone := List.findSome?_eq_none_iff.mp hfind 17 (by decide)
      exact absurd hnone (decimal?_ne_none_of_wide h hwide)
  | some d =>
      obtain ⟨before, n, after, hrange, hd, hskipped⟩ := List.findSome?_eq_some_iff.mp hfind
      have hmem : ∀ m, m ∈ before ++ n :: after ↔ 1 ≤ m ∧ m < 18 := by
        intro m
        rw [← hrange, List.mem_range'_1]
      have hsorted : (before ++ n :: after).Pairwise (· < ·) := by
        rw [← hrange]
        exact List.pairwise_lt_range' 1
      have hn := (hmem n).mp (by simp)
      refine ⟨n, d, hn.1, hd, fun m hpos hlt => ?_, rfl⟩
      have hbefore : m ∈ before := by
        rcases List.mem_append.mp ((hmem m).mpr ⟨hpos, by omega⟩) with hbefore | hafter
        · exact hbefore
        · have hgt := (List.pairwise_cons.mp (List.pairwise_append.mp hsorted).2.1).1
          rcases List.mem_cons.mp hafter with rfl | hafter
          · exact absurd hlt (Nat.lt_irrefl m)
          · exact absurd (hgt m hafter) (by omega)
      exact (decimal?_eq_none_iff h).mp (hskipped m hbefore)

end Search

section Shortest

variable {r : RoundingInterval} {tie : Tie} {n : Nat}

/-- On the grid of `n` places, the value has `n` digits in front of the decimal point. -/
theorem whole_inUnits_bounds (h : r.Proper) (hn : 0 < n) :
    10 ^ (n - 1) ≤ (r.inUnits (r.decade - n)).value / (r.inUnits (r.decade - n)).denominator ∧
      (r.inUnits (r.decade - n)).value / (r.inUnits (r.decade - n)).denominator < 10 ^ n := by
  obtain ⟨hlow, hhigh⟩ := exact_bounds h
  obtain ⟨hfloor, hceil⟩ := whole_bounds (h.inUnits (r.decade - n))
  generalize (r.inUnits (r.decade - n)).value / (r.inUnits (r.decade - n)).denominator = c
    at hfloor hceil
  have hunit : (0 : ℚ) < 10 ^ (r.decade - n) := by positivity
  have hfirst : (10 : ℚ) ^ (n - 1) * 10 ^ (r.decade - n) = 10 ^ (r.decade - 1) := by
    rw [← zpow_natCast, ← zpow_add₀ (by norm_num)]
    congr 1
    omega
  have hlast : (10 : ℚ) ^ n * 10 ^ (r.decade - n) = 10 ^ r.decade := by
    rw [← zpow_natCast, ← zpow_add₀ (by norm_num)]
    congr 1
    omega
  rw [exact_inUnits] at hfloor hceil
  constructor
  · have hlt : (10 : ℚ) ^ (n - 1) < (c + 1 : Nat) := by
      refine lt_of_le_of_lt ?_ hceil
      rwa [le_div_iff₀ hunit, hfirst]
    exact Nat.lt_succ_iff.mp (by exact_mod_cast hlt)
  · have hlt : (c : ℚ) < 10 ^ n := by
      refine lt_of_le_of_lt hfloor ?_
      rwa [div_lt_iff₀ hunit, hlast]
    exact_mod_cast hlt

/-- What is found has a significand. -/
theorem significand_pos_of_decimal? (h : r.Proper) (hn : 0 < n) {d : Decimal}
    (hd : r.decimal? tie n = some d) :
    0 < d.significand := by
  rw [decimal?] at hd
  obtain ⟨c, hc, rfl⟩ := Option.map_eq_some_iff.mp hd
  have hlow := (whole_inUnits_bounds h hn).1
  have hpow : 0 < 10 ^ (n - 1) := by positivity
  have hneighbour := (of_nearest?_eq_some (h.inUnits _) hc).2
  dsimp only
  omega

/-- The shortest decimal rounds to the same number. -/
theorem contains_shortest (h : r.Proper) (hwide : r.Wide) :
    r.Contains (r.shortest tie).toRat := by
  obtain ⟨n, d, hn, hd, -, hshortest⟩ := exists_shortest tie h hwide
  rw [hshortest, Decimal.toRat_reduce]
  exact (of_decimal?_eq_some h hd).2

theorem shortest_significand_mod (h : r.Proper) (hwide : r.Wide) :
    (r.shortest tie).significand % 10 ≠ 0 := by
  obtain ⟨n, d, hn, hd, -, hshortest⟩ := exists_shortest tie h hwide
  rw [hshortest]
  exact Decimal.reduce_significand_mod (significand_pos_of_decimal? h hn hd).ne'

/-- An integer needs no digits behind the decimal point. -/
theorem shortest_exponent_nonneg (h : r.Proper) (hwide : r.Wide) {m : Nat} (hm : r.exact = m) :
    0 ≤ (r.shortest tie).exponent := by
  obtain ⟨n, d, hn, hd, hskipped, hshortest⟩ := exists_shortest tie h hwide
  have hdecade : 0 < r.decade := by
    by_contra hle
    have hlt : r.exact < 1 :=
      (exact_bounds h).2.trans_le (zpow_le_one_of_nonpos₀ (by norm_num) (not_lt.mp hle))
    rw [hm] at hlt
    have hzero : m = 0 := Nat.lt_one_iff.mp (by exact_mod_cast hlt)
    exact h.exact_pos.ne' (by rw [hm, hzero, Nat.cast_zero])
  have hcoarse : (n : Int) ≤ r.decade := by
    by_contra hlt
    obtain ⟨k, hk⟩ := Int.eq_ofNat_of_zero_le hdecade.le
    refine hskipped k (by omega) (by omega) m ?_
    rw [hk, sub_self, zpow_zero, mul_one, ← hm]
    exact h.contains_exact
  have hexponent := (of_decimal?_eq_some h hd).1
  have hreduce := d.exponent_le_reduce
  rw [hshortest]
  omega

end Shortest

section Ties

variable {r : RoundingInterval}

/-- The ways to break ties take different neighbours where the lower one is even. -/
theorem nearest?_even_cases {c c' : Nat}
    (heven : r.nearest? .even = some c) (hup : r.nearest? .up = some c') :
    c = c' ∨ c + 1 = c' ∧ c % 2 = 0 ∧ c = r.value / r.denominator := by
  rw [nearest?] at heven hup
  split at heven <;> grind [nearer]

/-- A grid with a decimal on it is not skipped, whatever ties are broken to. -/
theorem grid_le_of_skipped (h : r.Proper) {tie : Tie} {n n' : Nat} {d : Decimal}
    (hn : 0 < n) (hd : r.decimal? tie n = some d)
    (hskipped : ∀ m, 0 < m → m < n' → ∀ c : Nat, ¬r.Contains (c * 10 ^ (r.decade - m))) :
    n' ≤ n := by
  by_contra hlt
  obtain ⟨hexponent, hcontains⟩ := of_decimal?_eq_some h hd
  rw [Decimal.toRat, hexponent] at hcontains
  exact hskipped n hn (by omega) d.significand hcontains

/-- Where the two ways to break ties differ, they do so in the last digit only. -/
theorem shortest_even_cases (h : r.Proper) (hwide : r.Wide) :
    r.shortest .even = r.shortest .up ∨
      (r.shortest .even).significand ≠ (r.shortest .up).significand ∧
        (r.shortest .even).digits.length = (r.shortest .up).digits.length ∧
        (r.shortest .even).exponent = (r.shortest .up).exponent := by
  obtain ⟨n, d, hn, hd, hskipped, hshortest⟩ := exists_shortest .even h hwide
  obtain ⟨n', d', hn', hd', hskipped', hshortest'⟩ := exists_shortest .up h hwide
  obtain rfl : n = n' :=
    Nat.le_antisymm (grid_le_of_skipped h hn' hd' hskipped) (grid_le_of_skipped h hn hd hskipped')
  have hcontains := (of_decimal?_eq_some h hd).2
  rw [hshortest, hshortest']
  rw [decimal?] at hd hd'
  obtain ⟨c, hc, rfl⟩ := Option.map_eq_some_iff.mp hd
  obtain ⟨c', hc', rfl⟩ := Option.map_eq_some_iff.mp hd'
  rcases nearest?_even_cases hc hc' with rfl | ⟨rfl, hparity, hwhole⟩
  · exact .inl rfl
  · obtain ⟨hlow, hhigh⟩ := whole_inUnits_bounds h hn
    rw [← hwhole] at hlow hhigh
    have hpos : 0 < c := Nat.lt_of_lt_of_le (by positivity) hlow
    -- A trailing zero would leave the even neighbour on the grid before.
    have hlast : c % 10 ≠ 0 := by
      intro hzero
      rcases Nat.eq_or_lt_of_le hn with hone | hmore
      · rw [← hone, Nat.pow_one] at hhigh
        omega
      · refine hskipped (n - 1) (by omega) (by omega) (c / 10) ?_
        have hunit : r.decade - (n - 1 : Nat) = r.decade - n + 1 := by omega
        rw [hunit, Decimal.mul_zpow_of_mod_eq_zero hzero]
        exact hcontains
    have hlast' : (c + 1) % 10 ≠ 0 := by omega
    have hpow : c + 1 < 10 ^ n := by
      have heven : 10 ^ n % 2 = 0 :=
        Nat.mod_eq_zero_of_dvd (dvd_pow (by decide : 2 ∣ 10) hn.ne')
      omega
    rw [Decimal.reduce_of_mod_ne_zero hlast, Decimal.reduce_of_mod_ne_zero hlast']
    refine .inr ⟨(Nat.succ_ne_self c).symm, ?_, rfl⟩
    rw [Decimal.digits, Decimal.digits, (Decimal.length_toDigits_eq_iff hn hpos).mpr ⟨hlow, hhigh⟩,
      (Decimal.length_toDigits_eq_iff hn c.succ_pos).mpr ⟨Nat.le_succ_of_le hlow, hpow⟩]

end Ties

end RoundingInterval
end ShapeCheck
