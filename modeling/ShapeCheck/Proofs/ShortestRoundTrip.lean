import ShapeCheck.Proofs.Nearest

/-!
# The shortest decimal that rounds to a number

The search for the shortest decimal stays within the decade of the value.  A decimal outside of it
would leave a power of ten between itself and the value, so nothing is missed: what is found has the
fewest digits among all decimals that round to the number, and of those with as many digits it is
the nearest one.

* `Decimal.IsShortest`: the shortest and nearest decimal, said without the search.
* `Decimal.IsShortest.unique`: there is at most one.
* `RoundingInterval.isShortest_shortest`: the search finds it.
* `Binary64.isShortestDecimal_shortest`: every number but zero has one.
-/

namespace ShapeCheck

namespace Decimal

/-- A decimal has the fewest digits among those with a property, none of them trailing zeros, and of
those with as many digits it is the nearest to a value, and the larger one of two as near. -/
structure IsShortest (d : Decimal) (property : ℚ → Prop) (value : ℚ) : Prop where
  holds : property d.toRat
  last : d.significand % 10 ≠ 0
  fewest : ∀ d' : Decimal, property d'.toRat → d.digits.length ≤ d'.digits.length
  nearest : ∀ d' : Decimal, property d'.toRat → d'.digits.length = d.digits.length →
    |d.toRat - value| ≤ |d'.toRat - value|
  larger : ∀ d' : Decimal, property d'.toRat → d'.digits.length = d.digits.length →
    |d'.toRat - value| = |d.toRat - value| → d'.toRat ≤ d.toRat

section Unique

variable {d d' : Decimal}

/-- Without trailing zeros there is one decimal for a number. -/
theorem exponent_le_of_toRat_eq (hlast : d.significand % 10 ≠ 0) (h : d.toRat = d'.toRat) :
    d'.exponent ≤ d.exponent := by
  by_contra hlt
  obtain ⟨k, hk⟩ := Int.eq_ofNat_of_zero_le (by omega : 0 ≤ d'.exponent - d.exponent - 1)
  have hexponent : d'.exponent = d.exponent + (k + 1 : Nat) := by omega
  have hunit : (10 : ℚ) ^ d.exponent ≠ 0 := by positivity
  rw [toRat, toRat, hexponent, zpow_add₀ (by norm_num), zpow_natCast, mul_comm ((10 : ℚ) ^ _),
    ← mul_assoc, mul_left_inj' hunit] at h
  have hnat : d.significand = d'.significand * 10 ^ (k + 1) := by exact_mod_cast h
  rw [Nat.pow_succ, ← Nat.mul_assoc] at hnat
  exact hlast (by rw [hnat, Nat.mul_mod_left])

theorem eq_of_toRat_eq (hlast : d.significand % 10 ≠ 0) (hlast' : d'.significand % 10 ≠ 0)
    (h : d.toRat = d'.toRat) :
    d = d' := by
  have hexponent : d.exponent = d'.exponent :=
    le_antisymm (exponent_le_of_toRat_eq hlast' h.symm) (exponent_le_of_toRat_eq hlast h)
  have hunit : (10 : ℚ) ^ d'.exponent ≠ 0 := by positivity
  rw [toRat, toRat, hexponent, mul_left_inj' hunit] at h
  cases d
  cases d'
  exact congrArg₂ Decimal.mk (by exact_mod_cast h) hexponent

theorem IsShortest.unique {property : ℚ → Prop} {value : ℚ}
    (h : d.IsShortest property value) (h' : d'.IsShortest property value) :
    d = d' := by
  have hlength : d'.digits.length = d.digits.length :=
    le_antisymm (h'.fewest d h.holds) (h.fewest d' h'.holds)
  have hdistance : |d'.toRat - value| = |d.toRat - value| :=
    le_antisymm (h'.nearest d h.holds hlength.symm) (h.nearest d' h'.holds hlength)
  exact eq_of_toRat_eq h.last h'.last
    (le_antisymm (h'.larger d h.holds hlength.symm hdistance.symm)
      (h.larger d' h'.holds hlength hdistance))

/-- To drop trailing zeros makes no decimal longer. -/
theorem length_digits_reduce_le (d : Decimal) :
    d.reduce.digits.length ≤ d.digits.length := by
  fun_induction reduce d with
  | case1 d h ih =>
      refine ih.trans ?_
      rw [digits, digits, Nat.toDigits_of_base_le (by decide) (by omega : 10 ≤ d.significand),
        List.length_append]
      exact Nat.le_add_right _ _
  | case2 d h =>
      exact Nat.le_refl _

end Unique

end Decimal

namespace RoundingInterval

section Neighbours

variable {r : RoundingInterval}

/-- Of the two whole neighbours of the value, the one that is found is the nearer one, if both lie
in the interval, and the larger one when they are equally near. -/
theorem of_nearest?_up (h : r.Proper) {m : Nat} (hm : r.nearest? .up = some m) :
    ∃ c : Nat, c = r.value / r.denominator ∧
      ((m = c ∧ (r.Contains (c + 1 : Nat) → r.exact - c < (c + 1 : Nat) - r.exact)) ∨
        (m = c + 1 ∧ (r.Contains c → (c + 1 : Nat) - r.exact ≤ r.exact - c))) := by
  have hpos : (0 : ℚ) < r.denominator := by exact_mod_cast h.denominator_pos
  refine ⟨_, rfl, ?_⟩
  rw [nearest?] at hm
  generalize r.value / r.denominator = c at hm
  have hhalf : r.exact - c < (c + 1 : Nat) - r.exact ↔
      2 * r.value < (2 * c + 1) * r.denominator := by
    have htwice : r.exact - c < (c + 1 : Nat) - r.exact ↔ 2 * r.exact < 2 * c + 1 := by
      push_cast
      constructor <;> intro hlt <;> linarith
    rw [htwice, exact, ← mul_div_assoc, div_lt_iff₀ hpos]
    exact_mod_cast Iff.rfl
  rw [← not_lt, hhalf, ← holds_iff h, ← holds_iff h]
  split at hm
  · next hlow hhigh =>
      obtain rfl := Option.some.inj hm
      rw [nearer]
      split_ifs with hnear hfar
      · exact .inl ⟨rfl, fun _ => hnear⟩
      · exact .inr ⟨rfl, fun _ => hnear⟩
      · exact .inr ⟨rfl, fun _ => hnear⟩
  · next hlow hhigh =>
      obtain rfl := Option.some.inj hm
      exact .inl ⟨rfl, fun hholds => absurd hholds (by simp [hhigh])⟩
  · next hlow hhigh =>
      obtain rfl := Option.some.inj hm
      exact .inr ⟨rfl, fun hholds => absurd hholds (by simp [hlow])⟩
  · cases hm

/-- What is found is nearer to the value than anything in the interval outside of the gap between
the two neighbours, and larger than what is as near. -/
theorem nearest?_up_nearest (h : r.Proper) {m : Nat} (hm : r.nearest? .up = some m)
    {q : ℚ} (hq : r.Contains q)
    (hgap : q ≤ (r.value / r.denominator : Nat) ∨ (r.value / r.denominator + 1 : Nat) ≤ q) :
    |m - r.exact| ≤ |q - r.exact| ∧ (|q - r.exact| = |m - r.exact| → q ≤ m) := by
  obtain ⟨hfloor, hceil⟩ := whole_bounds h
  obtain ⟨c, hc, hcases⟩ := of_nearest?_up h hm
  rw [← hc] at hfloor hceil hgap
  push_cast at hceil hgap hcases
  rcases hcases with ⟨rfl, hnear⟩ | ⟨rfl, hnear⟩
  · rw [abs_of_nonpos (by linarith : (m : ℚ) - r.exact ≤ 0)]
    rcases hgap with hbelow | habove
    · rw [abs_of_nonpos (by linarith : q - r.exact ≤ 0)]
      exact ⟨by linarith, fun _ => hbelow⟩
    · have hlt := hnear (contains_of_le_of_le h.contains_exact hq hceil.le habove)
      rw [abs_of_nonneg (by linarith : 0 ≤ q - r.exact)]
      exact ⟨by linarith, fun htie => by linarith⟩
  · push_cast
    rw [abs_of_nonneg (by linarith : 0 ≤ (c : ℚ) + 1 - r.exact)]
    rcases hgap with hbelow | habove
    · have hle := hnear (contains_of_le_of_le hq h.contains_exact hbelow hfloor)
      rw [abs_of_nonpos (by linarith : q - r.exact ≤ 0)]
      exact ⟨by linarith, fun _ => by linarith⟩
    · rw [abs_of_nonneg (by linarith : 0 ≤ q - r.exact)]
      exact ⟨by linarith, fun htie => by linarith⟩

end Neighbours

section Decade

variable {r : RoundingInterval} {n : Nat} {d : Decimal}

/-- Powers of ten above the unit of a grid are on the grid. -/
theorem zpow_eq_grid {e u : Int} (h : e = n + u) :
    (10 : ℚ) ^ e = (10 ^ n : Nat) * 10 ^ u := by
  rw [h, zpow_add₀ (by norm_num), zpow_natCast, Nat.cast_pow, Nat.cast_ofNat]

/-- A decimal lies below the decade of the value, above it, or has its decimal point where the value
has it. -/
theorem decade_cases (r : RoundingInterval) (d : Decimal) :
    d.toRat < 10 ^ (r.decade - 1) ∨ 10 ^ r.decade ≤ d.toRat ∨ d.point = r.decade := by
  rcases lt_or_ge d.toRat (10 ^ (r.decade - 1)) with hbelow | hge
  · exact .inl hbelow
  · rcases lt_or_ge d.toRat (10 ^ r.decade) with hlt | habove
    · have hpos : 0 < d.significand := by
        rw [Nat.pos_iff_ne_zero]
        intro hzero
        rw [Decimal.toRat, hzero, Nat.cast_zero, zero_mul] at hge
        exact absurd hge (not_le.mpr (by positivity))
      have hle := (Decimal.point_le_iff hpos).mpr hlt
      have hgt := (Decimal.lt_point_iff hpos).mpr hge
      exact .inr (.inr (by omega))
    · exact .inr (.inl habove)

/-- A decimal in the interval has at least as many digits as the first grid with a point in it. -/
theorem le_length_digits (h : r.Proper)
    (hskipped : ∀ m, 0 < m → m < n → ∀ c : Nat, ¬r.Contains (c * 10 ^ (r.decade - m)))
    (hd : r.Contains d.toRat) :
    n ≤ d.digits.length := by
  have hlength : 0 < d.digits.length := Nat.length_toDigits_pos
  obtain ⟨hlow, hhigh⟩ := exact_bounds h
  by_contra hlt
  rcases decade_cases r d with hbelow | habove | hpoint
  · -- The power of ten below the value is on every grid.
    refine hskipped 1 (by decide) (by omega) 1 ?_
    rw [Nat.cast_one, one_mul, Nat.cast_one]
    exact contains_of_le_of_le hd h.contains_exact hbelow.le hlow
  · refine hskipped 1 (by decide) (by omega) 10 ?_
    rw [Nat.cast_ofNat, Nat.cast_one, ← zpow_one_add₀ (by norm_num), add_sub_cancel]
    exact contains_of_le_of_le h.contains_exact hd hhigh.le habove
  · refine hskipped d.digits.length hlength (by omega) d.significand ?_
    have hexponent : r.decade - d.digits.length = d.exponent := by
      rw [← hpoint, Decimal.point]
      omega
    rwa [hexponent]

/-- A decimal of at most `n` digits does not lie between neighbours on the grid of `n` digits. -/
theorem outside_gap (h : r.Proper) (hn : 0 < n) (hd : d.digits.length ≤ n) :
    d.toRat / 10 ^ (r.decade - n) ≤
        ((r.inUnits (r.decade - n)).value / (r.inUnits (r.decade - n)).denominator : Nat) ∨
      ((r.inUnits (r.decade - n)).value / (r.inUnits (r.decade - n)).denominator + 1 : Nat) ≤
        d.toRat / 10 ^ (r.decade - n) := by
  have hunit : (0 : ℚ) < 10 ^ (r.decade - n) := by positivity
  obtain ⟨hlow, hhigh⟩ := whole_inUnits_bounds h hn
  generalize (r.inUnits (r.decade - n)).value / (r.inUnits (r.decade - n)).denominator = c
    at hlow hhigh
  rw [div_le_iff₀ hunit, le_div_iff₀ hunit]
  rcases decade_cases r d with hbelow | habove | hpoint
  · refine .inl (hbelow.le.trans ?_)
    rw [zpow_eq_grid (by omega : r.decade - 1 = (n - 1 : Nat) + (r.decade - n))]
    exact mul_le_mul_of_nonneg_right (by exact_mod_cast hlow) hunit.le
  · refine .inr (le_trans ?_ habove)
    rw [zpow_eq_grid (by omega : r.decade = n + (r.decade - n))]
    exact mul_le_mul_of_nonneg_right (by exact_mod_cast hhigh) hunit.le
  · -- On a coarser grid of the same decade every point is on the finer one.
    have hexponent : d.exponent = (n - d.digits.length : Nat) + (r.decade - n) := by
      rw [← hpoint, Decimal.point]
      omega
    have hgrid : d.toRat =
        (d.significand * 10 ^ (n - d.digits.length) : Nat) * 10 ^ (r.decade - n) := by
      rw [Decimal.toRat, zpow_eq_grid hexponent, Nat.cast_mul, mul_assoc]
    rw [hgrid]
    rcases Nat.lt_or_ge c (d.significand * 10 ^ (n - d.digits.length)) with hlt | hge
    · exact .inr (mul_le_mul_of_nonneg_right (by exact_mod_cast hlt) hunit.le)
    · exact .inl (mul_le_mul_of_nonneg_right (by exact_mod_cast hge) hunit.le)

/-- The decimal that is found on a grid has no more digits than the grid, apart from trailing
zeros. -/
theorem length_digits_reduce_le_of_found (h : r.Proper) (hn : 0 < n)
    (hskipped : ∀ m, 0 < m → m < n → ∀ c : Nat, ¬r.Contains (c * 10 ^ (r.decade - m)))
    (hd : r.decimal? .up n = some d) :
    d.reduce.digits.length ≤ n := by
  obtain ⟨hexponent, hcontains⟩ := of_decimal?_eq_some h hd
  have hpos := significand_pos_of_decimal? h hn hd
  have hle : d.significand ≤ 10 ^ n := by
    rw [decimal?] at hd
    obtain ⟨m, hm, rfl⟩ := Option.map_eq_some_iff.mp hd
    have hwhole := (whole_inUnits_bounds h hn).2
    rcases (of_nearest?_eq_some (h.inUnits _) hm).2 with heq | heq <;> dsimp only <;> omega
  rcases Nat.lt_or_eq_of_le hle with hlt | heq
  · refine d.length_digits_reduce_le.trans ?_
    rw [Decimal.digits, Nat.length_toDigits_le_iff (by decide) hn]
    exact hlt
  · -- Rounded up to the next power of ten, it is a point of the coarsest grid.
    have hdigits : ∀ e, (⟨1, e⟩ : Decimal).digits.length = 1 := fun _ =>
      congrArg List.length (Nat.toDigits_of_lt_base (by decide : 1 < 10))
    have hone : n ≤ 1 := by
      rw [← hdigits r.decade]
      refine le_length_digits h hskipped ?_
      have hrat : (⟨1, r.decade⟩ : Decimal).toRat = d.toRat := by
        rw [Decimal.toRat, Decimal.toRat, heq, hexponent, Nat.cast_one, one_mul,
          zpow_eq_grid (add_sub_cancel _ _).symm]
      rwa [hrat]
    obtain rfl : n = 1 := by omega
    rw [Nat.pow_one] at heq
    rw [Decimal.reduce, heq, if_pos (by decide), Decimal.reduce_of_mod_ne_zero (by simp)]
    exact (hdigits _).le

end Decade

section Shortest

variable {r : RoundingInterval}

/-- What is found on a grid is the nearest to the value of all decimals in the interval with at most
as many digits, and the larger one of two as near. -/
theorem decimal?_up_nearest
    (h : r.Proper) {n : Nat} (hn : 0 < n) {d d' : Decimal} (hd : r.decimal? .up n = some d)
    (hcontains : r.Contains d'.toRat) (hlength : d'.digits.length ≤ n) :
    |d.toRat - r.exact| ≤ |d'.toRat - r.exact| ∧
      (|d'.toRat - r.exact| = |d.toRat - r.exact| → d'.toRat ≤ d.toRat) := by
  rw [decimal?] at hd
  obtain ⟨m, hm, rfl⟩ := Option.map_eq_some_iff.mp hd
  have hunit : (0 : ℚ) < 10 ^ (r.decade - n) := by positivity
  have hscale : d'.toRat / 10 ^ (r.decade - n) * 10 ^ (r.decade - n) = d'.toRat :=
    div_mul_cancel₀ _ hunit.ne'
  have hscaled := nearest?_up_nearest (h.inUnits _) hm
    (contains_inUnits_iff.mpr (by rwa [hscale])) (outside_gap h hn hlength)
  have hfound : (⟨m, r.decade - n⟩ : Decimal).toRat / 10 ^ (r.decade - n) = m :=
    mul_div_cancel_right₀ _ hunit.ne'
  rw [exact_inUnits, ← hfound, ← sub_div, ← sub_div, abs_div, abs_div,
    div_le_div_iff_of_pos_right (abs_pos.mpr hunit.ne'),
    div_left_inj' (abs_pos.mpr hunit.ne').ne', div_le_div_iff_of_pos_right hunit] at hscaled
  exact hscaled

/-- The search finds the shortest decimal in the interval that is nearest to the value. -/
theorem isShortest_shortest (h : r.Proper) (hwide : r.Wide) :
    (r.shortest .up).IsShortest r.Contains r.exact := by
  obtain ⟨n, d, hn, hd, hskipped, hshortest⟩ := exists_shortest .up h hwide
  have hlength := length_digits_reduce_le_of_found h hn hskipped hd
  rw [hshortest]
  refine ⟨?_, ?_, fun d' hd' => ?_, fun d' hd' hle => ?_, fun d' hd' hle => ?_⟩
  · rw [Decimal.toRat_reduce]
    exact (of_decimal?_eq_some h hd).2
  · exact Decimal.reduce_significand_mod (significand_pos_of_decimal? h hn hd).ne'
  · exact hlength.trans (le_length_digits h hskipped hd')
  · rw [Decimal.toRat_reduce]
    exact (decimal?_up_nearest h hn hd hd' (hle.trans_le hlength)).1
  · rw [Decimal.toRat_reduce]
    exact (decimal?_up_nearest h hn hd hd' (hle.trans_le hlength)).2

end Shortest

end RoundingInterval

namespace Binary64

/-- The shortest decimal of a number: of those that round to it, the one with the fewest digits that
is nearest to it. -/
def IsShortestDecimal (x : Binary64) (d : Decimal) : Prop :=
  d.IsShortest (fun q => x.IsNearest q) x.magnitude

/-- Every number but zero has a shortest decimal, and it is displayed. -/
theorem isShortestDecimal_shortest
    {x : Binary64} (hfinite : x.isFinite = true) (hzero : x.isZero = false) :
    x.IsShortestDecimal (x.shortest .up) := by
  have hproperty : (fun q => x.IsNearest q) = x.interval.Contains :=
    funext fun q => propext (contains_iff_isNearest hfinite hzero).symm
  rw [IsShortestDecimal, hproperty, ← exact_interval]
  exact RoundingInterval.isShortest_shortest (interval_proper hzero) (interval_wide hzero)

end Binary64
end ShapeCheck
