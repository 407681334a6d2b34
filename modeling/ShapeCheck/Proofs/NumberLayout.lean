import ShapeCheck.Proofs.NumberText
import ShapeCheck.Proofs.ShortestRoundTrip

/-!
# The layout of displayed numbers

A number is displayed by the digits of its shortest decimal, and the place of the decimal point
alone decides how they are laid out.  The display form compares the number with a millionth and with
10²¹, which comes to the same, since these two are their own shortest decimals.

* `Decimal.layout`: the layouts of digits, by the place of the decimal point.
* `Binary64.displayedAbs_eq_layout`: the two comparisons agree with it.
* `Binary64.display_lays_out_shortest`: what a finite number is displayed as.
-/

namespace ShapeCheck

namespace Decimal

/-- Digits laid out by the place of the decimal point: as an integer with zeros behind them, with a
decimal point among them, as a fraction with zeros in front of them, or with a power of ten. -/
def layout (digits : List Char) (point : Int) : List Char :=
  if digits.length ≤ point ∧ point ≤ 21 then
    digits ++ List.replicate (point - digits.length).toNat '0'
  else if 0 < point ∧ point ≤ 21 then
    digits.take point.toNat ++ '.' :: digits.drop point.toNat
  else if -6 < point ∧ point ≤ 0 then
    ['0', '.'] ++ List.replicate (-point).toNat '0' ++ digits
  else
    digits.take 1 ++ (if 1 < digits.length then '.' :: digits.drop 1 else []) ++
      ['e', if point - 1 < 0 then '-' else '+'] ++ Nat.toDigits 10 (point - 1).natAbs

section Layout

variable {digits : List Char} {point : Int}

/-- Where no power of ten is needed, none is written. -/
theorem positional_eq_layout
    (hne : digits ≠ []) (hlow : -6 < point) (hhigh : point ≤ 21) :
    positional digits point = layout digits point := by
  have hlength : 0 < digits.length := List.length_pos_iff.mpr hne
  rw [positional, layout]
  by_cases hfraction : point ≤ 0
  · rw [if_pos hfraction, if_neg (by omega), if_neg (by omega), if_pos ⟨hlow, hfraction⟩]
    rfl
  · rw [if_neg hfraction]
    by_cases hinteger : digits.length ≤ point.toNat
    · rw [if_pos hinteger, if_pos (by omega)]
      congr 2
      omega
    · rw [if_neg hinteger, if_neg (by omega), if_pos (by omega)]

theorem scientific_eq_layout
    (hne : digits ≠ []) (h : ¬(-6 < point ∧ point ≤ 21)) :
    scientific digits point = layout digits point := by
  have hlength : 0 < digits.length := List.length_pos_iff.mpr hne
  rw [layout, if_neg (by omega), if_neg (by omega), if_neg (by omega)]
  match digits with
  | [first] => rfl
  | first :: second :: rest => simp [scientific, powerOfTen]

end Layout

end Decimal

namespace Binary64

section Display

variable {x : Binary64}

/-- The magnitudes at which the display form changes are those at which the layout does. -/
theorem displayedAbs_eq_layout (hzero : x.isZero = false) :
    x.displayedAbs = Decimal.layout (x.shortest .up).digits (x.shortest .up).point := by
  have hne : (x.shortest .up).digits ≠ [] := Nat.toDigits_ne_nil
  have hplain := isDisplayedPlain_iff hzero
  rw [displayedAbs]
  split_ifs with h
  · obtain ⟨hlow, hhigh⟩ := hplain.mp h
    exact Decimal.positional_eq_layout hne hlow hhigh
  · exact Decimal.scientific_eq_layout hne fun hrange => h (hplain.mpr hrange)

/-- A finite number other than zero has one shortest decimal, and is displayed as its sign and the
digits of this decimal, laid out by the place of the decimal point.  Zeros are displayed without a
sign. -/
theorem display_lays_out_shortest (hfinite : x.isFinite = true) :
    (x.isZero = true → x.display = "0") ∧
    (x.isZero = false →
      (∃ d, x.IsShortestDecimal d) ∧
      ∀ d, x.IsShortestDecimal d →
        x.display = String.ofList (x.sign ++ Decimal.layout d.digits d.point)) := by
  refine ⟨display_of_isZero, fun hzero => ?_⟩
  have hshortest := isShortestDecimal_shortest hfinite hzero
  refine ⟨⟨_, hshortest⟩, fun d hd => ?_⟩
  rw [hd.unique hshortest, display_of_isFinite hfinite hzero, displayedAbs_eq_layout hzero]

/-- The largest number below 10²¹. -/
theorem display_lays_out_shortest_below_border :
    let x : Binary64 := ⟨0x444b1ae4d6e2ef4f⟩
    x.isFinite = true ∧ x.isZero = false ∧
      ∃ d, x.IsShortestDecimal d ∧
        x.display = String.ofList (x.sign ++ Decimal.layout d.digits d.point) := by
  intro x
  obtain ⟨-, hnonzero⟩ := display_lays_out_shortest (x := x) rfl
  obtain ⟨⟨d, hd⟩, hdisplay⟩ := hnonzero rfl
  exact ⟨rfl, rfl, d, hd, hdisplay d hd⟩

example :
    (⟨0x444b1ae4d6e2ef4f⟩ : Binary64).display = "999999999999999900000" ∧
      (⟨0x444b1ae4d6e2ef50⟩ : Binary64).display = "1e+21" ∧
      (⟨0xbeb0c6f7a0b5ed8d⟩ : Binary64).display = "-0.000001" ∧
      (⟨0x3eb0c6f7a0b5ed8c⟩ : Binary64).display = "9.999999999999997e-7" := by
  decide +kernel

end Display

end Binary64
end ShapeCheck
