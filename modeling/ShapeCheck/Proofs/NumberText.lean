import ShapeCheck.Proofs.RoundingOfNumbers
import ShapeCheck.Proofs.SameValue

/-!
# The two texts of a number

A number in a message is written in display form or in JSON form, and both take their digits from a
shortest decimal.  They part ways where the one writes a power of ten and the other does not, where
the JSON form shows that the number is no integer of the document, and where ties are broken.

* `Binary64.isDisplayedPlain_iff`: the two words at which the display form changes, as powers of
  ten.
* `Binary64.jsonAbs_eq_displayedAbs_iff`: the two forms of a magnitude.
* `Value.renderings_agree_iff`: the numbers whose renderings are the same.
-/

namespace ShapeCheck
namespace Binary64

section Thresholds

variable {x y t : Binary64} {tie : Tie}

theorem interval_congr (h : x.absBits = y.absBits) :
    x.interval = y.interval := by
  have hfield : x.exponentField = y.exponentField := by rw [exponentField, exponentField, h]
  have hfraction : x.fraction = y.fraction := by rw [fraction, fraction, h]
  have hsignificand : x.significand = y.significand := by
    rw [significand, significand, hfield, hfraction]
  have hexponent : x.exponent = y.exponent := by rw [exponent, exponent, hfield]
  rw [interval, interval, hsignificand, hexponent, hfraction, hfield]

/-- The decimals are ordered as the numbers are, with a power of ten as the border. -/
theorem pow_le_toRat_shortest_iff {j : Int} (hx : x.isZero = false) (ht : t.isZero = false)
    (hlow : t.interval.lowest < 10 ^ j) (hshortest : (t.shortest tie).toRat = 10 ^ j) :
    10 ^ j ≤ (x.shortest tie).toRat ↔ t.absBits ≤ x.absBits := by
  rcases Nat.lt_trichotomy t.absBits x.absBits with hlt | heq | hgt
  · refine iff_of_true ?_ hlt.le
    calc
      10 ^ j = (t.shortest tie).toRat := hshortest.symm
      _ ≤ t.interval.highest := RoundingInterval.le_highest_of_contains (contains_shortest tie ht)
      _ ≤ x.interval.lowest := highest_le_lowest hlt
      _ ≤ (x.shortest tie).toRat :=
          RoundingInterval.lowest_le_of_contains (contains_shortest tie hx)
  · refine iff_of_true ?_ heq.le
    rw [← hshortest, shortest, shortest, interval_congr heq]
  · refine iff_of_false (not_le.mpr ?_) (Nat.not_le.mpr hgt)
    calc
      (x.shortest tie).toRat ≤ x.interval.highest :=
        RoundingInterval.le_highest_of_contains (contains_shortest tie hx)
      _ ≤ t.interval.lowest := highest_le_lowest hgt
      _ < 10 ^ j := hlow

/-- A decimal of one digit in the interval is the shortest one. -/
theorem toRat_shortest_of_first {d : Decimal} (h : t.interval.decimal? tie 1 = some d) :
    (t.shortest tie).toRat = d.toRat := by
  rw [shortest, RoundingInterval.shortest, List.range'_succ, List.findSome?_cons, h]
  exact Decimal.toRat_reduce d

theorem lowest_lt_pow {j : Int}
    (h : (t.interval.inUnits j).low < (t.interval.inUnits j).denominator) :
    t.interval.lowest < 10 ^ j := by
  have hpos : 0 < (t.interval.inUnits j).denominator := Nat.zero_lt_of_lt h
  have hlt : (t.interval.inUnits j).lowest < 1 := by
    rw [RoundingInterval.lowest, div_lt_one (by exact_mod_cast hpos)]
    exact_mod_cast h
  rwa [RoundingInterval.lowest_inUnits, div_lt_one (by positivity)] at hlt

/-- The display form is without a power of ten from 10⁻⁶ to 10²¹. -/
theorem isDisplayedPlain_iff (hx : x.isZero = false) :
    x.isDisplayedPlain = true ↔ -6 < (x.shortest .up).point ∧ (x.shortest .up).point ≤ 21 := by
  have hpos := shortest_significand_pos .up hx
  have hmillionth : (⟨0x3eb0c6f7a0b5ed8d⟩ : Binary64).interval.decimal? .up 1 = some ⟨10, -7⟩ := by
    decide
  have hsextillion : (⟨0x444b1ae4d6e2ef50⟩ : Binary64).interval.decimal? .up 1 = some ⟨1, 21⟩ := by
    decide
  rw [isDisplayedPlain, Bool.and_eq_true, decide_eq_true_iff, decide_eq_true_iff,
    Decimal.lt_point_iff hpos, Decimal.point_le_iff hpos, ← not_le (a := (10 : ℚ) ^ (21 : Int)),
    ← Nat.not_le]
  refine and_congr ?_ (not_congr ?_)
  · refine (pow_le_toRat_shortest_iff (t := ⟨0x3eb0c6f7a0b5ed8d⟩) hx (by decide)
      (lowest_lt_pow (by decide)) ?_).symm
    rw [toRat_shortest_of_first hmillionth, Decimal.toRat]
    norm_num
  · refine (pow_le_toRat_shortest_iff (t := ⟨0x444b1ae4d6e2ef50⟩) hx (by decide)
      (lowest_lt_pow (by decide)) ?_).symm
    rw [toRat_shortest_of_first hsextillion, Decimal.toRat]
    norm_num

end Thresholds

section Forms

variable {x : Binary64}

theorem point_shortest_even (hx : x.isZero = false) :
    (x.shortest .even).point = (x.shortest .up).point := by
  rcases RoundingInterval.shortest_even_cases (interval_proper hx) (interval_wide hx) with
    heq | ⟨-, hlength, hexponent⟩
  · exact congrArg Decimal.point heq
  · rw [Decimal.point, Decimal.point]
    exact congrArg₂ (fun (k : Nat) (e : Int) => k + e) hlength hexponent

/-- The digits alone tell whether ties make a difference. -/
theorem shortest_even_eq_iff (hx : x.isZero = false) :
    x.shortest .even = x.shortest .up ↔ (x.shortest .even).digits = (x.shortest .up).digits := by
  refine ⟨congrArg Decimal.digits, fun hdigits => ?_⟩
  rcases RoundingInterval.shortest_even_cases (interval_proper hx) (interval_wide hx) with
    heq | ⟨hne, -⟩
  · exact heq
  · exact absurd (Decimal.toDigits_injective hdigits) hne

theorem length_digits_shortest_even (hx : x.isZero = false) :
    (x.shortest .even).digits.length = (x.shortest .up).digits.length := by
  rcases RoundingInterval.shortest_even_cases (interval_proper hx) (interval_wide hx) with
    heq | ⟨-, hlength, -⟩
  · exact congrArg (fun d => d.digits.length) heq
  · exact hlength

/-- A layout from which the digits can be read off shows whether ties make a difference. -/
theorem layout_shortest_even_iff (hx : x.isZero = false) (layout : List Char → Int → List Char)
    (hinjective : ∀ {digits digits' : List Char} {point : Int},
      digits.length = digits'.length → layout digits point = layout digits' point →
        digits = digits') :
    layout (x.shortest .even).digits (x.shortest .even).point =
        layout (x.shortest .up).digits (x.shortest .up).point ↔
      x.shortest .even = x.shortest .up := by
  rw [shortest_even_eq_iff hx, point_shortest_even hx]
  refine ⟨hinjective (length_digits_shortest_even hx), fun hdigits => ?_⟩
  rw [hdigits]

/-- A power of ten keeps a text from being one without. -/
theorem scientific_ne_positional (d u : Decimal) :
    Decimal.scientific d.digits d.point ≠ Decimal.positional u.digits u.point := by
  intro heq
  have hmem : 'e' ∈ Decimal.scientific d.digits d.point := Decimal.exponentMark_mem_scientific
  rw [heq] at hmem
  exact Decimal.exponentMark_not_mem_positional (Decimal.exponentMark_not_mem_digits u) hmem

/-- The two forms of a number with a fraction. -/
theorem jsonAbs_eq_displayedAbs_of_fraction (hx : x.isZero = false) (hnone : x.natAbs? = none) :
    x.jsonAbs = x.displayedAbs ↔
      x.shortest .even = x.shortest .up ∧ (x.shortest .up).point ≠ -5 := by
  have hplain := isDisplayedPlain_iff hx
  have hpoint := point_shortest_even hx
  have hle := point_shortest_le .up hx (exponent_neg hnone).le
  have hneg := shortest_exponent_neg .even hx hnone
  have hlength := Decimal.length_le_point_iff (d := x.shortest .even)
  rw [jsonAbs, displayedAbs]
  rcases Int.lt_trichotomy (x.shortest .up).point (-5) with hlt | heq | hgt
  · rw [if_neg (by omega), if_neg (by rw [hplain]; omega),
      layout_shortest_even_iff hx Decimal.scientific Decimal.scientific_injective]
    exact (and_iff_left hlt.ne).symm
  · rw [if_neg (by omega), if_pos (by rw [hplain]; omega)]
    exact iff_of_false (scientific_ne_positional _ _) fun h => h.2 heq
  · rw [if_pos (by omega), if_neg (by omega), if_pos (by rw [hplain]; omega),
      layout_shortest_even_iff hx Decimal.positional Decimal.positional_injective]
    exact (and_iff_left hgt.ne').symm

/-- The two forms of an integer. -/
theorem jsonAbs_eq_displayedAbs_of_integer {n : Nat} (hx : x.isZero = false)
    (hn : x.natAbs? = some n) :
    x.jsonAbs = x.displayedAbs ↔
      x.shortest .even = x.shortest .up ∧ 21 < (x.shortest .up).point := by
  have hplain := isDisplayedPlain_iff hx
  have hpoint := point_shortest_even hx
  have heven := shortest_exponent_nonneg .even hx (natAbs?_eq_some_iff.mp hn)
  have hup := shortest_exponent_nonneg .up hx (natAbs?_eq_some_iff.mp hn)
  have hlength := Decimal.length_le_point_iff (d := x.shortest .even)
  have hdigits : 0 < (x.shortest .even).digits.length := Nat.length_toDigits_pos
  rw [jsonAbs, displayedAbs]
  by_cases hlong : 21 < (x.shortest .up).point
  · rw [if_neg (by omega), if_neg (by rw [hplain]; omega),
      layout_shortest_even_iff hx Decimal.scientific Decimal.scientific_injective]
    exact (and_iff_left hlong).symm
  · rw [if_pos (c := x.isDisplayedPlain = true) (by rw [hplain]; omega)]
    refine iff_of_false ?_ fun h => hlong h.2
    by_cases hshort : (x.shortest .even).point ≤ 16
    · rw [if_pos (by omega), if_pos (by omega)]
      intro heq
      have hmem : '.' ∈ Decimal.positional (x.shortest .up).digits (x.shortest .up).point := by
        rw [← heq]
        simp
      exact absurd (Decimal.point_mem_positional_iff.mp hmem) (by omega)
    · rw [if_neg (by omega)]
      exact scientific_ne_positional _ _

/-- The two forms of a magnitude are the same when ties make no difference, when both are written
with or without a power of ten, and when no fraction is added to an integer. -/
theorem jsonAbs_eq_displayedAbs_iff (hx : x.isZero = false) :
    x.jsonAbs = x.displayedAbs ↔
      x.shortest .even = x.shortest .up ∧
        (x.shortest .up).point ≠ -5 ∧
        (x.natAbs? = none ∨ 21 < (x.shortest .up).point) := by
  cases hn : x.natAbs? with
  | none =>
      rw [jsonAbs_eq_displayedAbs_of_fraction hx hn]
      simp only [true_or, and_true]
  | some n =>
      rw [jsonAbs_eq_displayedAbs_of_integer hx hn]
      refine and_congr_right fun _ => ?_
      simp only [reduceCtorEq, false_or]
      omega

/-- Where all integers are numbers, the display form of an integer is its digits. -/
theorem displayedAbs_of_lt {n : Nat} (hx : x.isZero = false) (hn : x.natAbs? = some n)
    (hlt : n < 2 * hiddenBit) :
    x.displayedAbs = Nat.toDigits 10 n := by
  have hmagnitude := natAbs?_eq_some_iff.mp hn
  have hexponent : x.exponent ≤ 0 := by
    by_contra hpos
    obtain ⟨m, hm, hle⟩ := exists_natAbs?_eq_some (not_le.mp hpos)
    rw [hn, Option.some_inj] at hm
    omega
  have hnonneg := shortest_exponent_nonneg .up hx hmagnitude
  have hle := point_shortest_le .up hx hexponent
  have hlength := Decimal.length_le_point_iff (d := x.shortest .up)
  have hdigits : 0 < (x.shortest .up).digits.length := Nat.length_toDigits_pos
  rw [displayedAbs, if_pos (by rw [isDisplayedPlain_iff hx]; omega)]
  exact Decimal.positional_of_natural (shortest_significand_pos .up hx) hnonneg
    (toRat_shortest .up hx hexponent hmagnitude)

theorem display_of_isZero (h : x.isZero = true) :
    x.display = "0" := by
  have hbits := h
  rw [isZero, decide_eq_true_iff] at hbits
  rw [display, isNaN, isInfinite, hbits, if_neg (by decide), if_neg (by decide), if_pos h]

theorem isFinite_iff :
    x.isFinite = true ↔ x.isNaN = false ∧ x.isInfinite = false := by
  rw [isFinite, isNaN, isInfinite, decide_eq_true_iff, decide_eq_false_iff_not,
    decide_eq_false_iff_not]
  omega

/-- A finite number other than zero has a sign and a magnitude in both forms. -/
theorem display_of_isFinite (h : x.isFinite = true) (hzero : x.isZero = false) :
    x.display = String.ofList (x.sign ++ x.displayedAbs) := by
  obtain ⟨hnan, hinfinite⟩ := isFinite_iff.mp h
  rw [display, hnan, hinfinite, hzero, if_neg Bool.false_ne_true, if_neg Bool.false_ne_true,
    if_neg Bool.false_ne_true]

theorem jsonText_of_isFinite (h : x.isFinite = true) (hzero : x.isZero = false) :
    x.jsonText = String.ofList (x.sign ++ x.jsonAbs) := by
  rw [jsonText, if_pos h, hzero, if_neg Bool.false_ne_true]

/-- What is no finite number is displayed all the same. -/
theorem display_ne_null (h : x.isFinite = false) :
    x.display ≠ "null" := by
  rw [display]
  split_ifs with hnan hinfinite
  · decide
  · decide
  · decide
  all_goals
    rw [isFinite_iff.mpr ⟨Bool.eq_false_iff.mpr hnan, Bool.eq_false_iff.mpr hinfinite⟩] at h
    cases h

theorem toString_signed {n : Nat} (hn : 0 < n) :
    toString (if x.isNegative then -(n : Int) else n) =
      String.ofList (x.sign ++ Nat.toDigits 10 n) := by
  rw [sign]
  split_ifs
  · obtain ⟨k, rfl⟩ := Nat.exists_eq_succ_of_ne_zero hn.ne'
    rw [String.ofList_append]
    rfl
  · rfl

end Forms

end Binary64

namespace Value

section Renderings

variable {x : Binary64}

theorem stringify_number (symbolsAsText : Bool) (x : Binary64) :
    (number x).stringify symbolsAsText = (numberToJson x).compact := by
  rw [stringify, toJson, preciseType_number, if_neg (by simp)]

theorem compact_int (n : Int) :
    (Json.int n).compact = toString n := by
  rw [Json.compact, Json.compactChars, String.ofList_toList]

theorem compact_float (x : Binary64) :
    (Json.float x).compact = x.jsonText := by
  rw [Json.compact, Json.compactChars, String.ofList_toList]

/-- A number that is an integer becomes one where all integers are numbers. -/
theorem numberToJson_of_integer (hfinite : x.isFinite = true) {n : Nat}
    (hn : x.natAbs? = some n) :
    numberToJson x =
      if n ≤ maxSafeInteger then .int (if x.isNegative then -(n : Int) else n) else .float x := by
  have habs : (if x.isNegative then -(n : Int) else n).natAbs = n := by
    split_ifs
    · exact Int.natAbs_neg n
    · rfl
  have hinteger : x.toInt? = some (if x.isNegative then -(n : Int) else n) := by
    rw [Binary64.toInt?, if_pos hfinite, hn]
    rfl
  rw [numberToJson, if_pos hfinite, hinteger]
  dsimp only
  rw [habs]

/-- A safe integer is rendered as its digits both times, and a zero without its sign. -/
theorem stringify_eq_display_of_safe (symbolsAsText : Bool) (hfinite : x.isFinite = true) {n : Nat}
    (hn : x.natAbs? = some n) (hsafe : n ≤ maxSafeInteger) :
    (number x).stringify symbolsAsText = (number x).display := by
  rw [stringify_number, numberToJson_of_integer hfinite hn, if_pos hsafe, compact_int, display]
  cases hzero : x.isZero with
  | true =>
      have hzero' : n = 0 := by
        have hmagnitude := Binary64.natAbs?_eq_some_iff.mp hn
        rw [Binary64.magnitude_of_isZero hzero] at hmagnitude
        exact_mod_cast hmagnitude.symm
      rw [Binary64.display_of_isZero hzero, hzero']
      split_ifs <;> rfl
  | false =>
      have hpos : 0 < n := by
        have hmagnitude := Binary64.natAbs?_eq_some_iff.mp hn
        have hexact := (Binary64.interval_proper hzero).exact_pos
        rw [Binary64.exact_interval, hmagnitude] at hexact
        exact_mod_cast hexact
      rw [Binary64.toString_signed hpos, Binary64.display_of_isFinite hfinite hzero,
        Binary64.displayedAbs_of_lt hzero hn (Nat.lt_succ_of_le hsafe)]

/-- Any other finite number is rendered in JSON form. -/
theorem stringify_of_not_safe (symbolsAsText : Bool) (hfinite : x.isFinite = true)
    (hbeyond : ¬∃ n, x.natAbs? = some n ∧ n ≤ maxSafeInteger) :
    (number x).stringify symbolsAsText = x.jsonText := by
  have hform : numberToJson x = .float x := by
    cases hn : x.natAbs? with
    | none =>
        rw [numberToJson, if_pos hfinite, Binary64.toInt?, if_pos hfinite, hn]
        rfl
    | some n =>
        rw [numberToJson_of_integer hfinite hn, if_neg fun hsafe => hbeyond ⟨n, hn, hsafe⟩]
  rw [stringify_number, hform, compact_float]

theorem stringify_of_not_isFinite (symbolsAsText : Bool) (h : x.isFinite = false) :
    (number x).stringify symbolsAsText = "null" := by
  rw [stringify_number, numberToJson, h]
  rfl

/-- The two renderings of a number are the same for the integers below 2⁵³, and otherwise for the
finite numbers that are nearest to one shortest decimal only, whose shortest decimal does not lie
from 10⁻⁶ up to 10⁻⁵, and that either have a fraction or are displayed with a power of ten. -/
theorem renderings_agree_iff (symbolsAsText : Bool) (x : Binary64) :
    (number x).stringify symbolsAsText = (number x).display ↔
      x.isFinite = true ∧
        ((∃ n, x.natAbs? = some n ∧ n ≤ maxSafeInteger) ∨
          x.shortest .even = x.shortest .up ∧
            (x.shortest .up).point ≠ -5 ∧
            (x.natAbs? = none ∨ 21 < (x.shortest .up).point)) := by
  cases hfinite : x.isFinite with
  | false =>
      rw [stringify_of_not_isFinite symbolsAsText hfinite, display]
      exact iff_of_false (Binary64.display_ne_null hfinite).symm (by simp)
  | true =>
      by_cases hsafe : ∃ n, x.natAbs? = some n ∧ n ≤ maxSafeInteger
      · obtain ⟨n, hn, hle⟩ := hsafe
        exact iff_of_true (stringify_eq_display_of_safe symbolsAsText hfinite hn hle)
          ⟨rfl, .inl ⟨n, hn, hle⟩⟩
      · have hzero : x.isZero = false := by
          rw [Bool.eq_false_iff]
          intro hzero
          refine hsafe ⟨0, Binary64.natAbs?_eq_some_iff.mpr ?_, Nat.zero_le _⟩
          rw [Binary64.magnitude_of_isZero hzero, Nat.cast_zero]
        rw [stringify_of_not_safe symbolsAsText hfinite hsafe, display,
          Binary64.display_of_isFinite hfinite hzero, Binary64.jsonText_of_isFinite hfinite hzero,
          String.ofList_inj, List.append_cancel_left_eq, or_iff_right hsafe,
          Binary64.jsonAbs_eq_displayedAbs_iff hzero]
        exact (and_iff_right rfl).symm

/-- From 2⁵³ on an integer has a fraction in one rendering and none in the other. -/
example :
    (number ⟨0x4340000000000000⟩).stringify false = "9007199254740992.0" ∧
      (number ⟨0x4340000000000000⟩).display = "9007199254740992" := by
  decide +kernel

end Renderings

end Value
end ShapeCheck
