import ShapeCheck.Binary64.Basic

/-!
# Shortest decimals

The shortest decimal of a number has the fewest digits among the decimals that round to it, and
among those it is the one nearest to the number.  For one digit, two digits and so on up to
seventeen, the two neighbours of the number on that decimal grid are tried against the interval of
reals that round to the number; the first grid with a neighbour inside gives the digits.
Everything is exact arithmetic on natural numbers.
-/

namespace ShapeCheck

/-- The decimal `significand · 10 ^ exponent`. -/
structure Decimal where
  significand : Nat
  exponent : Int
deriving DecidableEq

namespace Decimal

/-- The same decimal without trailing zeros in its significand. -/
def reduce (d : Decimal) : Decimal :=
  if d.significand ≠ 0 ∧ d.significand % 10 = 0 then
    reduce ⟨d.significand / 10, d.exponent + 1⟩
  else
    d
termination_by d.significand
decreasing_by omega

def digits (d : Decimal) : List Char :=
  Nat.toDigits 10 d.significand

/-- Where the decimal point stands, counted from the front of the digits. -/
def point (d : Decimal) : Int :=
  (d.digits.length : Int) + d.exponent

end Decimal

/-- Which of two equally near decimals is taken. -/
inductive Tie where
  /-- The larger one. -/
  | up
  /-- The one with the even significand. -/
  | even
deriving DecidableEq

/-- A positive rational and the interval of reals around it that round to the same number, all
over one denominator. -/
structure RoundingInterval where
  low : Nat
  value : Nat
  high : Nat
  denominator : Nat
  /-- Whether the ends belong to the interval. -/
  closed : Bool

namespace RoundingInterval

/-- The interval measured in units of `10 ^ e`. -/
def inUnits (r : RoundingInterval) (e : Int) : RoundingInterval :=
  { low := r.low * Nat.pow 10 (-e).toNat
    value := r.value * Nat.pow 10 (-e).toNat
    high := r.high * Nat.pow 10 (-e).toNat
    denominator := r.denominator * Nat.pow 10 e.toNat
    closed := r.closed }

/-- Whether a whole number of units lies in the interval. -/
def holds (r : RoundingInterval) (c : Nat) : Bool :=
  if r.closed then
    r.low ≤ c * r.denominator && c * r.denominator ≤ r.high
  else
    r.low < c * r.denominator && c * r.denominator < r.high

/-- Of the whole number `c` of units and the next one, the one that is nearer to the value. -/
def nearer (tie : Tie) (r : RoundingInterval) (c : Nat) : Nat :=
  if 2 * r.value < (2 * c + 1) * r.denominator then c
  else if (2 * c + 1) * r.denominator < 2 * r.value then c + 1
  else
    match tie with
    | .up => c + 1
    | .even => if c % 2 = 0 then c else c + 1

/-- The nearest whole number of units that lies in the interval, when one of the two neighbours
of the value does. -/
def nearest? (tie : Tie) (r : RoundingInterval) : Option Nat :=
  let c := r.value / r.denominator
  match r.holds c, r.holds (c + 1) with
  | true, true => some (r.nearer tie c)
  | true, false => some c
  | false, true => some (c + 1)
  | false, false => none

/-- The number `k` with `10 ^ (k - 1) ≤ value < 10 ^ k`. -/
def decade (r : RoundingInterval) : Int :=
  if r.denominator ≤ r.value then
    ((Nat.toDigits 10 (r.value / r.denominator)).length : Int)
  else
    1 - ((Nat.toDigits 10 ((r.denominator - 1) / r.value)).length : Int)

/-- The nearest decimal of `n` digits in the interval, when there is one. -/
def decimal? (tie : Tie) (r : RoundingInterval) (n : Nat) : Option Decimal :=
  let e := r.decade - n
  ((r.inUnits e).nearest? tie).map fun c => ⟨c, e⟩

/-- The nearest of the shortest decimals in the interval.  Seventeen digits always suffice for a
double-precision number. -/
def shortest (tie : Tie) (r : RoundingInterval) : Decimal :=
  match (List.range' 1 17).findSome? (r.decimal? tie) with
  | some d => d.reduce
  | none => ⟨r.value / r.denominator, 0⟩

end RoundingInterval

namespace Binary64

/-- The reals that round to the magnitude of a finite nonzero number, in quarters of its last
place: half a place on either side, but only a quarter below a power of two.  The ends round to
the number exactly when its significand is even. -/
def interval (x : Binary64) : RoundingInterval :=
  let scale := Nat.pow 2 (x.exponent - 2).toNat
  let below := if x.fraction = 0 ∧ 1 < x.exponentField then 1 else 2
  { low := (4 * x.significand - below) * scale
    value := 4 * x.significand * scale
    high := (4 * x.significand + 2) * scale
    denominator := Nat.pow 2 (2 - x.exponent).toNat
    closed := x.significand % 2 = 0 }

/-- The shortest decimal of the magnitude of a finite nonzero number. -/
def shortest (tie : Tie) (x : Binary64) : Decimal :=
  x.interval.shortest tie

end Binary64
end ShapeCheck
