import ShapeCheck.Binary64.Shortest

/-!
# Number text

The two ways in which numbers are written: the display form, which knows every number, and the
form of a fractional number in a JSON text.  Both write the shortest decimal, either with a decimal
point among the digits or with a power of ten behind them.
-/

namespace ShapeCheck
namespace Decimal

/-- The digits with a decimal point after the first `point` of them, filled up with zeros on
either side as needed. -/
def positional (digits : List Char) (point : Int) : List Char :=
  if point ≤ 0 then
    '0' :: '.' :: (List.replicate (-point).toNat '0' ++ digits)
  else if digits.length ≤ point.toNat then
    digits ++ List.replicate (point.toNat - digits.length) '0'
  else
    digits.take point.toNat ++ '.' :: digits.drop point.toNat

/-- The power of ten of a scientific form, its sign always written. -/
def powerOfTen (power : Int) : List Char :=
  'e' :: (if power < 0 then '-' else '+') :: Nat.toDigits 10 power.natAbs

/-- One digit before the decimal point, and the power of ten that makes up for it. -/
def scientific (digits : List Char) (point : Int) : List Char :=
  match digits with
  | [] => powerOfTen (point - 1)
  | [first] => first :: powerOfTen (point - 1)
  | first :: rest => first :: '.' :: (rest ++ powerOfTen (point - 1))

end Decimal

namespace Binary64

/-- The minus sign in front of a negative number. -/
def sign (x : Binary64) : List Char :=
  if x.isNegative then ['-'] else []

/-- The unsigned word of the number nearest to one millionth. -/
def millionthBits : Nat :=
  0x3eb0c6f7a0b5ed8d

/-- The unsigned word of 10²¹. -/
def sextillionBits : Nat :=
  0x444b1ae4d6e2ef50

/-- Whether the magnitude is at least a millionth and less than 10²¹, so that it is displayed
without a power of ten. -/
def isDisplayedPlain (x : Binary64) : Bool :=
  millionthBits ≤ x.absBits && x.absBits < sextillionBits

/-- The display form of the magnitude of a finite nonzero number. -/
def displayedAbs (x : Binary64) : List Char :=
  let d := x.shortest .up
  if x.isDisplayedPlain then
    Decimal.positional d.digits d.point
  else
    Decimal.scientific d.digits d.point

/-- The display form: zeros lose their sign, and a power of ten is written only for magnitudes
below a millionth or from 10²¹ on. -/
def display (x : Binary64) : String :=
  if x.isNaN then
    "NaN"
  else if x.isInfinite then
    if x.isNegative then "-Infinity" else "Infinity"
  else if x.isZero then
    "0"
  else
    String.ofList (x.sign ++ x.displayedAbs)

/-- The JSON form of the magnitude of a finite nonzero number: without a power of ten when the
leading digit stands for a power from -5 to 15, and then always with a fraction. -/
def jsonAbs (x : Binary64) : List Char :=
  let d := x.shortest .even
  if -5 < d.point ∧ d.point ≤ 16 then
    if (d.digits.length : Int) ≤ d.point then
      Decimal.positional d.digits d.point ++ ['.', '0']
    else
      Decimal.positional d.digits d.point
  else
    Decimal.scientific d.digits d.point

/-- The JSON form of a finite number; any other has the text of the null value. -/
def jsonText (x : Binary64) : String :=
  if x.isFinite then
    String.ofList (x.sign ++ if x.isZero then ['0', '.', '0'] else x.jsonAbs)
  else
    "null"

end Binary64
end ShapeCheck
