/-!
# Double-precision numbers

A number is its 64-bit interchange word: a sign, eleven exponent bits and fifty-two fraction bits.
A finite word stands for `± significand · 2 ^ exponent`, and all arithmetic on it is exact
arithmetic on natural numbers and integers.

Main statements: `absBits_lt` bounds the unsigned part, `sameValue_iff` says when two numbers are
told apart.
-/

namespace ShapeCheck

/-- A double-precision number, given by its interchange word. -/
structure Binary64 where
  bits : UInt64
deriving DecidableEq

namespace Binary64

/-- The word with the sign bit alone; unsigned words lie below it. -/
def signBit : Nat :=
  0x8000000000000000

/-- The word with the lowest exponent bit alone; fractions lie below it. -/
def hiddenBit : Nat :=
  0x10000000000000

def isNegative (x : Binary64) : Bool :=
  signBit ≤ x.bits.toNat

/-- The word without its sign bit.  Magnitudes are ordered as these words are. -/
def absBits (x : Binary64) : Nat :=
  x.bits.toNat % signBit

/-- The unsigned word of infinity. -/
def infinityBits : Nat :=
  0x7ff0000000000000

/-- Whether the word stands for no number at all. -/
def isNaN (x : Binary64) : Bool :=
  infinityBits < x.absBits

def isInfinite (x : Binary64) : Bool :=
  x.absBits = infinityBits

def isFinite (x : Binary64) : Bool :=
  x.absBits < infinityBits

def isZero (x : Binary64) : Bool :=
  x.absBits = 0

def exponentField (x : Binary64) : Nat :=
  x.absBits / hiddenBit

def fraction (x : Binary64) : Nat :=
  x.absBits % hiddenBit

/-- The integral significand; a normal number has the hidden bit in front of its fraction. -/
def significand (x : Binary64) : Nat :=
  if x.exponentField = 0 then x.fraction else hiddenBit + x.fraction

/-- The power of two that scales the significand. -/
def exponent (x : Binary64) : Int :=
  if x.exponentField = 0 then -1074 else (x.exponentField : Int) - 1075

/-- The magnitude of a finite number as an integer, when it is one. -/
def natAbs? (x : Binary64) : Option Nat :=
  if 0 ≤ x.exponent then
    some (x.significand * Nat.pow 2 x.exponent.toNat)
  else if x.significand % Nat.pow 2 (-x.exponent).toNat = 0 then
    some (x.significand / Nat.pow 2 (-x.exponent).toNat)
  else
    none

/-- The integer that a number is, when it is finite and integral.  Both zeros are the integer
zero. -/
def toInt? (x : Binary64) : Option Int :=
  if x.isFinite then
    x.natAbs?.map fun n => if x.isNegative then -(n : Int) else (n : Int)
  else
    none

/-- The unsigned word of the number nearest to a natural number, a tie going to the even word. -/
def absBitsOfNat (n : Nat) : Nat :=
  if n = 0 then
    0
  else
    let top := n.log2
    let word :=
      if top ≤ 52 then
        n * Nat.pow 2 (52 - top)
      else
        let unit := Nat.pow 2 (top - 52)
        let kept := n / unit
        let rest := n % unit
        if unit < 2 * rest ∨ (unit = 2 * rest ∧ kept % 2 = 1) then kept + 1 else kept
    min infinityBits ((top + 1022) * hiddenBit + word)

/-- The number nearest to an integer, a tie going to the even word. -/
def ofInt (n : Int) : Binary64 :=
  ⟨UInt64.ofNat ((if n < 0 then signBit else 0) + absBitsOfNat n.natAbs)⟩

def zero : Binary64 :=
  ⟨0⟩

def negZero : Binary64 :=
  ⟨0x8000000000000000⟩

def nan : Binary64 :=
  ⟨0x7ff8000000000000⟩

def infinity : Binary64 :=
  ⟨0x7ff0000000000000⟩

def negInfinity : Binary64 :=
  ⟨0xfff0000000000000⟩

/-- Whether two numbers cannot be told apart: the words without a number are all alike, and the
two zeros differ. -/
def sameValue (x y : Binary64) : Bool :=
  (x.isNaN && y.isNaN) || x.bits == y.bits

theorem absBits_lt (x : Binary64) :
    x.absBits < signBit := by
  exact Nat.mod_lt _ (by decide)

theorem sameValue_iff (x y : Binary64) :
    x.sameValue y = true ↔
      (x.isNaN = true ∧ y.isNaN = true) ∨ x = y := by
  cases x
  cases y
  simp [sameValue]

end Binary64
end ShapeCheck
