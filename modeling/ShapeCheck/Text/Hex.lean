/-!
# Hexadecimal digits

Lower-case hexadecimal writing of code points, shared by all escapes, and the reading of a single
digit in either case.
-/

namespace ShapeCheck
namespace Text

/-- The lower-case digit of a number below sixteen. -/
def hexDigit (n : Nat) : Char :=
  if n < 10 then Char.ofNat (48 + n) else Char.ofNat (87 + n)

/-- The number that a hexadecimal digit of either case stands for. -/
def hexValue? (c : Char) : Option Nat :=
  if '0' ≤ c ∧ c ≤ '9' then some (c.toNat - 48)
  else if 'a' ≤ c ∧ c ≤ 'f' then some (c.toNat - 87)
  else if 'A' ≤ c ∧ c ≤ 'F' then some (c.toNat - 55)
  else none

/-- A number below 16⁴ as four digits. -/
def hexQuad (n : Nat) : List Char :=
  [hexDigit (n / 4096 % 16), hexDigit (n / 256 % 16), hexDigit (n / 16 % 16), hexDigit (n % 16)]

/-- A number with as few digits as it needs. -/
def hexDigits (n : Nat) : List Char :=
  Nat.toDigits 16 n

/-- A digit reads back as its number. -/
theorem hexValue?_hexDigit
    {n : Nat} (h : n < 16) :
    hexValue? (hexDigit n) = some n := by
  have : ∀ m : Fin 16, hexValue? (hexDigit m.val) = some m.val := by decide
  exact this ⟨n, h⟩

end Text
end ShapeCheck
