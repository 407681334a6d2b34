import ShapeCheck.Text.Hex

/-!
# JSON tokens

A JSON text is a sequence of tokens with blanks between them.  One machine reads it character by
character; what it has read of an unfinished token is its state.

Numerals are kept as their digits.  A string escaped with half of a surrogate pair is a token of the
grammar but has no text, so it is kept as `none`.
-/

namespace ShapeCheck
namespace Json

/-- A numeral by its parts; an absent fraction or power of ten has no digits. -/
structure Numeral where
  negative : Bool
  whole : List Char
  fraction : List Char
  powerNegative : Bool
  power : List Char
deriving DecidableEq

/-- Whether the numeral has neither a fraction nor a power of ten. -/
def Numeral.isInteger (n : Numeral) : Bool :=
  n.fraction.isEmpty && n.power.isEmpty

inductive Token where
  | openArray
  | closeArray
  | openObject
  | closeObject
  | comma
  | colon
  | null
  | bool (b : Bool)
  | num (numeral : Numeral)
  | str (text : Option String)
deriving DecidableEq

/-- What has been read of a string: its characters in reverse, a leading surrogate that waits for
its other half, and whether every surrogate so far was one half of a pair. -/
structure PartialString where
  reversed : List Char
  leading : Option Nat
  paired : Bool
deriving DecidableEq

namespace PartialString

/-- The string before its first character. -/
def start : PartialString :=
  { reversed := [], leading := none, paired := true }

/-- The string with a further character. -/
def push (s : PartialString) (c : Char) : PartialString :=
  { reversed := c :: s.reversed, leading := none, paired := s.paired && s.leading.isNone }

/-- The string with a further sixteen-bit unit given by an escape. -/
def pushUnit (s : PartialString) (unit : Nat) : PartialString :=
  if 0xd800 ≤ unit ∧ unit < 0xdc00 then
    { s with leading := some unit, paired := s.paired && s.leading.isNone }
  else if 0xdc00 ≤ unit ∧ unit < 0xe000 then
    match s.leading with
    | some leading =>
        { s with
          reversed :=
            Char.ofNat (0x10000 + (leading - 0xd800) * 0x400 + (unit - 0xdc00)) :: s.reversed
          leading := none }
    | none => { s with paired := false }
  else
    s.push (Char.ofNat unit)

/-- The finished string, when it has a text. -/
def text? (s : PartialString) : Option String :=
  if s.paired && s.leading.isNone then some (String.ofList s.reversed.reverse) else none

end PartialString

/-- How far an unfinished numeral has been read. -/
inductive NumeralPart where
  /-- After the minus sign; a digit is due. -/
  | sign
  /-- After a leading zero. -/
  | zero
  | whole
  /-- After the decimal point; a digit is due. -/
  | point
  | fraction
  /-- After the letter of the power of ten; a sign or a digit is due. -/
  | mark
  /-- After the sign of the power of ten; a digit is due. -/
  | powerSign
  | power
deriving DecidableEq

/-- Whether a numeral may end here. -/
def NumeralPart.isComplete : NumeralPart → Bool
  | .zero | .whole | .fraction | .power => true
  | .sign | .point | .mark | .powerSign => false

/-- What has been read of the token at hand. -/
inductive Unfinished where
  /-- No token has been begun. -/
  | nothing
  /-- A word: the next character due, those after it, and the token that it stands for. -/
  | word (next : Char) (due : List Char) (token : Token)
  | numeral (part : NumeralPart) (read : Numeral)
  | string (read : PartialString)
  /-- A string, after a backslash. -/
  | escape (read : PartialString)
  /-- A string, inside a four-digit escape: the digits still due and the value of those read. -/
  | unit (read : PartialString) (due : Nat) (value : Nat)
deriving DecidableEq

/-- A numeral, one character further, when the character belongs to it. -/
def stepNumeral? (part : NumeralPart) (n : Numeral) (c : Char) : Option (NumeralPart × Numeral) :=
  if c.isDigit then
    match part with
    | .sign =>
        some (if c = '0' then .zero else .whole, { n with whole := [c] })
    | .zero => none
    | .whole => some (.whole, { n with whole := n.whole ++ [c] })
    | .point | .fraction => some (.fraction, { n with fraction := n.fraction ++ [c] })
    | .mark | .powerSign | .power => some (.power, { n with power := n.power ++ [c] })
  else
    match part, c with
    | .zero, '.' | .whole, '.' => some (.point, n)
    | .zero, 'e' | .zero, 'E' | .whole, 'e' | .whole, 'E' | .fraction, 'e' | .fraction, 'E' =>
        some (.mark, n)
    | .mark, '+' => some (.powerSign, n)
    | .mark, '-' => some (.powerSign, { n with powerNegative := true })
    | _, _ => none

/-- The character that a one-letter escape stands for. -/
def shortEscape? : Char → Option Char
  | '"' => some '"'
  | '\\' => some '\\'
  | '/' => some '/'
  | 'b' => some '\x08'
  | 'f' => some '\x0c'
  | 'n' => some '\n'
  | 'r' => some '\r'
  | 't' => some '\t'
  | _ => none

/-- The blanks of a JSON text. -/
def isGap (c : Char) : Bool :=
  c = ' ' || c = '\n' || c = '\r' || c = '\t'

/-- The numeral that a first character begins. -/
def firstNumeral? (c : Char) : Option (NumeralPart × Numeral) :=
  let n : Numeral :=
    { negative := false, whole := [], fraction := [], powerNegative := false, power := [] }
  if c = '-' then some (.sign, { n with negative := true }) else stepNumeral? .sign n c

/-- Begins a token: the tokens that are finished by its first character, and what is left open. -/
def begin? (c : Char) : Option (List Token × Unfinished) :=
  if isGap c then some ([], .nothing)
  else
    match c with
    | '[' => some ([.openArray], .nothing)
    | ']' => some ([.closeArray], .nothing)
    | '\x7b' => some ([.openObject], .nothing)
    | '\x7d' => some ([.closeObject], .nothing)
    | ',' => some ([.comma], .nothing)
    | ':' => some ([.colon], .nothing)
    | '"' => some ([], .string .start)
    | 'n' => some ([], .word 'u' ['l', 'l'] .null)
    | 't' => some ([], .word 'r' ['u', 'e'] (.bool true))
    | 'f' => some ([], .word 'a' ['l', 's', 'e'] (.bool false))
    | c => (firstNumeral? c).map fun (part, n) => ([], .numeral part n)

/-- Reads one character: the tokens that it finishes, and what it leaves open. -/
def read? : Unfinished → Char → Option (List Token × Unfinished)
  | .nothing, c => begin? c
  | .word next due token, c =>
      if c = next then
        match due with
        | [] => some ([token], .nothing)
        | next' :: due' => some ([], .word next' due' token)
      else
        none
  | .numeral part n, c =>
      match stepNumeral? part n c with
      | some (part', n') => some ([], .numeral part' n')
      | none =>
          if part.isComplete && !c.isDigit then
            (begin? c).map fun (tokens, open') => (.num n :: tokens, open')
          else
            none
  | .string s, c =>
      if c = '"' then some ([.str s.text?], .nothing)
      else if c = '\\' then some ([], .escape s)
      else if c.toNat < 0x20 then none
      else some ([], .string (s.push c))
  | .escape s, c =>
      if c = 'u' then some ([], .unit s 4 0)
      else (shortEscape? c).map fun d => ([], .string (s.push d))
  | .unit s due value, c =>
      (Text.hexValue? c).map fun digit =>
        let value' := value * 16 + digit
        if due ≤ 1 then ([], .string (s.pushUnit value')) else ([], .unit s (due - 1) value')

/-- The token that the end of the text finishes. -/
def finish? : Unfinished → Option (List Token)
  | .nothing => some []
  | .numeral part n => if part.isComplete then some [.num n] else none
  | .word _ _ _ | .string _ | .escape _ | .unit _ _ _ => none

/-- The machine one character further; the tokens read so far stand in reverse. -/
def scanStep (state : List Token × Unfinished) (c : Char) : Option (List Token × Unfinished) :=
  (read? state.2 c).map fun (tokens, open') => (tokens.reverse ++ state.1, open')

/-- The tokens of a text, when it is a sequence of tokens. -/
def tokens? (text : List Char) : Option (List Token) := do
  let (reversed, open') ← text.foldlM scanStep ([], .nothing)
  let last ← finish? open'
  return reversed.reverse ++ last

end Json
end ShapeCheck
