import ShapeCheck.Text.Hex
import ShapeCheck.Text.Printable

/-!
# Quoted literals

A quoted literal shows a text between double quotes so that every character can be told from what
is printed: quotes, backslashes and the common controls have short escapes, and any other character
that does not show as itself is written by its code point in braces.
-/

namespace ShapeCheck
namespace Text

/-- The escape of a character that is written by its code point. -/
def codePointEscape (c : Char) : List Char :=
  '\\' :: 'u' :: '\x7b' :: (hexDigits c.toNat ++ ['\x7d'])

/-- How one character is written inside a quoted literal. -/
def quotedChar (c : Char) : List Char :=
  if c = '\x00' then ['\\', '0']
  else if c = '\t' then ['\\', 't']
  else if c = '\r' then ['\\', 'r']
  else if c = '\n' then ['\\', 'n']
  else if c = '"' then ['\\', '"']
  else if c = '\\' then ['\\', '\\']
  else if showsAsItself c then [c]
  else codePointEscape c

/-- A text as a quoted literal. -/
def quoted (text : String) : String :=
  String.ofList ('"' :: (text.toList.flatMap quotedChar ++ ['"']))

end Text
end ShapeCheck
