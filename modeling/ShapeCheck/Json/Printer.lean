import ShapeCheck.Binary64.Notation
import ShapeCheck.Json.Basic
import ShapeCheck.Text.Hex

/-!
# JSON text

The compact text of a document has no blanks; the indented text puts every item and every member
on a line of its own, two spaces deeper than what holds it, and keeps empty containers on one line.
Both write strings and numbers alike.
-/

namespace ShapeCheck
namespace Json

/-- How one character is written inside a JSON string. -/
def stringChar (c : Char) : List Char :=
  if c = '"' then ['\\', '"']
  else if c = '\\' then ['\\', '\\']
  else if c = '\x08' then ['\\', 'b']
  else if c = '\x0c' then ['\\', 'f']
  else if c = '\n' then ['\\', 'n']
  else if c = '\r' then ['\\', 'r']
  else if c = '\t' then ['\\', 't']
  else if c.toNat < 0x20 then '\\' :: 'u' :: Text.hexQuad c.toNat
  else [c]

/-- A text as a JSON string. -/
def stringText (text : String) : List Char :=
  '"' :: (text.toList.flatMap stringChar ++ ['"'])

/-- The texts one after the other with a comma between neighbours. -/
def separated (texts : List (List Char)) : List Char :=
  List.intercalate [','] texts

mutual

/-- The compact text. -/
def compactChars : Json → List Char
  | null => ['n', 'u', 'l', 'l']
  | bool true => ['t', 'r', 'u', 'e']
  | bool false => ['f', 'a', 'l', 's', 'e']
  | int n => (toString n).toList
  | float x => x.jsonText.toList
  | str text => stringText text
  | arr items => '[' :: (separated (compactItems items) ++ [']'])
  | obj members => '\x7b' :: (separated (compactMembers members) ++ ['\x7d'])

def compactItems : List Json → List (List Char)
  | [] => []
  | item :: rest => item.compactChars :: compactItems rest

def compactMembers : List (String × Json) → List (List Char)
  | [] => []
  | (key, value) :: rest =>
      (stringText key ++ ':' :: value.compactChars) :: compactMembers rest

end

/-- A line break and the indentation of the given depth. -/
def lineAt (depth : Nat) : List Char :=
  '\n' :: List.replicate (2 * depth) ' '

/-- The entries of a container at the given depth between its brackets, each on its own line. -/
def block (opening closing : Char) (depth : Nat) (entries : List (List Char)) : List Char :=
  if entries.isEmpty then
    [opening, closing]
  else
    opening :: (separated (entries.map (lineAt (depth + 1) ++ ·)) ++ lineAt depth ++ [closing])

mutual

/-- The indented text of a document that starts at the given depth. -/
def indentedChars (depth : Nat) : Json → List Char
  | arr items => block '[' ']' depth (indentedItems (depth + 1) items)
  | obj members => block '\x7b' '\x7d' depth (indentedMembers (depth + 1) members)
  | null => compactChars null
  | bool b => compactChars (bool b)
  | int n => compactChars (int n)
  | float x => compactChars (float x)
  | str text => compactChars (str text)

def indentedItems (depth : Nat) : List Json → List (List Char)
  | [] => []
  | item :: rest => item.indentedChars depth :: indentedItems depth rest

def indentedMembers (depth : Nat) : List (String × Json) → List (List Char)
  | [] => []
  | (key, value) :: rest =>
      (stringText key ++ ':' :: ' ' :: value.indentedChars depth) :: indentedMembers depth rest

end

def compact (doc : Json) : String :=
  String.ofList doc.compactChars

def indented (doc : Json) : String :=
  String.ofList (doc.indentedChars 0)

end Json
end ShapeCheck
