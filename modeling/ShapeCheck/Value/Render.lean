import ShapeCheck.Json.Printer
import ShapeCheck.Value.Tag

/-!
# Values in messages

Two renderings of a value: its string conversion, and its JSON text, which lists the allowed values
of a choice and shows an offending object.
-/

namespace ShapeCheck
namespace Value

mutual

/-- The string conversion. -/
def display : Value → String
  | undefined => "undefined"
  | null => "null"
  | bool b => if b then "true" else "false"
  | number x => x.display
  | bigint n => toString n
  | string text => text
  | symbol _ description => "Symbol(" ++ description.getD "" ++ ")"
  | array _ items => String.intercalate "," (displayItems items)
  | object _ _ _ => "[object Object]"
  | function _ name => "function " ++ name.getD "" ++ "() \x7b\x7d"
  | date _ instant => instant.display
  | regexp _ source => "/" ++ source ++ "/"

/-- The string conversions of the items of an array; null and undefined leave no text. -/
def displayItems : List Value → List String
  | [] => []
  | item :: rest => (if item.isNullish then "" else item.display) :: displayItems rest

end

/-- The largest integer up to which doubles hold every integer. -/
def maxSafeInteger : Nat :=
  9007199254740991

/-- The JSON form of a number: an integer where doubles hold every integer, a fractional number
elsewhere, and null for what is no finite number. -/
def numberToJson (x : Binary64) : Json :=
  if x.isFinite then
    match x.toInt? with
    | some n => if n.natAbs ≤ maxSafeInteger then .int n else .float x
    | none => .float x
  else
    .null

/-- The JSON form of a big integer: an integer when it has at most 64 bits, its digits as a string
otherwise. -/
def bigintToJson (n : Int) : Json :=
  if -0x8000000000000000 ≤ n ∧ n < 0x8000000000000000 then .int n else .str (toString n)

mutual

/-- The JSON form, if there is one: undefined, functions and symbols have none.  With
`symbolsAsText`, whatever counts as a symbol stands as its string conversion, at every depth. -/
def toJson (symbolsAsText : Bool) (v : Value) : Option Json :=
  if symbolsAsText && v.preciseType = .symbol then
    some (.str v.display)
  else
    match v with
    | undefined | function _ _ | symbol _ _ => none
    | null => some .null
    | bool b => some (.bool b)
    | number x => some (numberToJson x)
    | bigint n => some (bigintToJson n)
    | string text => some (.str text)
    | array _ items => some (.arr (toJsonItems symbolsAsText items))
    | object _ _ entries => some (.obj (toJsonMembers symbolsAsText entries))
    | date _ instant => some (.str instant.timestamp)
    | regexp _ _ => some (.obj [])

/-- The JSON forms of the items of an array; one without a form is null. -/
def toJsonItems (symbolsAsText : Bool) : List Value → List Json
  | [] => []
  | item :: rest =>
      (toJson symbolsAsText item).getD .null :: toJsonItems symbolsAsText rest

/-- The JSON forms of the properties of an object; one without a form is left out. -/
def toJsonMembers (symbolsAsText : Bool) : List (String × Value) → List (String × Json)
  | [] => []
  | (key, item) :: rest =>
      match toJson symbolsAsText item with
      | some form => (key, form) :: toJsonMembers symbolsAsText rest
      | none => toJsonMembers symbolsAsText rest

end

/-- The compact JSON text; a value without a JSON form reads `undefined`. -/
def stringify (symbolsAsText : Bool) (v : Value) : String :=
  match v.toJson symbolsAsText with
  | some form => form.compact
  | none => "undefined"

/-- The indented JSON text; a value without a JSON form reads `undefined`. -/
def stringifyIndented (v : Value) : String :=
  match v.toJson false with
  | some form => form.indented
  | none => "undefined"

end Value
end ShapeCheck
