import ShapeCheck.Json.Token

/-!
# Reading JSON

A document as it is written: numerals by their digits, strings that may lack a text, and objects
with all their members, repeated keys included.  The tokens are read by a machine with a stack of
the containers that are still open, so nesting is not limited.
-/

namespace ShapeCheck
namespace Json

/-- A document as it is written. -/
inductive Written where
  | null
  | bool (b : Bool)
  | num (numeral : Numeral)
  | str (text : Option String)
  | arr (items : List Written)
  | obj (members : List (Option String × Written))
deriving Inhabited

/-- A container that is still open; what it holds so far stands in reverse. -/
inductive Frame where
  | items (reversed : List Written)
  | members (reversed : List (Option String × Written))
  /-- An object whose next member has its key but not yet its value. -/
  | member (reversed : List (Option String × Written)) (key : Option String)

/-- What may come next. -/
inductive Due where
  | value
  /-- The first item of an array, or its end. -/
  | firstItem
  /-- The first key of an object, or its end. -/
  | firstKey
  | key
  | colon
  /-- A comma, or the end of the container. -/
  | separator
  /-- Nothing: the document is complete. -/
  | nothing (doc : Written)

/-- The containers that are open, the innermost first, and what may come next. -/
structure Reading where
  frames : List Frame
  due : Due

namespace Reading

/-- Puts a complete value where it belongs. -/
def complete? : List Frame → Written → Option Reading
  | [], doc => some ⟨[], .nothing doc⟩
  | .items reversed :: rest, value => some ⟨.items (value :: reversed) :: rest, .separator⟩
  | .member reversed key :: rest, value =>
      some ⟨.members ((key, value) :: reversed) :: rest, .separator⟩
  | .members _ :: _, _ => none

/-- Begins a value. -/
def value? (frames : List Frame) : Token → Option Reading
  | .null => complete? frames .null
  | .bool b => complete? frames (.bool b)
  | .num n => complete? frames (.num n)
  | .str text => complete? frames (.str text)
  | .openArray => some ⟨.items [] :: frames, .firstItem⟩
  | .openObject => some ⟨.members [] :: frames, .firstKey⟩
  | .closeArray | .closeObject | .comma | .colon => none

/-- Ends the innermost container. -/
def close? : List Frame → Token → Option Reading
  | .items reversed :: rest, .closeArray => complete? rest (.arr reversed.reverse)
  | .members reversed :: rest, .closeObject => complete? rest (.obj reversed.reverse)
  | _, _ => none

/-- Takes the key of the next member. -/
def key? : List Frame → Token → Option Reading
  | .members reversed :: rest, .str key => some ⟨.member reversed key :: rest, .colon⟩
  | _, _ => none

/-- Goes on after a comma. -/
def comma? : List Frame → Option Reading
  | .items reversed :: rest => some ⟨.items reversed :: rest, .value⟩
  | .members reversed :: rest => some ⟨.members reversed :: rest, .key⟩
  | _ => none

/-- Reads one token. -/
def step? (r : Reading) (token : Token) : Option Reading :=
  match r.due with
  | .value => value? r.frames token
  | .firstItem => if token = .closeArray then close? r.frames token else value? r.frames token
  | .firstKey => if token = .closeObject then close? r.frames token else key? r.frames token
  | .key => key? r.frames token
  | .colon => if token = .colon then some ⟨r.frames, .value⟩ else none
  | .separator => if token = .comma then comma? r.frames else close? r.frames token
  | .nothing _ => none

/-- The document, once it is complete. -/
def document? (r : Reading) : Option Written :=
  match r.due with
  | .nothing doc => some doc
  | _ => none

end Reading

/-- Reads a text that is one document with blanks around its tokens. -/
def read (text : String) : Option Written := do
  let tokens ← tokens? text.toList
  let reading ← tokens.foldlM Reading.step? ⟨[], .value⟩
  reading.document?

end Json
end ShapeCheck
