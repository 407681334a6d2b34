import ShapeCheck.Json.Reader

/-!
# Records and alternatives in JSON

How a written document stands for a record with one field and for one of several named alternatives.
A record is an object, whose other members are ignored, or an array of its fields in order; a field
may be missing.  An alternative is its name, or an object with the name over a null value.
-/

namespace ShapeCheck
namespace Json
namespace Written

/-- The name of an alternative. -/
def alternative? : Written → Option String
  | str text => text
  | obj [(key, null)] => key
  | _ => none

/-- The one field of a record, `some none` when it is missing.  A key without a text, a field given
twice and a surplus item are refused. -/
def soleField? (name : String) : Written → Option (Option Written)
  | obj members =>
      if members.all (·.1.isSome) then
        match members.filter (·.1 = some name) with
        | [] => some none
        | [(_, value)] => some (some value)
        | _ => none
      else
        none
  | arr [] => some none
  | arr [value] => some (some value)
  | _ => none

/-- A value that may be null, read by `f` when it is not. -/
def nullable? {α : Type} (f : Written → Option α) : Written → Option (Option α)
  | null => some none
  | value => (f value).map some

/-- The text of a string. -/
def text? : Written → Option String
  | str text => text
  | _ => none

end Written
end Json
end ShapeCheck
