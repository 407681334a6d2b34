import ShapeCheck.Binary64.Basic

/-!
# JSON documents

A document as the library produces it: integers and fractional numbers are kept apart, and the
members of an object stand in a fixed order.
-/

namespace ShapeCheck

/-- A JSON document. -/
inductive Json where
  | null
  | bool (b : Bool)
  | int (n : Int)
  | float (x : Binary64)
  | str (text : String)
  | arr (items : List Json)
  | obj (members : List (String × Json))
deriving Inhabited

end ShapeCheck
