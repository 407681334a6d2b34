import ShapeCheck.Json.Basic
import ShapeCheck.Value.Basic

/-!
# Building values

Every symbol, array, object, function, date and regular expression is built with an identity that
no value built before it has, and every declared class with a number of its own.  The builders run
with a counter that holds the next unused identity.
-/

namespace ShapeCheck

/-- A builder: it takes the next unused identity and leaves the one after those that it used. -/
abbrev Fresh := StateM Nat

namespace Fresh

/-- An identity that has not been given out before. -/
def identity : Fresh Identity :=
  fun next => (next, next + 1)

def symbol (description : Option String) : Fresh Value :=
  return .symbol (← identity) description

def array (items : List Value) : Fresh Value :=
  return .array (← identity) items

/-- A new object of a class, or a plain one, that results from writing the given properties. -/
def object (cls : Option Class) (entries : List (String × Value)) : Fresh Value :=
  return .object (← identity) cls (Keyed.ofList entries)

def function (name : Option String) : Fresh Value :=
  return .function (← identity) name

def date (instant : Instant) : Fresh Value :=
  return .date (← identity) instant

def regexp (source : String) : Fresh Value :=
  return .regexp (← identity) source

def rootClass (name : Option String) : Fresh Class :=
  return .base (.declared (← identity)) name

/-- A new named class that extends `parent`. -/
def subclass (name : String) (parent : Class) : Fresh Class :=
  return .extend (.declared (← identity)) name parent

mutual

/-- The value that a document stands for. -/
def ofJson : Json → Fresh Value
  | .null => return .null
  | .bool b => return .bool b
  | .int n => return .number (.ofInt n)
  | .float x => return .number x
  | .str text => return .string text
  | .arr items => do
      array (← ofJsonItems items)
  | .obj members => do
      object none (← ofJsonMembers members)

/-- The values that the items stand for, from left to right. -/
def ofJsonItems : List Json → Fresh (List Value)
  | [] => return []
  | item :: rest => do
      let value ← ofJson item
      return value :: (← ofJsonItems rest)

/-- The properties that the members stand for, from left to right. -/
def ofJsonMembers : List (String × Json) → Fresh (List (String × Value))
  | [] => return []
  | (key, item) :: rest => do
      let value ← ofJson item
      return (key, value) :: (← ofJsonMembers rest)

end

end Fresh
end ShapeCheck
