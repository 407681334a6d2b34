import ShapeCheck.Checker.Basic
import ShapeCheck.Log.Logged
import ShapeCheck.Text.Quoted

/-!
# Building checkers

One constructor for each kind of checker.  A choice of values needs an array and a choice of
checkers a list of slots that can be called; given anything else, these two log a warning and build
a checker without any demands.  They are written for every logger.
-/

namespace ShapeCheck
namespace Checker

/-- A checker that is not required. -/
def optional (rule : Rule) : Checker :=
  ⟨rule, false⟩

/-- The deciding type of the value has the given name. -/
def primitive (type : String) : Checker :=
  optional (.primitive type)

def array : Checker :=
  primitive Tag.array.name

def bool : Checker :=
  primitive Tag.boolean.name

def func : Checker :=
  primitive Tag.function.name

def number : Checker :=
  primitive Tag.number.name

def object : Checker :=
  primitive Tag.object.name

def string : Checker :=
  primitive Tag.string.name

def symbol : Checker :=
  primitive Tag.symbol.name

def any : Checker :=
  optional .any

/-- The value is an array whose items pass. -/
def arrayOf (item : Slot) : Checker :=
  optional (.arrayOf item)

/-- The value is an object whose own properties pass. -/
def objectOf (item : Slot) : Checker :=
  optional (.objectOf item)

def instanceOf (cls : Class) : Checker :=
  optional (.instanceOf cls)

/-- The value is an object whose declared fields pass. -/
def shape (fields : List (String × Slot)) : Checker :=
  optional (.shape fields)

/-- The value is an object whose declared fields pass and that has no other properties. -/
def exact (fields : List (String × Slot)) : Checker :=
  optional (.exact fields)

def custom (label : String) (test : Query → Outcome) : Checker :=
  optional (.custom label test)

/-- The first slot that cannot be called, with its index counted from the given number. -/
def firstUncallable? (start : Nat) : List Slot → Option (Nat × Slot)
  | [] => none
  | slot :: rest =>
      if slot.isCallable then firstUncallable? (start + 1) rest else some (start, slot)

section Choices

variable (m : Type → Type) [Monad m] [Logger m]

/-- A checker without demands, built after a warning. -/
def misusedIn (origin : Factory) (event : Event) (message : String) : m Checker := do
  Logger.log .warn event [("message", message)]
  return optional (.inert origin)

/-- The value is one of the items of an array. -/
def oneOfIn (allowed : Value) : m Checker :=
  match allowed.items? with
  | some items => return optional (.oneOf items)
  | none =>
      misusedIn m .oneOf .oneOfInvalidArgument
        "Invalid argument supplied to oneOf, expected an array."

/-- Some slot of a list passes. -/
def oneOfTypeIn (alternatives : Slot) : m Checker :=
  match alternatives with
  | .list slots =>
      match firstUncallable? 0 slots with
      | none => return optional (.oneOfType slots)
      | some (index, slot) =>
          misusedIn m .oneOfType .oneOfTypeInvalidArgument <|
            "Invalid argument supplied to oneOfType. Expected an array of check functions, " ++
              s!"but received {slot.preciseType.withArticle} at index {index}."
  | _ =>
      misusedIn m .oneOfType .oneOfTypeInvalidArgument
        "Invalid argument supplied to oneOfType, expected an instance of array."

end Choices

/-- The value is one of the items of an array; every warning is kept. -/
def oneOf (allowed : Value) : Logged Checker :=
  oneOfIn Logged allowed

/-- Some slot of a list passes; every warning is kept. -/
def oneOfType (alternatives : Slot) : Logged Checker :=
  oneOfTypeIn Logged alternatives

/-- The text for diagnosis. -/
def description (c : Checker) : String :=
  "Checker \x7b label: " ++ Text.quoted c.label ++ ", required: " ++ toString c.required ++
    ", noop: " ++ toString c.isInert ++ " \x7d"

end Checker
end ShapeCheck
