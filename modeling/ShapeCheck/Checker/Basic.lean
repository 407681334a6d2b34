import ShapeCheck.Checker.Call
import ShapeCheck.Value.Tag

/-!
# Checkers

A checker is a rule together with the mark of being required.  Rules hold the slots in which other
checkers stand, so checkers are trees.  A slot may also hold what is no checker: a constructor of
checkers without its argument, a list, or a plain value.  Only checkers and constructors can be
called.

Main statement: `typeOf_eq_function_of_isCallable`.
-/

namespace ShapeCheck

/-- A constructor of checkers without its argument. -/
inductive Factory where
  | arrayOf
  | instanceOf
  | objectOf
  | oneOf
  | oneOfType
  | shape
  | exact
deriving DecidableEq

def Factory.name : Factory → String
  | arrayOf => "arrayOf"
  | instanceOf => "instanceOf"
  | objectOf => "objectOf"
  | oneOf => "oneOf"
  | oneOfType => "oneOfType"
  | shape => "shape"
  | exact => "exact"

mutual

/-- What stands where a checker is expected. -/
inductive Slot where
  | checker (rule : Rule) (required : Bool)
  | factory (factory : Factory)
  | list (items : List Slot)
  | value (value : Value)

/-- What a checker asks of a value. -/
inductive Rule where
  /-- Nothing at all: the remains of a constructor that was given a wrong argument. -/
  | inert (origin : Factory)
  /-- The type that decides has the given name. -/
  | primitive (type : String)
  | any
  | arrayOf (item : Slot)
  | objectOf (item : Slot)
  | instanceOf (cls : Class)
  | oneOf (allowed : List Value)
  | oneOfType (alternatives : List Slot)
  /-- An object whose declared fields pass; other properties may be there. -/
  | shape (fields : List (String × Slot))
  /-- An object whose declared fields pass and that has no other properties. -/
  | exact (fields : List (String × Slot))
  /-- A rule of the user's. -/
  | custom (label : String) (test : Query → Outcome)

end

/-- A rule, and whether null and undefined are refused. -/
structure Checker where
  rule : Rule
  required : Bool

namespace Rule

/-- Whether the rule asks nothing at all. -/
def isInert : Rule → Bool
  | inert _ => true
  | _ => false

def label : Rule → String
  | inert origin => origin.name
  | primitive type => type
  | any => "any"
  | arrayOf _ => "arrayOf"
  | objectOf _ => "objectOf"
  | instanceOf _ => "instanceOf"
  | oneOf _ => "oneOf"
  | oneOfType _ => "oneOfType"
  | shape _ => "shape"
  | exact _ => "exact"
  | custom label _ => label

end Rule

namespace Slot

/-- Whether the slot can be called. -/
def isCallable : Slot → Bool
  | checker _ _ | factory _ => true
  | list _ | value _ => false

def checker? : Slot → Option Checker
  | checker rule required => some ⟨rule, required⟩
  | _ => none

def factory? : Slot → Option Factory
  | factory f => some f
  | _ => none

/-- The raw type of what stands in a slot. -/
def typeOf : Slot → Tag
  | checker _ _ | factory _ => .function
  | list _ => .object
  | value v => v.typeOf

/-- The precise type of what stands in a slot. -/
def preciseType : Slot → Tag
  | checker _ _ | factory _ => .function
  | list _ => .array
  | value v => v.preciseType

/-- What can be called is a function. -/
theorem typeOf_eq_function_of_isCallable
    {s : Slot} (h : s.isCallable = true) :
    s.typeOf = .function ∧ s.preciseType = .function := by
  cases s <;> simp_all [isCallable, typeOf, preciseType]

end Slot

namespace Checker

/-- The slot that holds a checker. -/
def slot (c : Checker) : Slot :=
  .checker c.rule c.required

/-- The checker that refuses null and undefined. -/
def isRequired (c : Checker) : Checker :=
  { c with required := true }

def label (c : Checker) : String :=
  c.rule.label

/-- Whether a checker accepts everything because it was built from a wrong argument. -/
def isInert (c : Checker) : Bool :=
  c.rule.isInert

end Checker
end ShapeCheck
