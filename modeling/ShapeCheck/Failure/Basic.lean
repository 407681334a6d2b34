/-!
# Failures and outcomes

A failure says what is wrong with a value.  A checker answers with a pass, with a failure, or with a
fault when the checker itself is broken: it may raise a failure instead of returning it, return
something that is neither a pass nor a failure, or panic.

Main statement: `name_injective`: the kinds of failures are told apart by their names.
-/

namespace ShapeCheck

/-- What kind of failure it is. -/
inductive FailureKind where
  | error
  | typeError
  | invariantViolation
deriving DecidableEq

def FailureKind.name : FailureKind → String
  | error => "Error"
  | typeError => "TypeError"
  | invariantViolation => "Invariant Violation"

/-- The key by which a kind is stored. -/
def FailureKind.key : FailureKind → String
  | error => "Error"
  | typeError => "TypeError"
  | invariantViolation => "InvariantViolation"

/-- What a failure carries beside its message. -/
structure FailureDetails where
  /-- The type that would have passed. -/
  expectedType : Option String
deriving DecidableEq

/-- What is wrong with a value. -/
structure Failure where
  kind : FailureKind
  message : String
  details : FailureDetails
deriving DecidableEq

namespace Failure

def plain (message : String) : Failure :=
  ⟨.error, message, ⟨none⟩⟩

/-- A plain failure that names the type that would have passed. -/
def expecting (message expectedType : String) : Failure :=
  ⟨.error, message, ⟨some expectedType⟩⟩

/-- A failure about the type of a value. -/
def ofType (message : String) : Failure :=
  ⟨.typeError, message, ⟨none⟩⟩

/-- A failure about a rule of use that has been broken. -/
def invariant (message : String) : Failure :=
  ⟨.invariantViolation, message, ⟨none⟩⟩

end Failure

/-- What a broken checker does instead of answering. -/
inductive Fault where
  | raised (failure : Failure)
  /-- It returns something of the given type that is neither a pass nor a failure. -/
  | notAFailure (returned : String)
deriving DecidableEq

/-- The text of a fault. -/
def Fault.text : Fault → String
  | raised failure => failure.message
  | notAFailure returned => s!"type checker returned a {returned} instead of a failure"

/-- The answer of a checker. -/
inductive Outcome where
  | pass
  | fail (failure : Failure)
  | fault (fault : Fault)
  /-- The checker panicked, perhaps with a text. -/
  | panicked (text : Option String)
deriving DecidableEq

/-- The kinds of failures are told apart by their names. -/
theorem FailureKind.name_injective {j k : FailureKind} (h : j.name = k.name) :
    j = k := by
  cases j <;> cases k <;> first | rfl | exact absurd h (by decide)

end ShapeCheck
