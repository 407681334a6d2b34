import ShapeCheck.Failure.Basic
import ShapeCheck.Value.Basic

/-!
# Calls and queries

A checker is called on one property of a container, with the names that its messages need.  Names
may be missing from a call; the query that reaches a rule has them all.
-/

namespace ShapeCheck

/-- Where a call comes from.  Checkers answer only calls made inside a batch. -/
inductive Caller where
  | batch
  | outside
deriving DecidableEq

/-- A call of a checker. -/
structure Call where
  /-- The container. -/
  props : Value
  /-- The key of the property that is checked. -/
  name : String
  /-- The component whose values are checked. -/
  component : Option String
  /-- What kind of value is checked. -/
  location : String
  /-- The path of the property, where it is not just its key. -/
  fullName : Option String
  caller : Caller

/-- A question to a rule. -/
structure Query where
  props : Value
  name : String
  component : String
  location : String
  fullName : String

namespace Call

/-- The question that a call amounts to: a missing or empty component is anonymous, and a missing
or empty path is the key. -/
def query (call : Call) : Query :=
  { props := call.props
    name := call.name
    component := nameOr anonymousName call.component
    location := call.location
    fullName := nameOr call.name call.fullName }

/-- A call on a property from outside of a batch. -/
def direct (props : Value) (name : String) : Call :=
  { props := props
    name := name
    component := none
    location := "prop"
    fullName := none
    caller := .outside }

end Call

namespace Query

/-- The value in question. -/
def value (q : Query) : Value :=
  q.props.property q.name

/-- The same question to another checker. -/
def forward (q : Query) : Call :=
  { props := q.props
    name := q.name
    component := some q.component
    location := q.location
    fullName := some q.fullName
    caller := .batch }

/-- The question about the property `key` of the value in question, whose path is longer by
`step`. -/
def child (q : Query) (key step : String) : Call :=
  { props := q.value
    name := key
    component := some q.component
    location := q.location
    fullName := some (q.fullName ++ step)
    caller := .batch }

/-- The question about an item of an array. -/
def item (q : Query) (index : Nat) : Call :=
  q.child (toString index) ("[" ++ toString index ++ "]")

/-- The question about a property of an object. -/
def member (q : Query) (key : String) : Call :=
  q.child key ("." ++ key)

end Query
end ShapeCheck
