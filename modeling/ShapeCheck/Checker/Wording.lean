import ShapeCheck.Checker.Basic
import ShapeCheck.Json.Printer
import ShapeCheck.Value.Render

/-!
# The wording of failures

Every failure that the library itself produces, one function for each cause.
-/

namespace ShapeCheck
namespace Wording

/-- A checker is called from outside of a batch. -/
def calledDirectly : Failure :=
  .invariant <|
    "Calling TypeChecker validators directly is not supported by the `type-checker` package. " ++
      "Use `TypeChecker::check_prop_types()` to call them."

/-- There is no container to read the property from. -/
def noContainer (container : Value) (name : String) : Failure :=
  .ofType s!"Cannot read properties of {container.display} (reading \x27{name}\x27)"

/-- A required value is null or undefined. -/
def missing (q : Query) : Failure :=
  .ofType <|
    s!"The {q.location} `{q.fullName}` is marked as required in `{q.component}`, " ++
      s!"but its value is `{q.value.display}`."

/-- A slot is called that cannot be called. -/
def notCallable (path : String) (found : Tag) : Failure :=
  .invariant s!"Type checker slot `{path}` is not a function (found `{found.name}`)."

/-- The value has another type than the named one. -/
def wrongType (q : Query) (expected : String) : Failure :=
  .expecting
    (s!"Invalid {q.location} `{q.fullName}` of type `{q.value.preciseType.name}` supplied to " ++
      s!"`{q.component}`, expected `{expected}`.")
    expected

/-- A container of items was built from something that cannot be called. -/
def invalidNotation (q : Query) (factory : Factory) : Failure :=
  .plain <|
    s!"Property `{q.fullName}` of component `{q.component}` has invalid PropType notation " ++
      s!"inside {factory.name}."

/-- The value is no array. -/
def notAnArray (q : Query) : Failure :=
  .plain <|
    s!"Invalid {q.location} `{q.fullName}` of type `{q.value.propType.name}` supplied to " ++
      s!"`{q.component}`, expected an array."

/-- The value is no object of items. -/
def notAMap (q : Query) : Failure :=
  .plain <|
    s!"Invalid {q.location} `{q.fullName}` of type `{q.value.propType.name}` supplied to " ++
      s!"`{q.component}`, expected an object."

/-- The value is no object with fields. -/
def notAnObject (q : Query) : Failure :=
  .plain <|
    s!"Invalid {q.location} `{q.fullName}` of type `{q.value.propType.name}` supplied to " ++
      s!"`{q.component}`, expected `object`."

/-- The value is no instance of the class. -/
def notAnInstance (q : Query) (cls : Class) : Failure :=
  .plain <|
    s!"Invalid {q.location} `{q.fullName}` of type `{q.value.className}` supplied to " ++
      s!"`{q.component}`, expected instance of `{cls.label}`."

/-- The value is none of the allowed ones. -/
def notAllowed (q : Query) (allowed : List Value) : Failure :=
  .plain <|
    s!"Invalid {q.location} `{q.fullName}` of value `{q.value.display}` supplied to " ++
      s!"`{q.component}`, expected one of " ++
      (Json.arr (Value.toJsonItems true allowed)).compact ++ "."

/-- No alternative passes; the types that some of them would have passed are listed. -/
def noAlternative (q : Query) (expected : List String) : Failure :=
  let listed :=
    if expected.isEmpty then ""
    else ", expected one of type [" ++ String.intercalate ", " expected ++ "]"
  .plain (s!"Invalid {q.location} `{q.fullName}` supplied to `{q.component}`" ++ listed ++ ".")

/-- An alternative answers with neither a pass nor a failure. -/
def alternativeNotAFailure (q : Query) (index : Nat) (returned : String) : Failure :=
  .invariant <|
    s!"Type checker at index {index} of oneOfType for `{q.fullName}` returned a {returned} " ++
      "instead of a failure."

/-- A declared field has no checker. -/
def invalidField (q : Query) (key : String) (found : Tag) : Failure :=
  .plain <|
    s!"{q.component}: {q.location} type `{q.fullName}.{key}` is invalid; it must be a function, " ++
      s!"usually from the `type-checker` package, but received `{found.name}`."

/-- The value has a property that is not declared. -/
def undeclaredKey (q : Query) (key : String) (declared : List String) : Failure :=
  .plain <|
    s!"Invalid {q.location} `{q.fullName}` key `{key}` supplied to `{q.component}`.\n" ++
      s!"Bad object: {q.value.stringifyIndented}\n" ++
      "Valid keys: " ++ (Json.arr (declared.map Json.str)).indented

end Wording
end ShapeCheck
