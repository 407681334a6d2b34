import ShapeCheck.Failure.Basic
import ShapeCheck.Json.Basic
import ShapeCheck.Json.Record

/-!
# Stored failures

The JSON forms of failure kinds and failure details, and how they are read back.

Main statement: `ofKey?_key`: a stored kind reads back.
-/

namespace ShapeCheck

namespace FailureKind

/-- The kind with the given key. -/
def ofKey? : String → Option FailureKind
  | "Error" => some error
  | "TypeError" => some typeError
  | "InvariantViolation" => some invariantViolation
  | _ => none

/-- The kind that a document stands for. -/
def ofWritten? (doc : Json.Written) : Option FailureKind :=
  doc.alternative?.bind ofKey?

/-- The JSON form. -/
def toJson (kind : FailureKind) : Json :=
  .str kind.key

@[simp] theorem ofKey?_key (kind : FailureKind) :
    ofKey? kind.key = some kind := by
  cases kind <;> rfl

end FailureKind

namespace FailureDetails

/-- The details that a document stands for. -/
def ofWritten? (doc : Json.Written) : Option FailureDetails := do
  match ← doc.soleField? "expected_type" with
  | some value => return ⟨← value.nullable? Json.Written.text?⟩
  | none => return ⟨none⟩

/-- The JSON form; an absent type is left out. -/
def toJson (details : FailureDetails) : Json :=
  match details.expectedType with
  | some type => .obj [("expected_type", .str type)]
  | none => .obj []

end FailureDetails
end ShapeCheck
