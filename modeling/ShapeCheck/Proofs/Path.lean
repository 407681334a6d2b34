import ShapeCheck.Proofs.Reading

/-!
# Paths

A path leads from a value to a value inside it, by the indices of items and the keys of properties.
The questions that checkers pass down along a path are about the value at its end, and name that
value by the text of the path.

* `Query.along_value`: the value in question at the end of a path.
* `Query.along_fullName`: the name that messages show for it.
-/

namespace ShapeCheck

/-- A step from a value to a value inside it. -/
inductive Step where
  | item (index : Nat)
  | member (key : String)
deriving DecidableEq

namespace Step

/-- The key under which the next value is read. -/
def key : Step → String
  | item index => toString index
  | member key => key

/-- What a step adds to the name of a value. -/
def text : Step → String
  | item index => "[" ++ toString index ++ "]"
  | member key => "." ++ key

/-- Every step adds something. -/
theorem text_isEmpty (step : Step) :
    step.text.isEmpty = false := by
  cases step <;> simp [text, String.isEmpty_eq_false_iff]

end Step

/-- What a path adds to the name of a value. -/
def pathText (path : List Step) : String :=
  path.foldr (fun step rest => step.text ++ rest) ""

/-- The value at the end of a path, a missing one reading as undefined. -/
def Value.readAlong : Value → List Step → Value
  | v, [] => v
  | v, step :: rest => (v.property step.key).readAlong rest

theorem nameOr_of_isEmpty_eq_false
    {fallback name : String} (h : name.isEmpty = false) :
    nameOr fallback (some name) = name := by
  simp [nameOr, h]

/-- A name with a fallback is never empty, unless the fallback is. -/
theorem nameOr_isEmpty
    {fallback : String} (h : fallback.isEmpty = false) (name : Option String) :
    (nameOr fallback name).isEmpty = false := by
  cases name with
  | none =>
      exact h
  | some name =>
      cases hname : name.isEmpty <;> simp [nameOr, h, hname]

theorem nameOr_nameOr (fallback : String) (name : Option String) :
    nameOr fallback (some (nameOr fallback name)) = nameOr fallback name := by
  cases name with
  | none =>
      simp [nameOr]
  | some name =>
      cases hname : name.isEmpty <;> simp [nameOr, hname]

/-- The question of a call is the same when it is passed on as it is. -/
theorem Call.query_forward_query (call : Call) :
    call.query.forward.query = call.query := by
  simp [query, Query.forward, nameOr_nameOr]

namespace Query

/-- The question that is passed down to the end of a path. -/
def along : Query → List Step → Query
  | q, [] => q
  | q, step :: rest => (q.child step.key step.text).query.along rest

theorem along_value (q : Query) (path : List Step) :
    (q.along path).value = q.value.readAlong path := by
  induction path generalizing q with
  | nil => rfl
  | cons step rest ih => exact ih _

theorem along_location (q : Query) (path : List Step) :
    (q.along path).location = q.location := by
  induction path generalizing q with
  | nil => rfl
  | cons step rest ih => exact ih _

theorem child_fullName (q : Query) (step : Step) :
    (q.child step.key step.text).query.fullName = q.fullName ++ step.text := by
  have hne : (q.fullName ++ step.text).isEmpty = false := by
    have hstep := step.text_isEmpty
    rw [String.isEmpty_eq_false_iff] at hstep ⊢
    simp [hstep]
  exact nameOr_of_isEmpty_eq_false hne

/-- The name of the value at the end of a path is that of the first value and the text of the
path. -/
theorem along_fullName (q : Query) (path : List Step) :
    (q.along path).fullName = q.fullName ++ pathText path := by
  induction path generalizing q with
  | nil =>
      simp [along, pathText]
  | cons step rest ih =>
      rw [along, ih, child_fullName, String.append_assoc]
      rfl

/-- The component is passed down as it is, unless it has no name. -/
theorem along_component
    {q : Query} (h : q.component.isEmpty = false) (path : List Step) :
    (q.along path).component = q.component := by
  induction path generalizing q with
  | nil =>
      rfl
  | cons step rest ih =>
      have hchild : (q.child step.key step.text).query.component = q.component :=
        nameOr_of_isEmpty_eq_false h
      rw [along, ih (by rw [hchild, h]), hchild]

/-- Passing the question at the end of a path on as it is changes nothing. -/
theorem along_forward_query
    {q : Query} (h : q.forward.query = q) (path : List Step) :
    (q.along path).forward.query = q.along path := by
  induction path generalizing q with
  | nil => exact h
  | cons step rest ih => exact ih (q.child step.key step.text).query_forward_query

end Query
end ShapeCheck
