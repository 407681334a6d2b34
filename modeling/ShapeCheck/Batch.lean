import ShapeCheck.Checker.Run
import ShapeCheck.Log.Logged

/-!
# Batches

A batch checks the properties of one value against named slots, one after the other.  An entry
contributes at most one failure, and a broken checker costs only its own entry, with one exception:
a checker that answers with neither a pass nor a failure aborts the batch.  A batch is written for
every logger, and `run` is the batch that keeps all that is logged.

Main statements: `runEntries_cons_of_abort` and `runEntries_cons_of_ok` unfold a batch entry by
entry, log included.
-/

namespace ShapeCheck

/-- The failures of a batch in the order of its entries; a report without failures is never made. -/
structure Report where
  failures : List Failure
  nonempty : failures ≠ []
deriving DecidableEq

namespace Report

/-- The report of the given failures, if there are any. -/
def ofFailures? : List Failure → Option Report
  | [] => none
  | failure :: rest => some ⟨failure :: rest, by simp⟩

/-- The failures of a report, and none without a report. -/
def failuresOf : Option Report → List Failure
  | some report => report.failures
  | none => []

def messages (report : Report) : List String :=
  report.failures.map Failure.message

@[simp] theorem failuresOf_ofFailures? (failures : List Failure) :
    failuresOf (ofFailures? failures) = failures := by
  cases failures <;> rfl

@[simp] theorem ofFailures?_eq_none_iff (failures : List Failure) :
    ofFailures? failures = none ↔ failures = [] := by
  cases failures <;> simp [ofFailures?]

end Report

/-- Why a batch is aborted: the checker of the named entry answers with neither a pass nor a
failure. -/
structure Abort where
  entry : String
  /-- The type of what it answers. -/
  returned : String
  message : String
deriving DecidableEq

def Abort.code : String :=
  "TYPE_CHECKER_INVALID_TYPE_SPEC"

namespace Batch

/-- What a batch checks, and the names for its messages. -/
structure Subject where
  values : Value
  location : String
  component : Option String

namespace Subject

/-- The name that messages about entries begin with. -/
def title (subject : Subject) : String :=
  nameOr "Object" subject.component

/-- The call on a named property of the subject. -/
def call (subject : Subject) (name : String) : Call :=
  { props := subject.values
    name := name
    component := subject.component
    location := subject.location
    fullName := none
    caller := .batch }

/-- An entry has no checker. -/
def invalidEntry (subject : Subject) (name : String) (found : Tag) : Failure :=
  .invariant <|
    s!"{subject.title}: {subject.location} type `{name}` is invalid; it must be a function, " ++
      s!"usually from the `type-checker` package, but received `{found.name}`. This often " ++
      "happens because of typos such as `TypeChecker.function` instead of `TypeChecker.func`."

/-- The checker of an entry panics. -/
def panickedEntry (subject : Subject) (name : String) (text : Option String) : Failure :=
  .invariant <|
    s!"{subject.title}: {subject.location} type `{name}` panicked: " ++
      text.getD "unknown panic payload"

/-- The checker of an entry answers with neither a pass nor a failure. -/
def abort (subject : Subject) (name returned : String) : Abort :=
  { entry := name
    returned := returned
    message :=
      s!"{subject.title}: type specification of {subject.location} `{name}` is invalid; the type " ++
        s!"checker function must return `null` or an `Error` but returned a {returned}. You may " ++
        "have forgotten to pass an argument to the type checker creator (arrayOf, instanceOf, " ++
        "objectOf, oneOf, oneOfType, and shape all require an argument)." }

end Subject

section Steps

variable (m : Type → Type) [Monad m] [Logger m]

/-- A failure that was raised and not returned. -/
def caughtIn (name : String) (failure : Failure) : m (Except Abort (Option Failure)) := do
  Logger.log .info .checkerFaultCaught [("message", failure.message), ("type_spec", name)]
  return .ok (some failure)

/-- What the answer of a checker means for the batch. -/
def settleIn (subject : Subject) (name : String) : Outcome → m (Except Abort (Option Failure))
  | .pass => return .ok none
  | .fail failure => return .ok (some failure)
  | .fault (.raised failure) => caughtIn m name failure
  | .panicked text => caughtIn m name (subject.panickedEntry name text)
  | .fault (.notAFailure returned) => do
      let abort := subject.abort name returned
      Logger.log .error .batchAborted [("message", abort.message), ("type_spec", name)]
      return .error abort

/-- What an entry without a checker means for the batch. -/
def refuseIn (subject : Subject) (name : String) (found : Tag) :
    m (Except Abort (Option Failure)) := do
  Logger.log .warn .typeSpecInvalid [("location", subject.location), ("type_spec", name)]
  caughtIn m name (subject.invalidEntry name found)

/-- Checks one entry. -/
def runEntryIn (guards : Guards) (subject : Subject) (entry : String × Slot) :
    m (Except Abort (Option Failure)) :=
  if entry.2.isCallable then
    settleIn m subject entry.1 (entry.2.invoke guards (subject.call entry.1))
  else
    refuseIn m subject entry.1 entry.2.typeOf

/-- Checks the entries in order up to the first abort. -/
def runEntriesIn (guards : Guards) (subject : Subject) :
    List (String × Slot) → m (Except Abort (List Failure))
  | [] => return .ok []
  | entry :: rest => do
      match ← runEntryIn m guards subject entry with
      | .error abort => return .error abort
      | .ok found =>
          match ← runEntriesIn guards subject rest with
          | .error abort => return .error abort
          | .ok failures => return .ok (found.toList ++ failures)

def runWithIn (guards : Guards) (specs : List (String × Slot)) (subject : Subject) :
    m (Except Abort (Option Report)) := do
  return (← runEntriesIn m guards subject specs).map Report.ofFailures?

/-- Checks a subject against named slots. -/
def runIn (specs : List (String × Slot)) (subject : Subject) :
    m (Except Abort (Option Report)) :=
  runWithIn m .standard specs subject

end Steps

/-- Checks one entry and keeps what is logged. -/
def runEntry (guards : Guards) (subject : Subject) (entry : String × Slot) :
    Logged (Except Abort (Option Failure)) :=
  runEntryIn Logged guards subject entry

/-- Checks the entries in order up to the first abort and keeps what is logged. -/
def runEntries (guards : Guards) (subject : Subject) (specs : List (String × Slot)) :
    Logged (Except Abort (List Failure)) :=
  runEntriesIn Logged guards subject specs

def runWith (guards : Guards) (specs : List (String × Slot)) (subject : Subject) :
    Logged (Except Abort (Option Report)) :=
  runWithIn Logged guards specs subject

/-- Checks a subject against named slots and keeps what is logged. -/
def run (specs : List (String × Slot)) (subject : Subject) :
    Logged (Except Abort (Option Report)) :=
  runIn Logged specs subject

theorem runEntry_of_isCallable
    {entry : String × Slot} (h : entry.2.isCallable = true)
    (guards : Guards) (subject : Subject) :
    runEntry guards subject entry =
      settleIn Logged subject entry.1 (entry.2.invoke guards (subject.call entry.1)) := by
  rw [runEntry, runEntryIn, if_pos h]

theorem runEntry_of_not_isCallable
    {entry : String × Slot} (h : entry.2.isCallable = false)
    (guards : Guards) (subject : Subject) :
    runEntry guards subject entry = refuseIn Logged subject entry.1 entry.2.typeOf := by
  rw [runEntry, runEntryIn, if_neg (by simp [h])]

theorem runWith_eq (guards : Guards) (specs : List (String × Slot)) (subject : Subject) :
    runWith guards specs subject = do
      return (← runEntries guards subject specs).map Report.ofFailures? := by
  rfl

@[simp] theorem runEntries_nil (guards : Guards) (subject : Subject) :
    runEntries guards subject [] = pure (.ok []) := by
  rfl

theorem runEntries_cons
    (guards : Guards) (subject : Subject) (entry : String × Slot) (rest : List (String × Slot)) :
    runEntries guards subject (entry :: rest) = do
      match ← runEntry guards subject entry with
      | .error abort => return .error abort
      | .ok found =>
          match ← runEntries guards subject rest with
          | .error abort => return .error abort
          | .ok failures => return .ok (found.toList ++ failures) := by
  rfl

/-- After an abort no entry is checked. -/
theorem runEntries_cons_of_abort
    {guards : Guards} {subject : Subject} {entry : String × Slot} {abort : Abort}
    (h : (runEntry guards subject entry).value = .error abort)
    (rest : List (String × Slot)) :
    runEntries guards subject (entry :: rest) =
      ⟨.error abort, (runEntry guards subject entry).entries⟩ := by
  apply Logged.ext
  · simp [runEntries_cons, h]
  · simp [runEntries_cons, h]

/-- What an entry contributes stands in front of what the others do. -/
theorem runEntries_cons_of_ok
    {guards : Guards} {subject : Subject} {entry : String × Slot} {found : Option Failure}
    (h : (runEntry guards subject entry).value = .ok found)
    (rest : List (String × Slot)) :
    runEntries guards subject (entry :: rest) =
      ⟨(runEntries guards subject rest).value.map (found.toList ++ ·),
        (runEntry guards subject entry).entries ++ (runEntries guards subject rest).entries⟩ := by
  apply Logged.ext
  · cases hrest : (runEntries guards subject rest).value <;>
      simp [runEntries_cons, h, hrest, Except.map]
  · cases hrest : (runEntries guards subject rest).value <;>
      simp [runEntries_cons, h, hrest]

end Batch
end ShapeCheck
