import ShapeCheck.Batch

/-!
# Failure logs

A failure log remembers the messages of the failures that it has returned, and returns and logs a
failure only when its message is new.

Main statement: `hasSeen_iff`.
-/

namespace ShapeCheck

/-- The messages returned so far, the latest first. -/
structure FailureLog where
  seen : List String
deriving DecidableEq

namespace FailureLog

def empty : FailureLog :=
  ⟨[]⟩

/-- Whether a failure with this message has been returned. -/
def hasSeen (log : FailureLog) (message : String) : Bool :=
  log.seen.contains message

def size (log : FailureLog) : Nat :=
  log.seen.length

def isEmpty (log : FailureLog) : Bool :=
  log.seen.isEmpty

section Steps

variable (m : Type → Type) [Monad m] [Logger m]

/-- Returns and logs the failures with new messages, each message once. -/
def recordFailuresIn : List Failure → FailureLog → m (List Failure × FailureLog)
  | [], log => return ([], log)
  | failure :: rest, log =>
      if log.hasSeen failure.message then
        recordFailuresIn rest log
      else do
        Logger.log .error .failureReported
          [("kind", failure.kind.name), ("message", failure.message)]
        let (fresh, log) ← recordFailuresIn rest ⟨failure.message :: log.seen⟩
        return (failure :: fresh, log)

/-- Returns and logs the failures of a report that have new messages. -/
def recordIn (report : Option Report) (log : FailureLog) : m (List Failure × FailureLog) :=
  recordFailuresIn m (Report.failuresOf report) log

/-- Runs a batch and records its report; an aborted batch leaves the log as it was. -/
def checkIn (specs : List (String × Slot)) (subject : Batch.Subject) (log : FailureLog) :
    m (Except Abort (List Failure) × FailureLog) := do
  match ← Batch.runIn m specs subject with
  | .error abort => return (.error abort, log)
  | .ok report =>
      let (fresh, log) ← recordIn m report log
      return (.ok fresh, log)

end Steps

/-- Returns the failures with new messages, each message once, and keeps what is logged. -/
def recordFailures (failures : List Failure) (log : FailureLog) :
    Logged (List Failure × FailureLog) :=
  recordFailuresIn Logged failures log

/-- Returns the failures of a report that have new messages and keeps what is logged. -/
def record (report : Option Report) (log : FailureLog) : Logged (List Failure × FailureLog) :=
  recordIn Logged report log

/-- Runs a batch, records its report and keeps what is logged. -/
def check (specs : List (String × Slot)) (subject : Batch.Subject) (log : FailureLog) :
    Logged (Except Abort (List Failure) × FailureLog) :=
  checkIn Logged specs subject log

theorem record_eq (report : Option Report) (log : FailureLog) :
    record report log = recordFailures (Report.failuresOf report) log := by
  rfl

theorem check_eq (specs : List (String × Slot)) (subject : Batch.Subject) (log : FailureLog) :
    check specs subject log = do
      match ← Batch.run specs subject with
      | .error abort => return (.error abort, log)
      | .ok report =>
          let (fresh, log) ← record report log
          return (.ok fresh, log) := by
  rfl

theorem hasSeen_iff (log : FailureLog) (message : String) :
    log.hasSeen message = true ↔ message ∈ log.seen := by
  simp [hasSeen]

end FailureLog
end ShapeCheck
