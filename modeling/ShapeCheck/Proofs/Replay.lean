import ShapeCheck.Checker.Build
import ShapeCheck.Log.Console
import ShapeCheck.Proofs.OnceOnly

/-!
# Logging at once

Every operation that logs is written for all loggers, so it also runs on the console, where each log
call asks the threshold at once and may settle it.  It does nothing else with the logger, and so it
returns there what it returns when its entries are kept, and leaves the console as if these were
logged afterwards.

* `Checker.oneOfIn_ambient` and `Checker.oneOfTypeIn_ambient`: building a choice.
* `Batch.runEntryIn_ambient` and `Batch.runEntriesIn_ambient`: one entry of a batch, and all of
  them.
* `FailureLog.recordFailuresIn_ambient`: recording failures.
* `FailureLog.performIn_ambient`: every operation on a failure log.
-/

namespace ShapeCheck

namespace Checker

theorem misusedIn_ambient (origin : Factory) (event : Event) (message : String) :
    misusedIn Ambient origin event message = (misusedIn Logged origin event message).replay := by
  simp only [misusedIn, Logged.replay_bind, Logged.replay_log, Logged.replay_pure]

theorem oneOfIn_ambient (allowed : Value) :
    oneOfIn Ambient allowed = (oneOf allowed).replay := by
  rw [oneOf, oneOfIn, oneOfIn]
  cases allowed.items? with
  | some items => rfl
  | none => exact misusedIn_ambient _ _ _

theorem oneOfTypeIn_ambient (alternatives : Slot) :
    oneOfTypeIn Ambient alternatives = (oneOfType alternatives).replay := by
  rw [oneOfType]
  cases alternatives with
  | list slots =>
      rw [oneOfTypeIn, oneOfTypeIn]
      cases firstUncallable? 0 slots with
      | none => rfl
      | some found => exact misusedIn_ambient _ _ _
  | checker | factory | value =>
      exact misusedIn_ambient _ _ _

end Checker

namespace Batch

variable (guards : Guards) (subject : Subject)

theorem caughtIn_ambient (name : String) (failure : Failure) :
    caughtIn Ambient name failure = (caughtIn Logged name failure).replay := by
  simp only [caughtIn, Logged.replay_bind, Logged.replay_log, Logged.replay_pure]

theorem settleIn_ambient (name : String) (outcome : Outcome) :
    settleIn Ambient subject name outcome = (settleIn Logged subject name outcome).replay := by
  rcases outcome with _ | failure | (failure | returned) | text
  case pass | fail => rfl
  case fault.raised | panicked => exact caughtIn_ambient _ _
  case fault.notAFailure =>
    simp only [settleIn, Logged.replay_bind, Logged.replay_log, Logged.replay_pure]

theorem refuseIn_ambient (name : String) (found : Tag) :
    refuseIn Ambient subject name found = (refuseIn Logged subject name found).replay := by
  simp only [refuseIn, Logged.replay_bind, Logged.replay_log, caughtIn_ambient]

theorem runEntryIn_ambient (entry : String × Slot) :
    runEntryIn Ambient guards subject entry = (runEntry guards subject entry).replay := by
  rw [runEntry, runEntryIn, runEntryIn]
  split
  · exact settleIn_ambient _ _ _
  · exact refuseIn_ambient _ _ _

/-- What one entry does on the console, all entries do in order. -/
theorem runEntriesIn_ambient (specs : List (String × Slot)) :
    runEntriesIn Ambient guards subject specs = (runEntries guards subject specs).replay := by
  induction specs with
  | nil =>
      rfl
  | cons entry rest ih =>
      rw [runEntriesIn, runEntries_cons, Logged.replay_bind, runEntryIn_ambient, ih]
      refine bind_congr fun result => ?_
      cases result with
      | error abort =>
          rfl
      | ok found =>
          rw [Logged.replay_bind]
          refine bind_congr fun result => ?_
          cases result <;> rfl

theorem runWithIn_ambient (specs : List (String × Slot)) :
    runWithIn Ambient guards specs subject = (runWith guards specs subject).replay := by
  rw [runWithIn, runWith_eq, Logged.replay_bind, runEntriesIn_ambient]
  rfl

theorem runIn_ambient (specs : List (String × Slot)) :
    runIn Ambient specs subject = (run specs subject).replay :=
  runWithIn_ambient .standard subject specs

end Batch

namespace FailureLog

theorem recordFailuresIn_ambient (failures : List Failure) (log : FailureLog) :
    recordFailuresIn Ambient failures log = (recordFailures failures log).replay := by
  rw [recordFailures]
  induction failures generalizing log with
  | nil =>
      rfl
  | cons failure rest ih =>
      rw [recordFailuresIn, recordFailuresIn]
      split
      · exact ih log
      · simp only [Logged.replay_bind, Logged.replay_log, Logged.replay_pure, ih]

theorem recordIn_ambient (report : Option Report) (log : FailureLog) :
    recordIn Ambient report log = (record report log).replay :=
  recordFailuresIn_ambient _ log

/-- A batch, and the recording of its report behind it. -/
theorem checkIn_ambient
    (specs : List (String × Slot)) (subject : Batch.Subject) (log : FailureLog) :
    checkIn Ambient specs subject log = (check specs subject log).replay := by
  rw [checkIn, check_eq, Logged.replay_bind, Batch.runIn_ambient]
  refine bind_congr fun result => ?_
  cases result with
  | error abort => rfl
  | ok report => simp only [Logged.replay_bind, Logged.replay_pure, recordIn_ambient]

theorem performIn_ambient (op : Operation) (log : FailureLog) :
    performIn Ambient op log = (perform op log).replay := by
  cases op with
  | check specs subject =>
      rw [performIn, perform_check, Logged.replay_bind, checkIn_ambient]
      refine bind_congr fun result => ?_
      rcases result with ⟨_ | _, log⟩ <;> rfl
  | record report =>
      rw [performIn, perform_record, Logged.replay_bind, recordIn_ambient]
      rfl
  | hasSeen message =>
      rfl
  | clear =>
      rfl

end FailureLog
end ShapeCheck
