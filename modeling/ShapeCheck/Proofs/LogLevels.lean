import ShapeCheck.Proofs.Replay

/-!
# Programs under different thresholds

A program builds checkers, runs batches and uses failure logs, and what it does next may depend on
everything that it has got back.  It runs on the console, where each log call asks the threshold,
and is run twice, under two settled thresholds.  Nothing but the written lines tells the runs apart,
and of these the graver ones are the same.

* `Request.answerIn_ambient`: a request gets on the console what it gets when its entries are kept,
  and leaves the console as if these were logged afterwards.
* `Program.runIn_ambient`: so does a whole program.
* `Program.logging_changes_no_result`: what holds of every program.
-/

namespace ShapeCheck

/-- The threshold that lets every entry through. -/
def LogConfig.trace : LogConfig :=
  ⟨some .trace⟩

namespace LogConfig

theorem filter_trace (entries : List LogEntry) :
    trace.filter entries = entries := by
  refine List.filter_eq_self.mpr fun entry _ => ?_
  exact decide_eq_true (Nat.zero_le entry.severity.rank)

theorem filter_off (entries : List LogEntry) :
    off.filter entries = [] :=
  List.filter_eq_nil_iff.mpr fun _ _ => Bool.false_ne_true

theorem filter_some (least : Severity) (entries : List LogEntry) :
    filter ⟨some least⟩ entries =
      entries.filter fun entry => least.rank ≤ entry.severity.rank := by
  rfl

end LogConfig

/-- What a checker can be built from. -/
inductive Construction where
  | primitive (type : String)
  | any
  | arrayOf (item : Slot)
  | objectOf (item : Slot)
  | instanceOf (cls : Class)
  | oneOf (allowed : Value)
  | oneOfType (alternatives : Slot)
  | shape (fields : List (String × Slot))
  | exact (fields : List (String × Slot))
  | custom (label : String) (test : Query → Outcome)
  | required (checker : Checker)

/-- Builds a checker; a choice without choices is built after a warning. -/
def Construction.buildIn (m : Type → Type) [Monad m] [Logger m] : Construction → m Checker
  | primitive type => return .primitive type
  | any => return .any
  | arrayOf item => return .arrayOf item
  | objectOf item => return .objectOf item
  | instanceOf cls => return .instanceOf cls
  | oneOf allowed => Checker.oneOfIn m allowed
  | oneOfType alternatives => Checker.oneOfTypeIn m alternatives
  | shape fields => return .shape fields
  | exact fields => return .exact fields
  | custom label test => return .custom label test
  | required checker => return checker.isRequired

/-- What a program asks for.  It may have many failure logs, which it tells apart by numbers. -/
inductive Request where
  | build (construction : Construction)
  | run (specs : List (String × Slot)) (subject : Batch.Subject)
  | failureLog (number : Nat) (operation : FailureLog.Operation)
  | size (number : Nat)
  | isEmpty (number : Nat)

/-- What it gets back. -/
inductive Response where
  | built (checker : Checker)
  | ran (result : Except Abort (Option Report))
  | failureLog (reply : FailureLog.Reply)
  | size (count : Nat)
  | isEmpty (answer : Bool)

/-- Answers a request; only an operation on a failure log changes one, and no other one. -/
def Request.answerIn (m : Type → Type) [Monad m] [Logger m] (logs : Nat → FailureLog) :
    Request → m (Response × (Nat → FailureLog))
  | build construction => do
      return (.built (← construction.buildIn m), logs)
  | run specs subject => do
      return (.ran (← Batch.runIn m specs subject), logs)
  | failureLog number operation => do
      let (reply, log) ← FailureLog.performIn m operation (logs number)
      return (.failureLog reply, Function.update logs number log)
  | size number => return (.size (logs number).size, logs)
  | isEmpty number => return (.isEmpty (logs number).isEmpty, logs)

/-- A finite sequence of requests, each of which may depend on the responses before it. -/
inductive Program where
  | done
  | next (request : Request) (rest : Response → Program)

/-- Runs a program to its end: the responses that it gets, in order, and the failure logs that it
leaves. -/
def Program.runIn (m : Type → Type) [Monad m] [Logger m] :
    Program → (Nat → FailureLog) → m (List Response × (Nat → FailureLog))
  | done, logs => return ([], logs)
  | next request rest, logs => do
      let (response, logs) ← request.answerIn m logs
      let (responses, logs) ← (rest response).runIn m logs
      return (response :: responses, logs)

/-- The console at the start of a run: the threshold is settled, and nothing has been written. -/
def Console.settled (config : LogConfig) : Console :=
  ⟨.resolved config, []⟩

/-! ### Logging at once and afterwards -/

theorem Construction.buildIn_ambient (construction : Construction) :
    construction.buildIn Ambient = (construction.buildIn Logged).replay := by
  cases construction with
  | oneOf allowed => exact Checker.oneOfIn_ambient allowed
  | oneOfType alternatives => exact Checker.oneOfTypeIn_ambient alternatives
  | _ => rfl

/-- One request gets on the console what it gets when its entries are kept, and leaves the console
as if these were logged afterwards. -/
theorem Request.answerIn_ambient (request : Request) (logs : Nat → FailureLog) :
    request.answerIn Ambient logs = (request.answerIn Logged logs).replay := by
  cases request with
  | build construction =>
      rw [answerIn, answerIn, Logged.replay_bind, construction.buildIn_ambient]
      rfl
  | run specs subject =>
      rw [answerIn, answerIn, Logged.replay_bind, Batch.runIn_ambient]
      rfl
  | failureLog number operation =>
      rw [answerIn, answerIn, Logged.replay_bind, FailureLog.performIn_ambient]
      rfl
  | size number | isEmpty number =>
      rfl

namespace Program

/-- A whole program does: the responses are the same, so it goes on with the same requests. -/
theorem runIn_ambient (program : Program) (logs : Nat → FailureLog) :
    program.runIn Ambient logs = (program.runIn Logged logs).replay := by
  induction program generalizing logs with
  | done =>
      rfl
  | next request rest ih =>
      simp only [runIn, Logged.replay_bind, Logged.replay_pure, request.answerIn_ambient, ih]

/-- Under a settled threshold a program writes what the threshold admits of the entries that it
logs. -/
theorem runIn_ambient_of_settled
    (environment : Option String) (program : Program) (logs : Nat → FailureLog)
    (config : LogConfig) :
    program.runIn Ambient logs environment (.settled config) =
      ((program.runIn Logged logs).value,
        ⟨.resolved config, config.filter (program.runIn Logged logs).entries⟩) := by
  have hsettled : (Console.settled config).threshold = .resolved config := rfl
  rw [runIn_ambient, Logged.replay_apply, Console.logAll_of_resolved hsettled]
  rfl

/-- Logging changes no result.  A program that is run on the console under two settled thresholds
gets the same back and leaves the same failure logs.  Under a least severity it writes, in order,
those lines of the run that writes everything that are at least as grave, and none when the log is
off. -/
theorem logging_changes_no_result
    (environment : Option String) (program : Program) (logs : Nat → FailureLog) :
    let run (config : LogConfig) := program.runIn Ambient logs environment (.settled config)
    (∀ config config' : LogConfig, (run config).1 = (run config').1) ∧
    (∀ least : Severity,
      (run ⟨some least⟩).2.written =
        (run .trace).2.written.filter fun entry => least.rank ≤ entry.severity.rank) ∧
    (run .off).2.written = [] := by
  intro run
  have hrun (config : LogConfig) :
      run config =
        ((program.runIn Logged logs).value,
          ⟨.resolved config, config.filter (program.runIn Logged logs).entries⟩) :=
    runIn_ambient_of_settled environment program logs config
  refine ⟨fun config config' => ?_, fun least => ?_, ?_⟩
  · rw [hrun, hrun]
  · rw [hrun, hrun, LogConfig.filter_some, LogConfig.filter_trace]
  · rw [hrun, LogConfig.filter_off]

end Program
end ShapeCheck
