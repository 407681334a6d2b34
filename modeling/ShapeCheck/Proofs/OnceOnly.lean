import Mathlib.Data.List.DropRight
import Mathlib.Data.List.Nodup
import ShapeCheck.FailureLog
import ShapeCheck.Proofs.Entries

/-!
# Each message once

A failure log over a whole run: checks, reports that are recorded, questions and clearings in any
order.  Since the last clearing it has returned one failure for each message that was reported, and
what it remembers, returns and logs stays in step.

* `recordFailures_loop`: recording goes on with the removal of repeated messages where the failures
  returned so far have left it.
* `Session.InStep`: the invariant, kept by every operation.
* `FailureLog.session_returns_each_message_once`: what holds after every run.
-/

namespace ShapeCheck

/-- Whether two failures have one message, whatever their kinds. -/
def Failure.sameMessage (f g : Failure) : Bool :=
  f.message == g.message

section FirstOccurrences

/-- The removal of repetitions goes through a list in one pass. -/
theorem eraseDupsBy_loop_append
    {α : Type} (r : α → α → Bool) (first second kept : List α) :
    List.eraseDupsBy.loop r (first ++ second) kept =
      List.eraseDupsBy.loop r second (List.eraseDupsBy.loop r first kept).reverse := by
  induction first generalizing kept with
  | nil =>
      rw [List.nil_append, List.eraseDupsBy.loop, List.reverse_reverse]
  | cons a rest ih =>
      rw [List.cons_append, List.eraseDupsBy.loop, List.eraseDupsBy.loop]
      cases kept.any (r a) with
      | true => exact ih kept
      | false => exact ih (a :: kept)

/-- Failures without repeated messages have the reported messages without repetitions. -/
theorem eraseDupsBy_loop_map_message (failures kept : List Failure) :
    (List.eraseDupsBy.loop Failure.sameMessage failures kept).map Failure.message =
      List.eraseDupsBy.loop (· == ·) (failures.map Failure.message)
        (kept.map Failure.message) := by
  induction failures generalizing kept with
  | nil =>
      simp [List.eraseDupsBy.loop]
  | cons f rest ih =>
      have hany :
          (kept.map Failure.message).any (f.message == ·) = kept.any f.sameMessage := by
        rw [List.any_map]
        rfl
      rw [List.map_cons, List.eraseDupsBy.loop, List.eraseDupsBy.loop, hany]
      cases kept.any f.sameMessage with
      | true => exact ih kept
      | false => exact ih (f :: kept)

end FirstOccurrences

namespace FailureLog

/-- The entry that is logged for a returned failure. -/
def reportedEntry (f : Failure) : LogEntry :=
  ⟨.error, .failureReported, [("kind", f.kind.name), ("message", f.message)]⟩

section Recording

variable {f : Failure} {log : FailureLog}

theorem recordFailures_cons_of_seen
    (hseen : log.hasSeen f.message = true) (rest : List Failure) :
    recordFailures (f :: rest) log = recordFailures rest log := by
  rw [recordFailures, recordFailuresIn, if_pos hseen, recordFailures]

theorem recordFailures_cons_of_new
    (hnew : log.hasSeen f.message = false) (rest : List Failure) :
    recordFailures (f :: rest) log =
      ⟨(f :: (recordFailures rest ⟨f.message :: log.seen⟩).value.1,
          (recordFailures rest ⟨f.message :: log.seen⟩).value.2),
        reportedEntry f :: (recordFailures rest ⟨f.message :: log.seen⟩).entries⟩ := by
  rw [recordFailures, recordFailuresIn, if_neg (by simp [hnew])]
  apply Logged.ext
  · rfl
  · exact congrArg (reportedEntry f :: ·) (List.append_nil _)

/-- What is logged is what is returned. -/
theorem entries_recordFailures (failures : List Failure) (log : FailureLog) :
    (recordFailures failures log).entries =
      (recordFailures failures log).value.1.map reportedEntry := by
  induction failures generalizing log with
  | nil =>
      rfl
  | cons f rest ih =>
      cases hseen : log.hasSeen f.message with
      | true => rw [recordFailures_cons_of_seen hseen, ih]
      | false => rw [recordFailures_cons_of_new hseen, ih, List.map_cons]

/-- What is remembered is what is returned, behind what was remembered before. -/
theorem seen_recordFailures (failures : List Failure) (log : FailureLog) :
    (recordFailures failures log).value.2.seen =
      ((recordFailures failures log).value.1.map Failure.message).reverse ++ log.seen := by
  induction failures generalizing log with
  | nil =>
      rfl
  | cons f rest ih =>
      cases hseen : log.hasSeen f.message with
      | true => rw [recordFailures_cons_of_seen hseen, ih]
      | false => simp [recordFailures_cons_of_new hseen, ih]

/-- Nothing is remembered twice. -/
theorem nodup_seen_recordFailures
    {log : FailureLog} (hnodup : log.seen.Nodup) (failures : List Failure) :
    (recordFailures failures log).value.2.seen.Nodup := by
  induction failures generalizing log with
  | nil =>
      exact hnodup
  | cons f rest ih =>
      cases hseen : log.hasSeen f.message with
      | true =>
          rw [recordFailures_cons_of_seen hseen]
          exact ih hnodup
      | false =>
          have hnew : f.message ∉ log.seen := by
            rw [← hasSeen_iff, hseen]
            simp
          rw [recordFailures_cons_of_new hseen]
          exact ih (List.nodup_cons.mpr ⟨hnew, hnodup⟩)

/-- Recording goes on with the removal of repeated messages where the failures returned so far have
left it. -/
theorem recordFailures_loop (failures kept : List Failure) :
    List.eraseDupsBy.loop Failure.sameMessage failures kept =
      kept.reverse ++ (recordFailures failures ⟨kept.map Failure.message⟩).value.1 := by
  induction failures generalizing kept with
  | nil =>
      exact (List.append_nil _).symm
  | cons f rest ih =>
      have hany :
          kept.any f.sameMessage = hasSeen ⟨kept.map Failure.message⟩ f.message := by
        rw [hasSeen, List.contains_eq_any_beq, List.any_map]
        rfl
      rw [List.eraseDupsBy.loop, hany]
      cases hseen : hasSeen ⟨kept.map Failure.message⟩ f.message with
      | true =>
          rw [recordFailures_cons_of_seen hseen]
          exact ih kept
      | false =>
          rw [recordFailures_cons_of_new hseen]
          have hrest := ih (f :: kept)
          rw [List.reverse_cons, List.append_assoc] at hrest
          exact hrest

end Recording

/-! ### Operations -/

/-- What can be done with a failure log. -/
inductive Operation where
  | check (specs : List (String × Slot)) (subject : Batch.Subject)
  | record (report : Option Report)
  | hasSeen (message : String)
  | clear

/-- What an operation gives back. -/
inductive Reply where
  | fresh (failures : List Failure)
  | aborted (abort : Abort)
  | seen (answer : Bool)
  | cleared

/-- The failures that are given back. -/
def Reply.returned : Reply → List Failure
  | fresh failures => failures
  | aborted _ | seen _ | cleared => []

namespace Operation

def isClear : Operation → Bool
  | clear => true
  | check _ _ | record _ | hasSeen _ => false

/-- The failures of the report that an operation goes through; an aborted batch has no report. -/
def reported : Operation → List Failure
  | check specs subject =>
      match (Batch.run specs subject).value with
      | .ok report => Report.failuresOf report
      | .error _ => []
  | record report => Report.failuresOf report
  | hasSeen _ | clear => []

end Operation

/-- Performs an operation. -/
def performIn (m : Type → Type) [Monad m] [Logger m] :
    Operation → FailureLog → m (Reply × FailureLog)
  | .check specs subject, log => do
      match ← checkIn m specs subject log with
      | (.ok failures, log) => return (.fresh failures, log)
      | (.error abort, log) => return (.aborted abort, log)
  | .record report, log => do
      let (failures, log) ← recordIn m report log
      return (.fresh failures, log)
  | .hasSeen message, log => return (.seen (log.hasSeen message), log)
  | .clear, _ => return (.cleared, empty)

/-- Performs an operation and keeps what is logged. -/
def perform (op : Operation) (log : FailureLog) : Logged (Reply × FailureLog) :=
  performIn Logged op log

section Perform

variable {specs : List (String × Slot)} {subject : Batch.Subject} {log : FailureLog}

theorem perform_check :
    perform (.check specs subject) log = do
      match ← check specs subject log with
      | (.ok failures, log) => return (.fresh failures, log)
      | (.error abort, log) => return (.aborted abort, log) := by
  rfl

theorem perform_record {report : Option Report} :
    perform (.record report) log = do
      let (failures, log) ← record report log
      return (.fresh failures, log) := by
  rfl

theorem check_of_abort
    {abort : Abort} (h : (Batch.run specs subject).value = .error abort) :
    check specs subject log = ⟨(.error abort, log), (Batch.run specs subject).entries⟩ := by
  apply Logged.ext
  · simp [check_eq, h]
  · simp [check_eq, h]

theorem check_of_ok
    {report : Option Report} (h : (Batch.run specs subject).value = .ok report) :
    check specs subject log =
      ⟨(.ok (record report log).value.1, (record report log).value.2),
        (Batch.run specs subject).entries ++ (record report log).entries⟩ := by
  apply Logged.ext
  · rw [check_eq, Logged.value_bind, h]
    rfl
  · rw [check_eq, Logged.entries_bind, h, Logged.entries_bind, Logged.entries_pure, List.append_nil]

/-- An operation gives back and remembers what recording its report does, unless it clears the
log. -/
theorem value_perform
    {op : Operation} (hop : op.isClear = false) (log : FailureLog) :
    (perform op log).value.1.returned = (recordFailures op.reported log).value.1 ∧
      (perform op log).value.2 = (recordFailures op.reported log).value.2 := by
  cases op with
  | check specs subject =>
      cases h : (Batch.run specs subject).value with
      | error abort =>
          rw [perform_check, Logged.value_bind, check_of_abort h, Operation.reported, h]
          exact ⟨rfl, rfl⟩
      | ok report =>
          rw [perform_check, Logged.value_bind, check_of_ok h, Operation.reported, h]
          exact ⟨rfl, rfl⟩
  | record report =>
      exact ⟨rfl, rfl⟩
  | hasSeen message =>
      exact ⟨rfl, rfl⟩
  | clear =>
      cases hop

end Perform

/-! ### Lines -/

/-- The entries that tell of returned failures. -/
def reports (entries : List LogEntry) : List LogEntry :=
  entries.filter fun entry => entry.event = .failureReported

theorem reports_map_reportedEntry (failures : List Failure) :
    reports (failures.map reportedEntry) = failures.map reportedEntry := by
  refine List.filter_eq_self.mpr fun entry hentry => ?_
  obtain ⟨f, -, rfl⟩ := List.mem_map.mp hentry
  rfl

theorem reports_append (first second : List LogEntry) :
    reports (first ++ second) = reports first ++ reports second :=
  List.filter_append first second

/-- A batch logs other events. -/
theorem reports_runEntries (subject : Batch.Subject) (specs : List (String × Slot)) :
    reports (Batch.runEntries .standard subject specs).entries = [] := by
  have hentry (entry : String × Slot) :
      reports (Batch.runEntry .standard subject entry).entries = [] := by
    rw [Batch.runEntry, Batch.runEntryIn]
    split
    · rcases entry.2.invoke .standard (subject.call entry.1) with
        _ | failure | (failure | returned) | text <;> rfl
    · rfl
  induction specs with
  | nil =>
      rfl
  | cons entry rest ih =>
      cases h : (Batch.runEntry .standard subject entry).value with
      | error abort => rw [Batch.runEntries_cons_of_abort h, hentry]
      | ok found => rw [Batch.runEntries_cons_of_ok h, reports_append, hentry, ih, List.append_nil]

/-- An operation logs the failures that it gives back, one entry for each in their order. -/
theorem reports_perform (op : Operation) (log : FailureLog) :
    reports (perform op log).entries =
      (perform op log).value.1.returned.map reportedEntry := by
  cases op with
  | check specs subject =>
      have hbatch : reports (Batch.run specs subject).entries = [] := by
        rw [Batch.run_eq]
        exact reports_runEntries subject specs
      cases h : (Batch.run specs subject).value with
      | error abort =>
          rw [perform_check, Logged.entries_bind, Logged.value_bind, check_of_abort h,
            reports_append, hbatch]
          rfl
      | ok report =>
          rw [perform_check, Logged.entries_bind, Logged.value_bind, check_of_ok h,
            Logged.entries_pure, List.append_nil, reports_append, hbatch, record_eq,
            entries_recordFailures, reports_map_reportedEntry]
          rfl
  | record report =>
      rw [perform_record, Logged.entries_bind, Logged.value_bind, Logged.entries_pure,
        List.append_nil, record_eq, entries_recordFailures, reports_map_reportedEntry]
      rfl
  | hasSeen message =>
      rfl
  | clear =>
      rfl

/-! ### Runs -/

/-- A run so far: the operations with their replies, and the log that they have left. -/
structure Session where
  past : List (Operation × Reply)
  log : FailureLog

namespace Session

/-- The run with one more operation. -/
def next (s : Session) (op : Operation) : Session :=
  { past := s.past ++ [(op, (perform op s.log).value.1)]
    log := (perform op s.log).value.2 }

/-- What has been done since the log was last cleared. -/
def sinceClear (s : Session) : List (Operation × Reply) :=
  s.past.rtakeWhile fun done => !done.1.isClear

/-- The failures given back since then, in order. -/
def returned (s : Session) : List Failure :=
  s.sinceClear.flatMap fun done => done.2.returned

/-- The failures of the reports gone through since then, in order. -/
def reported (s : Session) : List Failure :=
  s.sinceClear.flatMap fun done => done.1.reported

/-- What is returned, reported and remembered fits together. -/
structure InStep (s : Session) : Prop where
  returned : s.returned = s.reported.eraseDupsBy Failure.sameMessage
  seen : s.log.seen = (s.returned.map Failure.message).reverse
  nodup : s.log.seen.Nodup

variable {s : Session} {op : Operation}

theorem sinceClear_next_of_clear (h : op.isClear = true) :
    (s.next op).sinceClear = [] := by
  simp [sinceClear, next, h]

theorem sinceClear_next (h : op.isClear = false) :
    (s.next op).sinceClear = s.sinceClear ++ [(op, (perform op s.log).value.1)] := by
  simp [sinceClear, next, h]

/-- An operation that does not clear the log returns and reports behind what was returned and
reported before. -/
theorem returned_next (h : op.isClear = false) :
    (s.next op).returned = s.returned ++ (recordFailures op.reported s.log).value.1 := by
  rw [← (value_perform h s.log).1, returned, sinceClear_next h, List.flatMap_append]
  simp [returned]

theorem reported_next (h : op.isClear = false) :
    (s.next op).reported = s.reported ++ op.reported := by
  rw [reported, sinceClear_next h, List.flatMap_append]
  simp [reported]

theorem InStep.start : InStep ⟨[], empty⟩ where
  returned := rfl
  seen := rfl
  nodup := List.nodup_nil

/-- Every operation keeps a run in step. -/
theorem InStep.next (h : s.InStep) (op : Operation) :
    (s.next op).InStep := by
  cases hop : op.isClear with
  | true =>
      have hempty : (s.next op).log = empty := by
        cases op with
        | clear => rfl
        | check | record | hasSeen => cases hop
      have hreturned : (s.next op).returned = [] := by
        rw [Session.returned, sinceClear_next_of_clear hop, List.flatMap_nil]
      have hreported : (s.next op).reported = [] := by
        rw [Session.reported, sinceClear_next_of_clear hop, List.flatMap_nil]
      constructor
      · rw [hreturned, hreported]
        rfl
      · rw [hempty, hreturned]
        rfl
      · rw [hempty]
        exact List.nodup_nil
  | false =>
      have hlog : (s.next op).log = (recordFailures op.reported s.log).value.2 :=
        (value_perform hop s.log).2
      constructor
      · have hseen : s.log = ⟨s.returned.reverse.map Failure.message⟩ := by
          rw [List.map_reverse, ← h.seen]
        have hkept :
            List.eraseDupsBy.loop Failure.sameMessage s.reported [] = s.returned :=
          h.returned.symm
        rw [returned_next hop, reported_next hop, List.eraseDupsBy, eraseDupsBy_loop_append, hkept,
          recordFailures_loop, List.reverse_reverse, ← hseen]
      · rw [hlog, seen_recordFailures, returned_next hop, h.seen, List.map_append,
          List.reverse_append]
      · rw [hlog]
        exact nodup_seen_recordFailures h.nodup op.reported

end Session

/-- The run of some operations on a fresh log. -/
def session (ops : List Operation) : Session :=
  ops.foldl Session.next ⟨[], empty⟩

/-- Every run is in step. -/
theorem session_inStep (ops : List Operation) :
    (session ops).InStep := by
  induction ops using List.reverseRecOn with
  | nil =>
      exact Session.InStep.start
  | append_singleton ops op ih =>
      rw [session, List.foldl_append]
      exact ih.next op

/-- After every run, the failures returned since the log was last cleared have different messages,
and they are the reported ones without those whose message was reported before.  The log has seen
just their messages, and counts them.  A check whose batch is aborted gives back the abort and
leaves the log as it was, and every operation logs the failures that it gives back. -/
theorem session_returns_each_message_once (ops : List Operation) :
    let s := session ops
    (s.returned.map Failure.message).Nodup ∧
    s.returned = s.reported.eraseDupsBy (fun f g => f.message == g.message) ∧
    s.returned.map Failure.message = (s.reported.map Failure.message).eraseDups ∧
    (∀ message, s.log.hasSeen message = true ↔ message ∈ s.returned.map Failure.message) ∧
    s.log.size = s.returned.length ∧
    (s.log.isEmpty = true ↔ s.log.size = 0) ∧
    (∀ specs subject abort, (Batch.run specs subject).value = .error abort →
      (check specs subject s.log).value = (.error abort, s.log)) ∧
    ∀ op, (perform op s.log).entries.filter (fun entry => entry.event = .failureReported) =
      (perform op s.log).value.1.returned.map fun f =>
        ⟨.error, .failureReported, [("kind", f.kind.name), ("message", f.message)]⟩ := by
  intro s
  have h : s.InStep := session_inStep ops
  refine ⟨?_, h.returned, ?_, ?_, ?_, ?_, ?_, ?_⟩
  · have hnodup := h.nodup
    rwa [h.seen, List.nodup_reverse] at hnodup
  · rw [h.returned]
    exact eraseDupsBy_loop_map_message s.reported []
  · intro message
    rw [hasSeen_iff, h.seen, List.mem_reverse]
  · rw [size, h.seen, List.length_reverse, List.length_map]
  · rw [isEmpty, size, List.isEmpty_iff, List.length_eq_zero_iff]
  · intro specs subject abort habort
    rw [check_of_abort habort]
  · intro op
    exact reports_perform op s.log

/-- A message that a report repeats with another kind is returned once, and once more behind a
clearing; an aborted batch in between changes nothing. -/
theorem session_returns_each_message_once_of_repeated :
    let report := Report.ofFailures? [.plain "a", .invariant "a", .plain "b"]
    let specs : List (String × Slot) := [("x", .factory .shape)]
    let subject : Batch.Subject := ⟨.object 0 none [], "prop", none⟩
    let s := session [.record report, .clear, .record report, .check specs subject, .record report]
    s.returned = [.plain "a", .plain "b"] ∧ s.log.hasSeen "b" = true ∧ s.log.size = 2 ∧
      (check specs subject s.log).value = (.error (subject.abort "x" "function"), s.log) := by
  intro report specs subject s
  obtain ⟨-, hreturned, -, hseen, hsize, -, habort, -⟩ :=
    session_returns_each_message_once
      [.record report, .clear, .record report, .check specs subject, .record report]
  have hfirst : s.returned = [.plain "a", .plain "b"] := by
    rw [hreturned]
    decide +kernel
  refine ⟨hfirst, ?_, ?_, habort specs subject _ rfl⟩
  · rw [hseen, hfirst]
    decide
  · rw [hsize, hfirst]
    rfl

end FailureLog
end ShapeCheck
