import Mathlib.Data.List.Forall2
import ShapeCheck.Batch

/-!
# Entries of a batch

What each entry contributes to a batch, and how a batch over a list of entries is put together from
the batches over its parts.

* `Batch.value_runEntry_of_isCallable`: the answer of its checker decides what an entry contributes.
* `Batch.runEntries_append_of_ok` and `Batch.runEntries_append_of_error`: a batch over two parts.
* `Batch.value_runEntries_eq_ok`: without an abort, the failures are what the entries contribute.
* `Batch.value_runEntries_eq_error_iff`: a batch is aborted at the first entry that aborts it.
* `Batch.value_run_eq_none_iff`: nothing is reported when no entry contributes anything.
* `Batch.run_of_invoke_eq`: a batch reports and logs the same wherever its slots answer the same.
-/

namespace ShapeCheck
namespace Batch

/-- What the answer of a checker contributes: nothing, one failure, or the end of the batch. -/
def Subject.contribution (subject : Subject) (name : String) :
    Outcome → Except Abort (Option Failure)
  | .pass => .ok none
  | .fail failure => .ok (some failure)
  | .fault (.raised failure) => .ok (some failure)
  | .panicked text => .ok (some (subject.panickedEntry name text))
  | .fault (.notAFailure returned) => .error (subject.abort name returned)

/-- The failure that an entry contributes, if it contributes one. -/
def contributed (guards : Guards) (subject : Subject) (entry : String × Slot) : Option Failure :=
  match (runEntry guards subject entry).value with
  | .ok found => found
  | .error _ => none

section Entry

variable {guards : Guards} {subject : Subject} {entry : String × Slot}

theorem value_settle (subject : Subject) (name : String) (outcome : Outcome) :
    (settleIn Logged subject name outcome).value = subject.contribution name outcome := by
  rcases outcome with _ | failure | (failure | returned) | text <;> rfl

/-- The answer of its checker decides what an entry contributes. -/
theorem value_runEntry_of_isCallable (hcallable : entry.2.isCallable = true) :
    (runEntry guards subject entry).value =
      subject.contribution entry.1 (entry.2.invoke guards (subject.call entry.1)) := by
  rw [runEntry_of_isCallable hcallable, value_settle]

/-- An entry without a checker contributes a failure. -/
theorem value_runEntry_of_not_isCallable (hcallable : entry.2.isCallable = false) :
    (runEntry guards subject entry).value =
      .ok (some (subject.invalidEntry entry.1 entry.2.typeOf)) := by
  rw [runEntry_of_not_isCallable hcallable]
  rfl

theorem contributed_of_ok
    {found : Option Failure} (h : (runEntry guards subject entry).value = .ok found) :
    contributed guards subject entry = found := by
  rw [contributed, h]

/-- An entry aborts the batch when its checker answers with neither a pass nor a failure. -/
theorem value_runEntry_eq_error_iff {abort : Abort} :
    (runEntry guards subject entry).value = .error abort
      ↔
    entry.2.isCallable = true ∧
      ∃ returned,
        entry.2.invoke guards (subject.call entry.1) = .fault (.notAFailure returned) ∧
        abort = subject.abort entry.1 returned := by
  cases hcallable : entry.2.isCallable with
  | false =>
      simp [value_runEntry_of_not_isCallable hcallable]
  | true =>
      rw [value_runEntry_of_isCallable hcallable]
      rcases entry.2.invoke guards (subject.call entry.1) with
        _ | failure | (failure | returned) | text
      case fault.notAFailure =>
        simp [Subject.contribution, eq_comm]
      all_goals simp [Subject.contribution]

end Entry

section Entries

variable {guards : Guards} {subject : Subject} {before : List (String × Slot)}

/-- Batches whose entries do the same, one by one, do the same. -/
theorem runEntries_congr
    {guards' : Guards} {subject' : Subject} {entries : List (String × Slot)}
    (h : ∀ entry ∈ entries, runEntry guards subject entry = runEntry guards' subject' entry) :
    runEntries guards subject entries = runEntries guards' subject' entries := by
  induction entries with
  | nil =>
      rfl
  | cons entry rest ih =>
      obtain ⟨hentry, hrest⟩ := List.forall_mem_cons.mp h
      rw [runEntries_cons, runEntries_cons, hentry, ih hrest]

/-- Behind entries that do not abort, the batch goes on with the failures found so far. -/
theorem runEntries_append_of_ok
    {failures : List Failure}
    (h : (runEntries guards subject before).value = .ok failures)
    (after : List (String × Slot)) :
    runEntries guards subject (before ++ after) =
      ⟨(runEntries guards subject after).value.map (failures ++ ·),
        (runEntries guards subject before).entries ++
          (runEntries guards subject after).entries⟩ := by
  induction before generalizing failures with
  | nil =>
      obtain rfl : [] = failures := Except.ok.inj h
      apply Logged.ext
      · cases hafter : (runEntries guards subject after).value <;> simp [hafter, Except.map]
      · simp
  | cons entry before ih =>
      cases hentry : (runEntry guards subject entry).value with
      | error abort =>
          rw [runEntries_cons_of_abort hentry] at h
          cases h
      | ok found =>
          rw [runEntries_cons_of_ok hentry] at h
          cases hbefore : (runEntries guards subject before).value with
          | error abort =>
              rw [hbefore] at h
              cases h
          | ok rest =>
              rw [hbefore] at h
              obtain rfl : found.toList ++ rest = failures := Except.ok.inj h
              rw [List.cons_append, runEntries_cons_of_ok hentry, runEntries_cons_of_ok hentry,
                ih hbefore]
              apply Logged.ext
              · cases (runEntries guards subject after).value <;> simp [Except.map]
              · simp

/-- Behind an entry that aborts, no entry changes anything. -/
theorem runEntries_append_of_error
    {abort : Abort}
    (h : (runEntries guards subject before).value = .error abort)
    (after : List (String × Slot)) :
    runEntries guards subject (before ++ after) = runEntries guards subject before := by
  induction before generalizing abort with
  | nil =>
      cases h
  | cons entry before ih =>
      cases hentry : (runEntry guards subject entry).value with
      | error abort' =>
          rw [List.cons_append, runEntries_cons_of_abort hentry, runEntries_cons_of_abort hentry]
      | ok found =>
          rw [runEntries_cons_of_ok hentry] at h
          cases hbefore : (runEntries guards subject before).value with
          | error abort' =>
              rw [List.cons_append, runEntries_cons_of_ok hentry, runEntries_cons_of_ok hentry,
                ih hbefore]
          | ok failures =>
              rw [hbefore] at h
              cases h

/-- A batch over two parts is not aborted when neither part is, and finds what the parts find. -/
theorem value_runEntries_append_eq_ok_iff
    {after : List (String × Slot)} {failures : List Failure} :
    (runEntries guards subject (before ++ after)).value = .ok failures
      ↔
    ∃ first second,
      (runEntries guards subject before).value = .ok first ∧
      (runEntries guards subject after).value = .ok second ∧
      failures = first ++ second := by
  cases hbefore : (runEntries guards subject before).value with
  | error abort =>
      rw [runEntries_append_of_error hbefore, hbefore]
      simp
  | ok first =>
      rw [runEntries_append_of_ok hbefore]
      cases (runEntries guards subject after).value with
      | error abort => simp [Except.map]
      | ok second => simp [Except.map, eq_comm]

/-- Without an abort every entry contributes in turn. -/
theorem value_runEntries_eq_ok
    {entries : List (String × Slot)}
    (h : ∀ entry ∈ entries, ∃ found, (runEntry guards subject entry).value = .ok found) :
    (runEntries guards subject entries).value =
      .ok (entries.filterMap (contributed guards subject)) := by
  induction entries with
  | nil =>
      rfl
  | cons entry rest ih =>
      obtain ⟨⟨found, hfound⟩, hrest⟩ := List.forall_mem_cons.mp h
      rw [runEntries_cons_of_ok hfound, ih hrest]
      cases found with
      | none => simp [Except.map, contributed_of_ok hfound]
      | some failure => simp [Except.map, contributed_of_ok hfound]

/-- Where a batch is not aborted, no entry aborts it. -/
theorem exists_found_of_ok
    {entries : List (String × Slot)} {failures : List Failure}
    (h : (runEntries guards subject entries).value = .ok failures) :
    ∀ entry ∈ entries, ∃ found, (runEntry guards subject entry).value = .ok found := by
  intro entry hentry
  obtain ⟨before, after, rfl⟩ := List.append_of_mem hentry
  obtain ⟨-, second, -, hsecond, -⟩ := value_runEntries_append_eq_ok_iff.mp h
  cases hvalue : (runEntry guards subject entry).value with
  | error abort =>
      rw [runEntries_cons_of_abort hvalue] at hsecond
      cases hsecond
  | ok found =>
      exact ⟨found, rfl⟩

/-- A batch finds nothing when every entry contributes nothing, and only then. -/
theorem value_runEntries_eq_ok_nil_iff {entries : List (String × Slot)} :
    (runEntries guards subject entries).value = .ok [] ↔
      ∀ entry ∈ entries, (runEntry guards subject entry).value = .ok none := by
  induction entries with
  | nil =>
      simp
  | cons entry rest ih =>
      rw [List.forall_mem_cons]
      cases hentry : (runEntry guards subject entry).value with
      | error abort =>
          rw [runEntries_cons_of_abort hentry]
          simp
      | ok found =>
          rw [runEntries_cons_of_ok hentry, ← ih]
          cases (runEntries guards subject rest).value <;> cases found <;> simp [Except.map]

/-- A batch is aborted at the first entry that aborts it. -/
theorem value_runEntries_eq_error_iff {abort : Abort} (entries : List (String × Slot)) :
    (runEntries guards subject entries).value = .error abort
      ↔
    ∃ before entry after,
      entries = before ++ entry :: after ∧
      (∀ e ∈ before, ∃ found, (runEntry guards subject e).value = .ok found) ∧
      (runEntry guards subject entry).value = .error abort := by
  constructor
  · intro h
    induction entries with
    | nil =>
        cases h
    | cons entry rest ih =>
        cases hentry : (runEntry guards subject entry).value with
        | error abort' =>
            rw [runEntries_cons_of_abort hentry] at h
            obtain rfl : abort' = abort := Except.error.inj h
            exact ⟨[], entry, rest, rfl, by simp, hentry⟩
        | ok found =>
            rw [runEntries_cons_of_ok hentry] at h
            have hrest : (runEntries guards subject rest).value = .error abort := by
              cases hrest : (runEntries guards subject rest).value with
              | ok failures =>
                  rw [hrest] at h
                  cases h
              | error abort' =>
                  rw [hrest] at h
                  exact h
            obtain ⟨before, e, after, rfl, hbefore, he⟩ := ih hrest
            refine ⟨entry :: before, e, after, rfl, ?_, he⟩
            exact List.forall_mem_cons.mpr ⟨⟨found, hentry⟩, hbefore⟩
  · rintro ⟨before, entry, after, rfl, hbefore, hentry⟩
    rw [runEntries_append_of_ok (value_runEntries_eq_ok hbefore), runEntries_cons_of_abort hentry]
    rfl

/-- When each entry passes or contributes a failure, the failures are those of the entries that do
not pass, in the order of the entries. -/
theorem exists_failures
    {passes : String × Slot → Bool} {entries : List (String × Slot)}
    (h : ∀ entry ∈ entries, ∃ found,
      (runEntry guards subject entry).value = .ok found ∧
        (found = none ↔ passes entry = true)) :
    ∃ failures,
      (runEntries guards subject entries).value = .ok failures ∧
      List.Forall₂
        (fun entry failure => (runEntry guards subject entry).value = .ok (some failure))
        (entries.filter fun entry => !passes entry) failures := by
  induction entries with
  | nil =>
      exact ⟨[], rfl, List.Forall₂.nil⟩
  | cons entry rest ih =>
      obtain ⟨⟨found, hfound, hpasses⟩, hrest⟩ := List.forall_mem_cons.mp h
      obtain ⟨failures, hfailures, hall⟩ := ih hrest
      refine ⟨found.toList ++ failures, ?_, ?_⟩
      · rw [runEntries_cons_of_ok hfound, hfailures]
        rfl
      · cases found with
        | none =>
            have hentry : passes entry = true := hpasses.mp rfl
            simpa [hentry] using hall
        | some failure =>
            have hentry : passes entry = false := by
              rw [← Bool.not_eq_true, ← hpasses]
              simp
            simpa [hentry] using ⟨hfound, hall⟩

end Entries

/-- A batch reports the failures of its entries and logs what they log. -/
theorem run_eq (specs : List (String × Slot)) (subject : Subject) :
    run specs subject =
      ⟨(runEntries .standard subject specs).value.map Report.ofFailures?,
        (runEntries .standard subject specs).entries⟩ := by
  apply Logged.ext
  · rfl
  · exact List.append_nil _

section Answers

variable {subject subject' : Subject}
  (hlocation : subject'.location = subject.location) (htitle : subject'.title = subject.title)
include hlocation htitle

/-- An entry contributes and logs the same for two subjects of one name and location when its slot
gives both the same answer. -/
theorem runEntry_of_invoke_eq
    {entry : String × Slot}
    (h : entry.2.invoke .standard (subject'.call entry.1) =
      entry.2.invoke .standard (subject.call entry.1)) :
    runEntry .standard subject' entry = runEntry .standard subject entry := by
  have hinvalid (found : Tag) :
      subject'.invalidEntry entry.1 found = subject.invalidEntry entry.1 found := by
    rw [Subject.invalidEntry, Subject.invalidEntry, htitle, hlocation]
  have hpanicked (text : Option String) :
      subject'.panickedEntry entry.1 text = subject.panickedEntry entry.1 text := by
    rw [Subject.panickedEntry, Subject.panickedEntry, htitle, hlocation]
  have habort (returned : String) :
      subject'.abort entry.1 returned = subject.abort entry.1 returned := by
    rw [Subject.abort, Subject.abort, htitle, hlocation]
  cases hcallable : entry.2.isCallable with
  | false =>
      rw [runEntry_of_not_isCallable hcallable, runEntry_of_not_isCallable hcallable, refuseIn,
        refuseIn, hinvalid, hlocation]
  | true =>
      rw [runEntry_of_isCallable hcallable, runEntry_of_isCallable hcallable, h]
      generalize entry.2.invoke .standard (subject.call entry.1) = outcome
      rcases outcome with _ | failure | (failure | returned) | text
      all_goals simp only [settleIn, hpanicked, habort]

/-- A batch reports and logs the same for two such subjects. -/
theorem run_of_invoke_eq
    {specs : List (String × Slot)}
    (h : ∀ entry ∈ specs,
      entry.2.invoke .standard (subject'.call entry.1) =
        entry.2.invoke .standard (subject.call entry.1)) :
    run specs subject' = run specs subject := by
  have hentries : runEntries .standard subject' specs = runEntries .standard subject specs :=
    runEntries_congr fun entry hentry => runEntry_of_invoke_eq hlocation htitle (h entry hentry)
  rw [run_eq, run_eq, hentries]

end Answers

theorem value_run_eq_ok_iff
    {specs : List (String × Slot)} {subject : Subject} {report : Option Report} :
    (run specs subject).value = .ok report
      ↔
    ∃ failures,
      (runEntries .standard subject specs).value = .ok failures ∧
      report = Report.ofFailures? failures := by
  rw [run_eq]
  cases (runEntries .standard subject specs).value <;> simp [Except.map, eq_comm]

/-- Nothing is reported when every entry contributes nothing, and only then. -/
theorem value_run_eq_none_iff {specs : List (String × Slot)} {subject : Subject} :
    (run specs subject).value = .ok none ↔
      ∀ entry ∈ specs, (runEntry .standard subject entry).value = .ok none := by
  rw [value_run_eq_ok_iff, ← value_runEntries_eq_ok_nil_iff]
  constructor
  · rintro ⟨failures, hrun, hnone⟩
    rw [hrun, (Report.ofFailures?_eq_none_iff failures).mp hnone.symm]
  · intro hrun
    exact ⟨[], hrun, rfl⟩

theorem value_run_eq_error_iff
    {specs : List (String × Slot)} {subject : Subject} {abort : Abort} :
    (run specs subject).value = .error abort
      ↔
    (runEntries .standard subject specs).value = .error abort := by
  rw [run_eq]
  cases (runEntries .standard subject specs).value <;> simp [Except.map]

end Batch
end ShapeCheck
