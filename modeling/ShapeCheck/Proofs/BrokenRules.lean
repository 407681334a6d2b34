import ShapeCheck.Proofs.Entries
import ShapeCheck.Proofs.Recording

/-!
# Broken rules

A rule of the user's that raises a failure or panics is the last one that is called for its entry,
and what it did comes out of every checker around it as it is.  In the batch it costs its own entry
only.

* `Recorded.KeepsBroken`: the invariant of records that carries this.
* `Slot.invoke_of_broken`: in every tree a broken rule is the last one called, and decides.
* `Slot.exists_ruleCall_of_panicked`: nothing else panics.
* `Batch.broken_rule_costs_its_entry`: what a broken rule does to a batch.
-/

namespace ShapeCheck

/-- A broken answer among the recorded calls is the last one and the answer of the whole. -/
def Recorded.KeepsBroken (x : Recorded) : Prop :=
  ∀ (earlier : List RuleCall) (broken : RuleCall) (later : List RuleCall),
    x.calls = earlier ++ broken :: later → broken.answer.isBroken = true →
    later = [] ∧ x.answer = broken.answer

/-- A panic is the answer of the last recorded call. -/
def Recorded.TracesPanics (x : Recorded) : Prop :=
  ∀ text, x.answer = .panicked text →
    ∃ earlier last, x.calls = earlier ++ [last] ∧ last.answer = .panicked text

namespace Recorded

/-- What follows an answer that is not broken follows only calls that are not. -/
theorem isInvariant_keepsBroken :
    IsInvariant KeepsBroken where
  silent outcome _ := by
    intro earlier broken later h
    have hnil : ([] : List RuleCall) = earlier ++ broken :: later := h
    simp at hnil
  append x y hx hfine hy := by
    intro earlier broken later hcalls hbroken
    have happend : x.calls ++ y.calls = earlier ++ broken :: later := hcalls
    rcases List.append_eq_append_iff.mp happend with
      ⟨middle, -, hsecond⟩ | ⟨middle, hfirst, hrest⟩
    · exact hy middle broken later hsecond hbroken
    -- Among the first calls it would be their answer, and nothing would have been called after it.
    · cases middle with
      | nil =>
          exact hy [] broken later hrest.symm hbroken
      | cons head middle =>
          obtain ⟨rfl, -⟩ := List.cons.inj hrest
          obtain ⟨-, hanswer⟩ := hx earlier broken middle hfirst hbroken
          rw [hanswer, hbroken] at hfine
          cases hfine

theorem isInvariant_tracesPanics :
    IsInvariant TracesPanics where
  silent outcome hpanic := by
    intro text h
    exact absurd h (hpanic text)
  append x y _ _ hy := by
    intro text h
    obtain ⟨earlier, last, hcalls, hlast⟩ := hy text h
    refine ⟨x.calls ++ earlier, last, ?_, hlast⟩
    rw [List.append_assoc, ← hcalls]

end Recorded

namespace Slot

/-- Every tree keeps broken answers: the call of a rule of the user's is the only one that the rule
records. -/
theorem keepsBroken_record (s : Slot) (call : Call) :
    (s.record call).KeepsBroken := by
  refine (record_invariant Recorded.isInvariant_keepsBroken ?_ call).2
  intro label test _ q earlier broken later hcalls _
  have hsingle : [⟨label, q, test q⟩] = earlier ++ broken :: later := hcalls
  cases earlier with
  | nil =>
      obtain ⟨rfl, rfl⟩ := List.cons.inj hsingle
      exact ⟨rfl, rfl⟩
  | cons head earlier =>
      simp at hsingle

/-- A rule that is broken is the last one called for a slot, and the slot answers what it did. -/
theorem invoke_of_broken
    {s : Slot} {call : Call} {earlier later : List RuleCall} {broken : RuleCall}
    (hcalls : s.ruleCalls call = earlier ++ broken :: later)
    (hbroken : broken.answer.isBroken = true) :
    later = [] ∧ s.invoke .standard call = broken.answer := by
  rw [← answer_record]
  exact s.keepsBroken_record call earlier broken later hcalls hbroken

/-- Only a rule of the user's panics, and it is the last one called. -/
theorem exists_ruleCall_of_panicked
    {s : Slot} {call : Call} {text : Option String}
    (h : s.invoke .standard call = .panicked text) :
    ∃ earlier last,
      s.ruleCalls call = earlier ++ [last] ∧ last.answer = .panicked text := by
  have htraces : (s.record call).TracesPanics := by
    refine (record_invariant Recorded.isInvariant_tracesPanics ?_ call).2
    intro label test _ q text htest
    exact ⟨[], _, rfl, htest⟩
  rw [← answer_record] at h
  exact htraces text h

/-- Only what can be called calls rules. -/
theorem isCallable_of_ruleCalls
    {s : Slot} {call : Call} (h : s.ruleCalls call ≠ []) :
    s.isCallable = true := by
  cases s with
  | checker | factory => rfl
  | list | value => exact absurd rfl h

end Slot

namespace Batch

/-- What a broken answer contributes: the failure that was raised, or one with the text of the
panic. -/
theorem exists_contribution_of_isBroken
    {outcome : Outcome} (h : outcome.isBroken = true) (subject : Subject) (name : String) :
    ∃ failure,
      subject.contribution name outcome = .ok (some failure) ∧
      (∀ raised, outcome = .fault (.raised raised) → failure = raised) ∧
      ∀ text, outcome = .panicked text →
        failure.kind = .invariantViolation ∧
        failure.details = ⟨none⟩ ∧
        ∃ lead, failure.message = lead ++ text.getD "unknown panic payload" := by
  cases outcome with
  | pass | fail =>
      cases h
  | fault f =>
      cases f with
      | notAFailure returned =>
          cases h
      | raised failure =>
          refine ⟨failure, rfl, ?_, ?_⟩
          · rintro raised ⟨⟩
            rfl
          · rintro text ⟨⟩
  | panicked text =>
      refine ⟨subject.panickedEntry name text, rfl, ?_, ?_⟩
      · rintro raised ⟨⟩
      · rintro text ⟨⟩
        exact ⟨rfl, rfl, _, rfl⟩

/-- A rule in the tree of an entry that raises a failure or panics is the last one that is called
for this entry, and every checker that it was called for answers what it did.  Unless the batch is
aborted, its entry contributes one failure, which is the one raised or has the text of the panic,
and the other entries contribute what they do without it. -/
theorem broken_rule_costs_its_entry
    {before after : List (String × Slot)} {entry : String × Slot} {subject : Subject}
    {earlier later : List RuleCall} {broken : RuleCall}
    (hcalls : entry.2.ruleCalls (subject.call entry.1) = earlier ++ broken :: later)
    (hbroken : broken.answer.isBroken = true) :
    later = [] ∧
    (∃ test, entry.2.HasRule broken.label test ∧ broken.answer = test broken.query) ∧
    entry.2.invoke .standard (subject.call entry.1) = broken.answer ∧
    (∀ (s : Slot) (call : Call) (first last : List RuleCall),
      s.ruleCalls call = first ++ broken :: last →
      last = [] ∧ s.invoke .standard call = broken.answer) ∧
    ∀ report, (run (before ++ entry :: after) subject).value = .ok report →
      ∃ failure first second,
        (runEntry .standard subject entry).value = .ok (some failure) ∧
        (∀ raised, broken.answer = .fault (.raised raised) → failure = raised) ∧
        (∀ text, broken.answer = .panicked text →
          failure.kind = .invariantViolation ∧
          failure.details = ⟨none⟩ ∧
          ∃ lead, failure.message = lead ++ text.getD "unknown panic payload") ∧
        (runEntries .standard subject before).value = .ok first ∧
        (runEntries .standard subject after).value = .ok second ∧
        report = Report.ofFailures? (first ++ failure :: second) ∧
        (run (before ++ after) subject).value = .ok (Report.ofFailures? (first ++ second)) := by
  obtain ⟨hlater, hinvoke⟩ := Slot.invoke_of_broken hcalls hbroken
  have hmem : broken ∈ entry.2.ruleCalls (subject.call entry.1) := by
    simp [hcalls]
  refine ⟨hlater, Slot.exists_rule_of_mem_ruleCalls hmem, hinvoke, ?_, ?_⟩
  · intro s call first last h
    exact Slot.invoke_of_broken h hbroken
  · intro report hrun
    have hcallable : entry.2.isCallable = true :=
      Slot.isCallable_of_ruleCalls (List.ne_nil_of_mem hmem)
    obtain ⟨failure, hcontribution, hraised, hpanicked⟩ :=
      exists_contribution_of_isBroken hbroken subject entry.1
    have hentry : (runEntry .standard subject entry).value = .ok (some failure) := by
      rw [value_runEntry_of_isCallable hcallable, hinvoke]
      exact hcontribution
    obtain ⟨failures, hfailures, rfl⟩ := value_run_eq_ok_iff.mp hrun
    obtain ⟨first, rest, hfirst, hrest, rfl⟩ := value_runEntries_append_eq_ok_iff.mp hfailures
    rw [runEntries_cons_of_ok hentry] at hrest
    cases hsecond : (runEntries .standard subject after).value with
    | error abort =>
        rw [hsecond] at hrest
        cases hrest
    | ok second =>
        rw [hsecond] at hrest
        obtain rfl : failure :: second = rest := Except.ok.inj hrest
        refine ⟨failure, first, second, hentry, hraised, hpanicked, hfirst, rfl, rfl, ?_⟩
        exact value_run_eq_ok_iff.mpr
          ⟨first ++ second, value_runEntries_append_eq_ok_iff.mpr
            ⟨first, second, hfirst, hsecond, rfl⟩, rfl⟩

/-- A failure raised for an item of an array goes through the choice and the object around it, and
the entry before it keeps its failure. -/
theorem broken_rule_costs_its_entry_below_choice :
    let raised : Failure := .ofType "boom"
    let rule : Rule := .custom "boom" fun _ => .fault (.raised raised)
    let text : Slot := .checker (.primitive "string") false
    let entry : String × Slot :=
      ("list",
        .checker (.shape
          [("items", .checker (.oneOfType
            [text, .checker (.arrayOf (.checker rule false)) false]) false)]) true)
    let subject : Subject :=
      ⟨.object 0 none
        [("name", .bool true), ("list", .object 1 none [("items", .array 2 [.bool true])])],
        "prop", none⟩
    let unexpected : Failure :=
      .expecting
        "Invalid prop `name` of type `boolean` supplied to `<<anonymous>>`, expected `string`."
        "string"
    ∃ broken,
      entry.2.ruleCalls (subject.call entry.1) = [] ++ broken :: [] ∧
      broken.answer.isBroken = true ∧
      (run [("name", text), entry] subject).value =
        .ok (Report.ofFailures? [unexpected, raised]) ∧
      (run [("name", text)] subject).value = .ok (Report.ofFailures? [unexpected]) := by
  intro raised rule text entry subject unexpected
  have hanswers :
      (entry.2.ruleCalls (subject.call entry.1)).map RuleCall.answer =
        [.fault (.raised raised)] := by
    decide +kernel
  obtain ⟨broken, later, hcalls, hanswer, hlater⟩ := List.map_eq_cons_iff.mp hanswers
  obtain rfl := List.map_eq_nil_iff.mp hlater
  have hbroken : broken.answer.isBroken = true := by
    rw [hanswer]
    rfl
  have hrun :
      (run [("name", text), entry] subject).value =
        .ok (Report.ofFailures? [unexpected, raised]) := by
    decide +kernel
  obtain ⟨-, -, -, -, hbatch⟩ :=
    @broken_rule_costs_its_entry [("name", text)] [] entry subject [] [] broken hcalls hbroken
  obtain ⟨failure, first, second, -, hraised, -, -, hsecond, hreport, hrest⟩ := hbatch _ hrun
  have hfailure : failure = raised := hraised raised hanswer
  have hnone : second = [] := (Except.ok.inj hsecond).symm
  rw [hfailure, hnone] at hreport
  have hfirst : first = [unexpected] := by
    have happend : [unexpected] ++ [raised] = first ++ [raised] := by
      simpa using congrArg Report.failuresOf hreport
    exact (List.append_cancel_right happend).symm
  rw [hfirst, hnone] at hrest
  exact ⟨broken, hcalls, hbroken, hrun, hrest⟩

end Batch
end ShapeCheck
