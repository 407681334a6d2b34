import ShapeCheck.Proofs.Entries

/-!
# Batches over parts

A batch over two lists of entries, one behind the other, is put together from the batches over each
of them, log included, and nothing is carried over from one entry to the next.  So the order of the
entries decides the order of the failures and nothing else, as long as no entry aborts the batch.

* `run_append_of_abort`, `run_append_of_ok`: a batch over two parts.
* `value_run_of_ok`: the failures of a batch are what its entries contribute, one by one.
* `run_append_and_perm`: both together, and every order of the entries.
-/

namespace ShapeCheck
namespace Batch

variable {subject : Subject} {first second : List (String × Slot)}

/-- Whether an entry passes: it has a checker, and this checker passes. -/
def Subject.passes (subject : Subject) (entry : String × Slot) : Prop :=
  entry.2.isCallable = true ∧ entry.2.invoke .standard (subject.call entry.1) = .pass

theorem run_append_of_abort
    {abort : Abort} (h : (run first subject).value = .error abort)
    (second : List (String × Slot)) :
    run (first ++ second) subject = run first subject := by
  rw [run_eq, run_eq, runEntries_append_of_error (value_run_eq_error_iff.mp h)]

/-- Behind entries that do not abort the batch, the rest is reported and logged as by itself. -/
theorem run_append_of_ok
    {report : Option Report} (h : (run first subject).value = .ok report)
    (second : List (String × Slot)) :
    run (first ++ second) subject =
      ⟨(run second subject).value.map fun report' =>
          Report.ofFailures? (Report.failuresOf report ++ Report.failuresOf report'),
        (run first subject).entries ++ (run second subject).entries⟩ := by
  obtain ⟨failures, hfailures, rfl⟩ := value_run_eq_ok_iff.mp h
  rw [run_eq, run_eq, run_eq, runEntries_append_of_ok hfailures]
  cases (runEntries .standard subject second).value with
  | error abort => rfl
  | ok failures' => simp [Except.map]

theorem value_runEntry_eq_ok_none_iff {entry : String × Slot} :
    (runEntry .standard subject entry).value = .ok none ↔ subject.passes entry := by
  rw [Subject.passes]
  cases hcallable : entry.2.isCallable with
  | false =>
      simp [value_runEntry_of_not_isCallable hcallable]
  | true =>
      rw [value_runEntry_of_isCallable hcallable]
      rcases entry.2.invoke .standard (subject.call entry.1) with
        _ | failure | (failure | returned) | text <;> simp [Subject.contribution]

/-- An entry that does not abort the batch contributes nothing just when it passes. -/
theorem contributed_eq_none_iff
    {entry : String × Slot} {found : Option Failure}
    (h : (runEntry .standard subject entry).value = .ok found) :
    contributed .standard subject entry = none ↔ subject.passes entry := by
  rw [contributed_of_ok h, ← value_runEntry_eq_ok_none_iff, h, Except.ok.injEq]

/-- Without an abort, what the entries contribute is reported. -/
theorem value_run_of_ok
    {specs : List (String × Slot)}
    (h : ∀ entry ∈ specs, ∃ found, (runEntry .standard subject entry).value = .ok found) :
    (run specs subject).value =
      .ok (Report.ofFailures? (specs.filterMap (contributed .standard subject))) :=
  value_run_eq_ok_iff.mpr ⟨_, value_runEntries_eq_ok h, rfl⟩

/-- Without an abort, nothing is reported when every entry passes, and only then. -/
theorem value_run_eq_ok_none_iff
    {specs : List (String × Slot)}
    (h : ∀ entry ∈ specs, ∃ found, (runEntry .standard subject entry).value = .ok found) :
    (run specs subject).value = .ok none ↔ ∀ entry ∈ specs, subject.passes entry := by
  rw [value_run_of_ok h, Except.ok.injEq, Report.ofFailures?_eq_none_iff,
    List.filterMap_eq_nil_iff]
  refine forall₂_congr fun entry hentry => ?_
  obtain ⟨found, hfound⟩ := h entry hentry
  exact contributed_eq_none_iff hfound

/-- A batch over two parts: an abort of the first part is the abort of the whole, and nothing else
is logged; otherwise the second part is reported behind the first, or aborts the whole, and is
logged behind it.  Where no entry aborts, every entry contributes what it reports by itself, which
is one failure at most, and in every order of the entries these are the failures, in that order;
nothing is reported just when every entry passes. -/
theorem run_append_and_perm (subject : Subject) :
    (∀ (first second : List (String × Slot)),
      (∀ abort, (run first subject).value = .error abort →
        run (first ++ second) subject = run first subject) ∧
      (∀ report abort, (run first subject).value = .ok report →
        (run second subject).value = .error abort →
        (run (first ++ second) subject).value = .error abort ∧
          (run (first ++ second) subject).entries =
            (run first subject).entries ++ (run second subject).entries) ∧
      ∀ report report', (run first subject).value = .ok report →
        (run second subject).value = .ok report' →
        (run (first ++ second) subject).value =
            .ok (Report.ofFailures?
              (Report.failuresOf report ++ Report.failuresOf report')) ∧
          (run (first ++ second) subject).entries =
            (run first subject).entries ++ (run second subject).entries) ∧
    ∀ specs : List (String × Slot),
      (∀ entry ∈ specs, ∃ found, (runEntry .standard subject entry).value = .ok found) →
      (∀ entry ∈ specs, (run [entry] subject).value =
        .ok (Report.ofFailures? (contributed .standard subject entry).toList)) ∧
      ∀ permuted : List (String × Slot), permuted.Perm specs →
        (run permuted subject).value =
            .ok (Report.ofFailures? (permuted.filterMap (contributed .standard subject))) ∧
          ((run permuted subject).value = .ok none ↔
            ∀ entry ∈ specs, entry.2.isCallable = true ∧
              entry.2.invoke .standard (subject.call entry.1) = .pass) ∧
          ∀ report, (run permuted subject).value = .ok (some report) → report.failures ≠ [] := by
  constructor
  · intro first second
    refine ⟨?_, ?_, ?_⟩
    · intro abort habort
      exact run_append_of_abort habort second
    · intro report abort hfirst hsecond
      rw [run_append_of_ok hfirst, hsecond]
      exact ⟨rfl, rfl⟩
    · intro report report' hfirst hsecond
      rw [run_append_of_ok hfirst, hsecond]
      exact ⟨rfl, rfl⟩
  · intro specs hspecs
    constructor
    · intro entry hentry
      have hsingle : ∀ e ∈ [entry],
          ∃ found, (runEntry .standard subject e).value = .ok found := by
        intro e he
        rw [List.mem_singleton.mp he]
        exact hspecs entry hentry
      rw [value_run_of_ok hsingle, List.filterMap_cons, List.filterMap_nil]
      cases contributed .standard subject entry <;> rfl
    · intro permuted hperm
      have hpermuted : ∀ entry ∈ permuted,
          ∃ found, (runEntry .standard subject entry).value = .ok found :=
        fun entry hentry => hspecs entry (hperm.mem_iff.mp hentry)
      refine ⟨value_run_of_ok hpermuted, ?_, fun report _ => report.nonempty⟩
      rw [value_run_eq_ok_none_iff hpermuted]
      exact forall_congr' fun entry => imp_congr_left hperm.mem_iff

/-- A failing entry and one that passes, in front of one that aborts the batch and behind it; and
the first two in the other order. -/
theorem run_append_and_perm_of_pair :
    let text : Slot := .checker (.primitive "string") true
    let first : List (String × Slot) := [("a", text), ("b", text)]
    let second : List (String × Slot) := [("c", .factory .shape), ("d", .value .null)]
    let subject : Subject := ⟨.object 0 none [("b", .string "x")], "prop", some "C"⟩
    let missing : Failure :=
      .ofType "The prop `a` is marked as required in `C`, but its value is `undefined`."
    (run (first ++ second) subject).value = .error (subject.abort "c" "function") ∧
      run (second ++ first) subject = run second subject ∧
      (run first.reverse subject).value = .ok (Report.ofFailures? [missing]) := by
  intro text first second subject missing
  obtain ⟨hparts, horders⟩ := run_append_and_perm subject
  have hfirst : (run first subject).value = .ok (Report.ofFailures? [missing]) := by
    decide +kernel
  have hsecond : (run second subject).value = .error (subject.abort "c" "function") := by
    rfl
  refine ⟨?_, ?_, ?_⟩
  · exact ((hparts first second).2.1 _ _ hfirst hsecond).1
  · exact (hparts second first).1 _ hsecond
  · have hfine : ∀ entry ∈ first,
        ∃ found, (runEntry .standard subject entry).value = .ok found := by
      intro entry hentry
      simp only [first, List.mem_cons, List.not_mem_nil, or_false] at hentry
      obtain rfl | rfl := hentry
      · exact ⟨_, rfl⟩
      · exact ⟨_, rfl⟩
    rw [((horders first hfine).2 first.reverse first.reverse_perm).1]
    decide +kernel

end Batch
end ShapeCheck
