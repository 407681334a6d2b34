import ShapeCheck.Proofs.BrokenRules
import ShapeCheck.Proofs.Locality

/-!
# Names decide nothing

The component, the location and the path of a question are for messages.  Asked twice about one
property, under whatever names, a tree without rules of the user's rules alike: it passes, fails,
raises or answers with neither both times, and what it says differs in its wording at most.

* `Outcome.ruling`: an answer without its wording.
* `Rule.ruling_test`: a rule rules alike when its slots do.
* `Slot.ruling_invoke`: every tree without rules of the user's does.
* `Batch.names_decide_nothing`: batches that differ in component and location are aborted by the
  same entry, or report the same entries.
-/

namespace ShapeCheck

/-- What an answer says about a value, apart from its wording. -/
inductive Ruling where
  | pass
  | fail (kind : FailureKind) (details : FailureDetails)
  | raised (kind : FailureKind) (details : FailureDetails)
  | notAFailure (returned : String)
  | panicked
deriving DecidableEq

namespace Outcome

/-- An answer without its wording. -/
def ruling : Outcome → Ruling
  | pass => .pass
  | fail failure => .fail failure.kind failure.details
  | fault (.raised failure) => .raised failure.kind failure.details
  | fault (.notAFailure returned) => .notAFailure returned
  | panicked _ => .panicked

theorem ruling_eq_pass_iff {outcome : Outcome} :
    outcome.ruling = .pass ↔ outcome = .pass := by
  rcases outcome with _ | _ | (_ | _) | _ <;> simp [ruling]

theorem ruling_eq_panicked_iff {outcome : Outcome} :
    outcome.ruling = .panicked ↔ ∃ text, outcome = .panicked text := by
  rcases outcome with _ | _ | (_ | _) | _ <;> simp [ruling]

@[simp] theorem ruling_plain (message : String) :
    (fail (.plain message)).ruling = .fail .error ⟨none⟩ := by
  rfl

@[simp] theorem ruling_expecting (message expected : String) :
    (fail (.expecting message expected)).ruling = .fail .error ⟨some expected⟩ := by
  rfl

@[simp] theorem ruling_ofType (message : String) :
    (fail (.ofType message)).ruling = .fail .typeError ⟨none⟩ := by
  rfl

@[simp] theorem ruling_raised_ofType (message : String) :
    (fault (.raised (.ofType message))).ruling = .raised .typeError ⟨none⟩ := by
  rfl

@[simp] theorem ruling_raised_invariant (message : String) :
    (fault (.raised (.invariant message))).ruling = .raised .invariantViolation ⟨none⟩ := by
  rfl

/-- Two answers of one ruling, case by case. -/
inductive Alike : Outcome → Outcome → Prop
  | pass :
      Alike pass pass
  | fail
      {failure failure' : Failure}
      (hkind : failure'.kind = failure.kind) (hdetails : failure'.details = failure.details) :
      Alike (fail failure) (fail failure')
  | raised
      {failure failure' : Failure}
      (hkind : failure'.kind = failure.kind) (hdetails : failure'.details = failure.details) :
      Alike (fault (.raised failure)) (fault (.raised failure'))
  | notAFailure (returned : String) :
      Alike (fault (.notAFailure returned)) (fault (.notAFailure returned))
  | panicked (text text' : Option String) :
      Alike (panicked text) (panicked text')

theorem alike_of_ruling {outcome outcome' : Outcome} (h : outcome'.ruling = outcome.ruling) :
    outcome.Alike outcome' := by
  rcases outcome with _ | failure | (failure | returned) | text <;>
    rcases outcome' with _ | failure' | (failure' | returned') | text'
  case pass.pass =>
    exact .pass
  case fail.fail =>
    obtain ⟨hkind, hdetails⟩ := Ruling.fail.inj h
    exact .fail hkind hdetails
  case fault.raised.fault.raised =>
    obtain ⟨hkind, hdetails⟩ := Ruling.raised.inj h
    exact .raised hkind hdetails
  case fault.notAFailure.fault.notAFailure =>
    obtain rfl := Ruling.notAFailure.inj h
    exact .notAFailure returned'
  case panicked.panicked =>
    exact .panicked text text'
  all_goals
    cases h

/-- To overlook what is neither a pass nor a failure takes no wording. -/
theorem ruling_forgiven
    {outcome outcome' : Outcome} (h : outcome'.ruling = outcome.ruling) :
    outcome'.forgiven.ruling = outcome.forgiven.ruling := by
  cases alike_of_ruling h with
  | notAFailure => rfl
  | pass | fail | raised | panicked => exact h

end Outcome

section Loops

variable {α : Type} {test test' : α → Outcome} {l : List α}

/-- Runs of tests that rule alike, one by one, rule alike. -/
theorem ruling_allPass (h : ∀ a ∈ l, (test' a).ruling = (test a).ruling) :
    (allPass test' l).ruling = (allPass test l).ruling := by
  induction l with
  | nil =>
      rfl
  | cons a rest ih =>
      obtain ⟨ha, hrest⟩ := List.forall_mem_cons.mp h
      by_cases hpass : test a = .pass
      · have hpass' : test' a = .pass := by
          rw [← Outcome.ruling_eq_pass_iff, ha, hpass]
          rfl
        rw [allPass_cons_of_pass hpass, allPass_cons_of_pass hpass', ih hrest]
      · have hpass' : test' a ≠ .pass := by
          rw [ne_eq, ← Outcome.ruling_eq_pass_iff, ha, Outcome.ruling_eq_pass_iff]
          exact hpass
        rw [allPass_cons_of_ne_pass hpass, allPass_cons_of_ne_pass hpass', ha]

theorem ruling_noneFails (h : ∀ a ∈ l, (test' a).ruling = (test a).ruling) :
    (noneFails test' l).ruling = (noneFails test l).ruling := by
  rw [noneFails_eq_allPass, noneFails_eq_allPass]
  exact ruling_allPass fun a ha => Outcome.ruling_forgiven (h a ha)

end Loops

/-! ### Questions about one property -/

/-- Two questions are about one property, perhaps under different names. -/
structure Query.SameProperty (q q' : Query) : Prop where
  props : q'.props = q.props
  name : q'.name = q.name

/-- Two calls are on one property, from one place. -/
structure Call.SameProperty (call call' : Call) : Prop where
  props : call'.props = call.props
  name : call'.name = call.name
  caller : call'.caller = call.caller

namespace Query.SameProperty

variable {q q' : Query} (h : q.SameProperty q')
include h

theorem value : q'.value = q.value := by
  rw [Query.value, h.props, h.name]
  rfl

theorem forward : q.forward.SameProperty q'.forward where
  props := h.props
  name := h.name
  caller := rfl

theorem item (index : Nat) : (q.item index).SameProperty (q'.item index) where
  props := h.value
  name := rfl
  caller := rfl

theorem member (key : String) : (q.member key).SameProperty (q'.member key) where
  props := h.value
  name := rfl
  caller := rfl

end Query.SameProperty

theorem Call.SameProperty.query
    {call call' : Call} (h : call.SameProperty call') :
    call.query.SameProperty call'.query where
  props := h.props
  name := h.name

/-! ### Trees -/

/-- A slot rules alike in all calls on one property. -/
def Slot.IgnoresNames (s : Slot) : Prop :=
  ∀ call call' : Call, call.SameProperty call' →
    (s.invoke .standard call').ruling = (s.invoke .standard call).ruling

namespace Rule

variable {q q' : Query} (h : q.SameProperty q')
include h

/-- A choice asks its alternatives about the same property, and what it collects from failures is
no wording. -/
theorem ruling_testAlternatives
    {alternatives : List Slot} (halternatives : ∀ a ∈ alternatives, a.IgnoresNames)
    (tried : Nat) (expected : List String) :
    (testAlternatives tried expected q' (alternatives.map (Slot.view .standard))).ruling =
      (testAlternatives tried expected q (alternatives.map (Slot.view .standard))).ruling := by
  induction alternatives generalizing tried expected with
  | nil =>
      simp [testAlternatives, Wording.noAlternative]
  | cons a rest ih =>
      obtain ⟨ha, hrest⟩ := List.forall_mem_cons.mp halternatives
      have hruling := ha q.forward q'.forward h.forward
      rw [List.map_cons, testAlternatives_cons, testAlternatives_cons, Slot.view_invoke]
      generalize a.invoke .standard q.forward = outcome at hruling ⊢
      generalize a.invoke .standard q'.forward = outcome' at hruling ⊢
      cases Outcome.alike_of_ruling hruling with
      | fail hkind hdetails =>
          simp only [hdetails]
          exact ih hrest _ _
      | pass | raised | panicked =>
          exact hruling
      | notAFailure returned =>
          simp [Wording.alternativeNotAFailure]

theorem ruling_testField
    {slot : Slot} (hslot : slot.IgnoresNames) (key : String) :
    (testField q' key (slot.view .standard)).ruling =
      (testField q key (slot.view .standard)).ruling := by
  rw [testField, testField]
  split
  · exact hslot _ _ (h.member key)
  · simp [Wording.invalidField]

theorem ruling_testKey
    {fields : List (String × Slot)} (hfields : ∀ field ∈ fields, field.2.IgnoresNames)
    (key : String) :
    (testKey .standard fields q' key).ruling = (testKey .standard fields q key).ruling := by
  rw [testKey, testKey]
  cases hget : Keyed.get? fields key with
  | none => simp [Wording.undeclaredKey]
  | some slot => exact ruling_testField h (hfields _ (Keyed.mem_of_get?_eq_some hget)) key

/-- A rule of the library's rules alike when its slots do: it reads one property, and the names only
go into messages and on to its slots. -/
theorem ruling_test
    {rule : Rule} {required : Bool}
    (hrule : (Slot.checker rule required).isNoRule = true)
    (hslots : ∀ child ∈ rule.slots, child.IgnoresNames) :
    (rule.test .standard q').ruling = (rule.test .standard q).ruling := by
  have hvalue := h.value
  cases rule with
  | inert | any =>
      rfl
  | primitive type =>
      rw [test_eq_testPrimitive, testPrimitive, testPrimitive, hvalue]
      split <;> simp [Wording.wrongType]
  | instanceOf cls =>
      rw [test_eq_testInstanceOf, testInstanceOf, testInstanceOf, hvalue]
      split <;> simp [Wording.notAnInstance]
  | oneOf allowed =>
      rw [test_eq_testOneOf, testOneOf, testOneOf, hvalue]
      split <;> simp [Wording.notAllowed]
  | arrayOf item =>
      rw [test_arrayOf, test_arrayOf, hvalue]
      split
      · cases q.value.items? with
        | none =>
            simp [Wording.notAnArray]
        | some items =>
            exact ruling_noneFails fun index _ => hslots item (by simp [slots]) _ _ (h.item index)
      · simp [Wording.invalidNotation]
  | objectOf item =>
      rw [test_objectOf, test_objectOf, hvalue]
      split
      · split
        · exact ruling_noneFails fun key _ => hslots item (by simp [slots]) _ _ (h.member key)
        · simp [Wording.notAMap]
      · simp [Wording.invalidNotation]
  | oneOfType alternatives =>
      rw [test_eq_testOneOfType]
      exact ruling_testAlternatives h hslots 0 []
  | shape fields =>
      rw [test_shape, test_shape, hvalue]
      split
      · exact ruling_allPass fun field hfield =>
          ruling_testField h (hslots field.2 (List.mem_map_of_mem hfield)) field.1
      · simp [Wording.notAnObject]
  | exact fields =>
      rw [test_exact, test_exact, hvalue]
      split
      · exact ruling_allPass fun key _ =>
          ruling_testKey h (fun field hfield => hslots field.2 (List.mem_map_of_mem hfield)) key
      · simp [Wording.notAnObject]
  | custom label test =>
      cases hrule

end Rule

namespace Slot

/-- Every tree without rules of the user's rules alike in all calls on one property. -/
theorem ruling_invoke {s : Slot} (hfree : s.isRuleFree = true) :
    s.IgnoresNames := by
  induction s using Slot.induction with
  | checker rule required ih =>
      obtain ⟨hrule, hchildren⟩ := every_checker hfree
      have hslots : ∀ child ∈ rule.slots, child.IgnoresNames :=
        fun child hchild => ih child hchild (hchildren child hchild)
      intro call call' h
      simp only [invoke_checker, Checker.guarded, Answer.ofOutcome_outcome]
      rw [h.caller, h.props, h.query.value]
      split
      · rfl
      · split
        · rfl
        · split
          · simp [Guards.standard, Wording.noContainer]
          · split
            · split <;> simp [Wording.missing]
            · exact Rule.ruling_test h.query hrule hslots
  | factory f =>
      intro call call' _
      rfl
  | list items | value v =>
      intro call call' _
      simp [invoke_list, invoke_value, Guards.standard, Wording.notCallable]

theorem not_hasRule_of_isRuleFree
    {s : Slot} {label : String} {test : Query → Outcome} (h : s.HasRule label test) :
    s.isRuleFree = false := by
  rw [← Bool.not_eq_true]
  intro hfree
  induction h with
  | here required =>
      exact Bool.false_ne_true (every_checker hfree).1
  | under hchild _ ih =>
      exact ih ((every_checker hfree).2 _ hchild)

/-- Without rules of the user's nothing panics. -/
theorem ruling_ne_panicked {s : Slot} (hfree : s.isRuleFree = true) (call : Call) :
    (s.invoke .standard call).ruling ≠ .panicked := by
  intro h
  obtain ⟨text, hpanicked⟩ := Outcome.ruling_eq_panicked_iff.mp h
  obtain ⟨earlier, last, hcalls, -⟩ := exists_ruleCall_of_panicked hpanicked
  have hlast : last ∈ s.ruleCalls call := by simp [hcalls]
  obtain ⟨test, hrule, -⟩ := exists_rule_of_mem_ruleCalls hlast
  rw [not_hasRule_of_isRuleFree hrule] at hfree
  cases hfree

end Slot

/-! ### Batches -/

/-- A failure without its wording. -/
def Failure.nature (failure : Failure) : FailureKind × FailureDetails :=
  (failure.kind, failure.details)

namespace Batch

/-- What an entry contributes, without its wording: the type of what aborts the batch, or the nature
of a failure. -/
def wordless : Except Abort (Option Failure) → Except String (Option (FailureKind × FailureDetails))
  | .error abort => .error abort.returned
  | .ok found => .ok (found.map Failure.nature)

section Subjects

variable {subject subject' : Subject}

/-- What an answer contributes follows from the answer without its wording. -/
theorem wordless_contribution
    {outcome outcome' : Outcome} (h : outcome'.ruling = outcome.ruling) (name : String) :
    wordless (subject'.contribution name outcome') =
      wordless (subject.contribution name outcome) := by
  cases Outcome.alike_of_ruling h with
  | fail hkind hdetails | raised hkind hdetails =>
      simp [Subject.contribution, wordless, Failure.nature, hkind, hdetails]
  | pass | notAFailure | panicked =>
      rfl

variable (hvalues : subject'.values = subject.values)
include hvalues

theorem sameProperty_call (name : String) :
    (subject.call name).SameProperty (subject'.call name) where
  props := hvalues
  name := rfl
  caller := rfl

/-- For two subjects with one value, an entry contributes the same but for the wording. -/
theorem wordless_runEntry {entry : String × Slot} (hfree : entry.2.isRuleFree = true) :
    wordless (runEntry .standard subject' entry).value =
      wordless (runEntry .standard subject entry).value := by
  cases hcallable : entry.2.isCallable with
  | false =>
      rw [value_runEntry_of_not_isCallable hcallable, value_runEntry_of_not_isCallable hcallable]
      rfl
  | true =>
      rw [value_runEntry_of_isCallable hcallable, value_runEntry_of_isCallable hcallable]
      exact wordless_contribution
        (Slot.ruling_invoke hfree _ _ (sameProperty_call hvalues entry.1)) entry.1

/-- Where an entry does not abort the batch for one subject, it does not for the other. -/
theorem exists_found_of_values
    {entry : String × Slot} (hfree : entry.2.isRuleFree = true)
    (h : ∃ found, (runEntry .standard subject entry).value = .ok found) :
    ∃ found, (runEntry .standard subject' entry).value = .ok found := by
  obtain ⟨found, hfound⟩ := h
  have hsame := wordless_runEntry hvalues hfree
  rw [hfound] at hsame
  cases hvalue : (runEntry .standard subject' entry).value with
  | error abort =>
      rw [hvalue] at hsame
      cases hsame
  | ok found' =>
      exact ⟨found', rfl⟩

/-- An entry that aborts the batch for one subject aborts it for the other, with an answer of the
same type. -/
theorem value_runEntry_eq_error_of_values
    {entry : String × Slot} (hfree : entry.2.isRuleFree = true) {returned : String}
    (h : (runEntry .standard subject entry).value = .error (subject.abort entry.1 returned)) :
    (runEntry .standard subject' entry).value = .error (subject'.abort entry.1 returned) := by
  have hsame := wordless_runEntry hvalues hfree
  rw [h] at hsame
  cases hvalue : (runEntry .standard subject' entry).value with
  | ok found =>
      rw [hvalue] at hsame
      cases hsame
  | error abort =>
      obtain ⟨-, returned', -, rfl⟩ := value_runEntry_eq_error_iff.mp hvalue
      rw [hvalue] at hsame
      obtain rfl : returned' = returned := Except.error.inj hsame
      rfl

/-- What an entry contributes is of the same nature for both subjects, if it is anything. -/
theorem nature_contributed {entry : String × Slot} (hfree : entry.2.isRuleFree = true) :
    (contributed .standard subject' entry).map Failure.nature =
      (contributed .standard subject entry).map Failure.nature := by
  have hsame := wordless_runEntry hvalues hfree
  rw [contributed, contributed]
  cases hvalue : (runEntry .standard subject entry).value <;>
    cases hvalue' : (runEntry .standard subject' entry).value <;>
    simp_all [wordless]

end Subjects

/-- Names decide nothing.  In all calls on one property, whatever the component, the location and
the path, a tree without rules of the user's rules alike.  For two subjects with one value, a batch
is aborted by the same entry, or reports what its entries contribute, and each contributes nothing
to both or failures of one kind with the same details. -/
theorem names_decide_nothing :
    (∀ (s : Slot) (props : Value) (name location location' : String)
      (component component' fullName fullName' : Option String),
      s.isRuleFree = true →
      let answer := s.invoke .standard ⟨props, name, component, location, fullName, .batch⟩
      let answer' := s.invoke .standard ⟨props, name, component', location', fullName', .batch⟩
      answer'.ruling = answer.ruling ∧ answer.ruling ≠ .panicked) ∧
    ∀ (specs : List (String × Slot)) (values : Value) (location location' : String)
      (component component' : Option String),
      (∀ entry ∈ specs, entry.2.isRuleFree = true) →
      let subject : Subject := ⟨values, location, component⟩
      let subject' : Subject := ⟨values, location', component'⟩
      (∀ abort, (run specs subject).value = .error abort →
        ∃ before entry after returned,
          specs = before ++ entry :: after ∧
          (∀ e ∈ before,
            (∃ found, (runEntry .standard subject e).value = .ok found) ∧
            ∃ found, (runEntry .standard subject' e).value = .ok found) ∧
          abort = subject.abort entry.1 returned ∧
          (run specs subject').value = .error (subject'.abort entry.1 returned)) ∧
      ∀ report, (run specs subject).value = .ok report →
        ∃ report', (run specs subject').value = .ok report' ∧
          Report.failuresOf report = specs.filterMap (contributed .standard subject) ∧
          Report.failuresOf report' = specs.filterMap (contributed .standard subject') ∧
          ∀ entry ∈ specs,
            (contributed .standard subject' entry).map Failure.nature =
              (contributed .standard subject entry).map Failure.nature := by
  constructor
  · intro s props name location location' component component' fullName fullName' hfree
    exact ⟨Slot.ruling_invoke hfree _ _ ⟨rfl, rfl, rfl⟩, Slot.ruling_ne_panicked hfree _⟩
  · intro specs values location location' component component' hfree subject subject'
    have hvalues : subject'.values = subject.values := rfl
    constructor
    · intro abort habort
      obtain ⟨before, entry, after, rfl, hbefore, hentry⟩ :=
        (value_runEntries_eq_error_iff specs).mp (value_run_eq_error_iff.mp habort)
      obtain ⟨-, returned, -, rfl⟩ := value_runEntry_eq_error_iff.mp hentry
      rw [List.forall_mem_append, List.forall_mem_cons] at hfree
      have hbefore' (e : String × Slot) (he : e ∈ before) :=
        exists_found_of_values hvalues (hfree.1 e he) (hbefore e he)
      refine ⟨before, entry, after, returned, rfl, ?_, rfl, ?_⟩
      · exact fun e he => ⟨hbefore e he, hbefore' e he⟩
      · exact value_run_eq_error_iff.mpr <| (value_runEntries_eq_error_iff _).mpr
          ⟨before, entry, after, rfl, hbefore',
            value_runEntry_eq_error_of_values hvalues hfree.2.1 hentry⟩
    · intro report hreport
      obtain ⟨failures, hfailures, rfl⟩ := value_run_eq_ok_iff.mp hreport
      have hfound := exists_found_of_ok hfailures
      have hfound' (e : String × Slot) (he : e ∈ specs) :=
        exists_found_of_values hvalues (hfree e he) (hfound e he)
      rw [value_runEntries_eq_ok hfound] at hfailures
      obtain rfl := Except.ok.inj hfailures
      refine ⟨_, value_run_eq_ok_iff.mpr ⟨_, value_runEntries_eq_ok hfound', rfl⟩,
        Report.failuresOf_ofFailures? _, Report.failuresOf_ofFailures? _, ?_⟩
      exact fun entry hentry => nature_contributed hvalues (hfree entry hentry)

/-- A choice raises a failure of the same kind, and a batch is aborted by the same entry or reports
failures of the same kinds, when there is no name for the component and none for the location. -/
theorem names_decide_nothing_of_unnamed :
    let text : Slot := .checker (.primitive "string") true
    let choice : Slot := .checker (.oneOfType [text, .factory .shape]) true
    let box : Slot := .checker (.shape [("lid", .factory .oneOf)]) true
    let values : Value := .object 0 none [("name", .bool true), ("box", .object 1 none [])]
    let named : Subject := ⟨values, "prop", some "C"⟩
    let unnamed : Subject := ⟨values, "", some ""⟩
    let entries : List (String × Slot) := [("name", text), ("box", choice), ("tags", .list [])]
    (∀ entry ∈ entries ++ [("box", box)], entry.2.isRuleFree = true) ∧
      (choice.invoke .standard ⟨values, "box", none, "", some "", .batch⟩).ruling =
        .raised .invariantViolation ⟨none⟩ ∧
      (run [("name", text), ("box", box)] named).value =
        .error (named.abort "box" "function") ∧
      (run [("name", text), ("box", box)] unnamed).value =
        .error (unnamed.abort "box" "function") ∧
      ∃ report, (run entries unnamed).value = .ok report ∧
        (Report.failuresOf report).map Failure.nature =
          [(.error, ⟨some "string"⟩), (.invariantViolation, ⟨none⟩),
            (.invariantViolation, ⟨none⟩)] := by
  intro text choice box values named unnamed entries
  obtain ⟨htrees, hbatches⟩ := names_decide_nothing
  have hnamed : (run [("name", text), ("box", box)] named).value =
      .error (named.abort "box" "function") := by
    decide +kernel
  refine ⟨by decide, ?_, hnamed, ?_, ?_⟩
  · have hraised :
        (choice.invoke .standard ⟨values, "box", some "C", "prop", some "box", .batch⟩).ruling =
          .raised .invariantViolation ⟨none⟩ := by
      decide +kernel
    rw [← hraised]
    exact (htrees choice values "box" "prop" "" (some "C") none (some "box") (some "")
      (by decide)).1
  · obtain ⟨before, entry, after, returned, -, -, habort, hrun⟩ :=
      (hbatches [("name", text), ("box", box)] values "prop" "" (some "C") (some "")
        (by decide)).1 _ hnamed
    have hentry : "box" = entry.1 := congrArg Abort.entry habort
    have hreturned : "function" = returned := congrArg Abort.returned habort
    rwa [← hentry, ← hreturned] at hrun
  · have hreported : (run entries named).value =
        .ok (Report.ofFailures? (entries.filterMap (contributed .standard named))) := by
      decide +kernel
    obtain ⟨report, hrun, -, hreport, hnature⟩ :=
      (hbatches entries values "prop" "" (some "C") (some "") (by decide)).2 _ hreported
    refine ⟨report, hrun, ?_⟩
    rw [hreport, List.map_filterMap, List.filterMap_congr hnature]
    decide +kernel

end Batch
end ShapeCheck
