import ShapeCheck.Proofs.Answers
import ShapeCheck.Proofs.Entries

/-!
# Misuse is ruled out

Three calls are misuse: one from outside of a batch, one of a slot that cannot be called, and one on
a property of null or undefined.  Below the entries of a batch none of them is ever made, each kind
of rule seeing to it in its own way: items and fields are looked at before they are called, a choice
is only built from what can be called, and a value is there before anything in it is asked about.
What a batch would do about misuse makes no difference, then, except where its own subject is null
or undefined.

* `Slot.answerOn`: a slot whose children answer as given, and `Slot.DependsOn`: the calls whose
  answers make a difference to it.
* `Slot.inOrder_of_dependsOn`: of these none is misuse.
* `Slot.invoke_of_guards`: so the answers to misuse are never asked for below a tree.
* `Batch.misuse_is_ruled_out`: the same for all calls that a batch makes.
-/

namespace ShapeCheck

/-- A call of a slot is no misuse. -/
structure Call.InOrder (call : Call) (s : Slot) : Prop where
  callable : s.isCallable = true
  caller : call.caller = .batch
  container : call.props.isNullish = false

/-! ### Slots whose children answer as given -/

/-- What a rule sees of a slot that answers as given. -/
def Slot.viewOn (answer : Slot → Call → Outcome) (s : Slot) : SlotView Outcome :=
  ⟨s.isCallable, s.preciseType, answer s⟩

/-- What a rule answers when its slots answer as given. -/
def Rule.testOn (answer : Slot → Call → Outcome) : Rule → Query → Outcome
  | .inert _ => fun _ => .pass
  | .primitive type => Rule.testPrimitive type
  | .any => fun _ => .pass
  | .arrayOf item => Rule.testArrayOf (item.viewOn answer)
  | .objectOf item => Rule.testObjectOf (item.viewOn answer)
  | .instanceOf cls => Rule.testInstanceOf cls
  | .oneOf allowed => Rule.testOneOf allowed
  | .oneOfType alternatives => Rule.testOneOfType (alternatives.map (Slot.viewOn answer))
  | .shape fields => Rule.testShape (fields.map fun field => (field.1, field.2.viewOn answer))
  | .exact fields => Rule.testExact (fields.map fun field => (field.1, field.2.viewOn answer))
  | .custom _ test => test

namespace Slot

/-- What a slot answers when its children answer as given. -/
def answerOn (guards : Guards) (answer : Slot → Call → Outcome) : Slot → Call → Outcome
  | checker rule required =>
      Checker.guarded guards rule.isInert required (rule.testOn answer)
  | factory _ => fun _ => .fault (.notAFailure Tag.function.name)
  | list _ => guards.notCallable .array
  | value v => guards.notCallable v.preciseType

/-- The answer of a slot to a call depends on the answer of another slot to another call: with some
other answer there, and the same ones everywhere else, it would not be the same.  A call that is
made counts among these, for a panic comes out of every checker. -/
def DependsOn (guards : Guards) (s : Slot) (call : Call) (child : Slot) (childCall : Call) : Prop :=
  ∃ answer : Slot → Call → Outcome,
    (∀ t c, ¬(t = child ∧ c = childCall) → answer t c = t.invoke guards c) ∧
    s.answerOn guards answer call ≠ s.invoke guards call

end Slot

section Guards

variable {guards : Guards}

theorem Slot.view_eq_viewOn (s : Slot) :
    s.view guards = s.viewOn (Slot.invoke guards) := by
  cases s <;> rfl

/-- A rule answers by what its slots answer. -/
theorem Rule.test_eq_testOn (rule : Rule) :
    rule.test guards = rule.testOn (Slot.invoke guards) := by
  cases rule with
  | arrayOf item =>
      rw [test_eq_testArrayOf, Slot.view_eq_viewOn, testOn]
  | objectOf item =>
      rw [test_eq_testObjectOf, Slot.view_eq_viewOn, testOn]
  | oneOfType alternatives =>
      rw [test_eq_testOneOfType, funext Slot.view_eq_viewOn, testOn]
  | shape fields =>
      simp only [test_eq_testShape, Slot.view_eq_viewOn, testOn]
  | exact fields =>
      simp only [test_eq_testExact, Slot.view_eq_viewOn, testOn]
  | inert | primitive | any | instanceOf | oneOf | custom =>
      rfl

theorem Slot.invoke_eq_answerOn (s : Slot) :
    s.invoke guards = s.answerOn guards (Slot.invoke guards) := by
  cases s with
  | checker rule required =>
      rw [answerOn, ← Rule.test_eq_testOn]
      rfl
  | factory | list | value =>
      rfl

end Guards

namespace Rule

variable {answer answer' : Slot → Call → Outcome} {q : Query}

theorem testAlternatives_congr
    {alternatives : List Slot}
    (h : ∀ a ∈ alternatives, answer' a q.forward = answer a q.forward)
    (tried : Nat) (expected : List String) :
    testAlternatives tried expected q (alternatives.map (Slot.viewOn answer')) =
      testAlternatives tried expected q (alternatives.map (Slot.viewOn answer)) := by
  induction alternatives generalizing tried expected with
  | nil =>
      rfl
  | cons a rest ih =>
      obtain ⟨ha, hrest⟩ := List.forall_mem_cons.mp h
      simp only [List.map_cons, testAlternatives_cons, Slot.viewOn, ha]
      rcases answer a q.forward with _ | failure | (failure | returned) | text
      case fail => exact ih hrest _ _
      all_goals rfl

theorem testField_congr
    {slot : Slot} (hvalue : q.value.isNullish = false)
    (h : ∀ call : Call, call.InOrder slot → answer' slot call = answer slot call) (key : String) :
    testField q key (slot.viewOn answer') = testField q key (slot.viewOn answer) := by
  cases hcallable : slot.isCallable with
  | false => simp [testField, Slot.viewOn, hcallable]
  | true =>
      simpa [testField, Slot.viewOn, hcallable] using h (q.member key) ⟨hcallable, rfl, hvalue⟩

/-- On a value that is there, a rule calls its slots in order only: what they would answer to misuse
makes no difference. -/
theorem testOn_congr
    {rule : Rule} {required : Bool}
    (hbuilt : (Slot.checker rule required).isWellBuilt = true)
    (hvalue : q.value.isNullish = false)
    (h : ∀ child ∈ rule.slots, ∀ call : Call, call.InOrder child →
      answer' child call = answer child call) :
    rule.testOn answer' q = rule.testOn answer q := by
  cases rule with
  | arrayOf item =>
      cases hcallable : item.isCallable with
      | false =>
          simp [testOn, testArrayOf, Slot.viewOn, hcallable]
      | true =>
          have hitem (index : Nat) : answer' item (q.item index) = answer item (q.item index) :=
            h item (by simp [slots]) (q.item index) ⟨hcallable, rfl, hvalue⟩
          simp [testOn, testArrayOf, Slot.viewOn, hcallable, hitem]
  | objectOf item =>
      cases hcallable : item.isCallable with
      | false =>
          simp [testOn, testObjectOf, Slot.viewOn, hcallable]
      | true =>
          have hitem (key : String) : answer' item (q.member key) = answer item (q.member key) :=
            h item (by simp [slots]) (q.member key) ⟨hcallable, rfl, hvalue⟩
          simp [testOn, testObjectOf, Slot.viewOn, hcallable, hitem]
  | oneOfType alternatives =>
      have hcallable := List.all_eq_true.mp hbuilt
      have hprops := Value.isNullish_of_property hvalue
      exact testAlternatives_congr
        (fun a ha => h a ha q.forward ⟨hcallable a ha, rfl, hprops⟩) 0 []
  | shape fields =>
      simp only [testOn, testShape, allPass_map]
      split
      · exact allPass_congr fun field hfield =>
          testField_congr hvalue (h field.2 (List.mem_map_of_mem hfield)) field.1
      · rfl
  | exact fields =>
      simp only [testOn, testExact, Keyed.keys_map, Keyed.get?_map]
      split
      · apply allPass_congr
        intro key _
        cases hget : Keyed.get? fields key with
        | none =>
            rfl
        | some slot =>
            have hmem := Keyed.mem_of_get?_eq_some hget
            exact testField_congr hvalue (h slot (List.mem_map_of_mem hmem)) key
      · rfl
  | inert | primitive | any | instanceOf | oneOf | custom =>
      rfl

end Rule

namespace Slot

section Answers

variable {guards : Guards} {s child : Slot} {call childCall : Call}

/-- A slot answers by what its children answer to calls in order, on a property of something. -/
theorem answerOn_congr
    {answer answer' : Slot → Call → Outcome}
    (hbuilt : s.isWellBuilt = true)
    (h : call.props.isNullish = false →
      ∀ t ∈ s.children, ∀ c : Call, c.InOrder t → answer' t c = answer t c) :
    s.answerOn guards answer' call = s.answerOn guards answer call := by
  cases s with
  | checker rule required =>
      refine Checker.guarded_congr_of_present fun hvalue => ?_
      exact Rule.testOn_congr hbuilt hvalue (h (Value.isNullish_of_property hvalue))
  | factory | list | value =>
      rfl

/-- Of the calls that make a difference to a slot none is misuse, and none is made where there is
nothing to look into. -/
theorem inOrder_of_dependsOn
    (hbuilt : s.isWellBuilt = true) (h : s.DependsOn guards call child childCall) :
    child ∈ s.children ∧ childCall.InOrder child ∧ call.props.isNullish = false := by
  obtain ⟨answer, hsame, hne⟩ := h
  by_contra hnot
  apply hne
  rw [invoke_eq_answerOn]
  refine answerOn_congr hbuilt fun hprops t ht c hc => hsame t c ?_
  rintro ⟨rfl, rfl⟩
  exact hnot ⟨ht, hc, hprops⟩

/-- Called in order, a tree never asks for an answer to misuse; called on a property of null or
undefined, at most for the answer to that. -/
theorem invoke_of_guards
    {guards' : Guards}
    (hbuilt : s.every isWellBuilt = true) (hcallable : s.isCallable = true)
    (hcaller : call.caller = .batch)
    (h : call.props.isNullish = true → guards'.noContainer call = guards.noContainer call) :
    s.invoke guards' call = s.invoke guards call := by
  induction s using Slot.induction generalizing call with
  | factory =>
      rfl
  | list | value =>
      cases hcallable
  | checker rule required ih =>
      obtain ⟨htop, hchildren⟩ := every_checker hbuilt
      cases hprops : call.props.isNullish with
      | true =>
          rw [invoke_checker_of_noContainer hcaller hprops,
            invoke_checker_of_noContainer hcaller hprops, h hprops]
      | false =>
          cases hvalue : call.query.value.isNullish with
          | true =>
              rw [invoke_checker_of_absent hcaller hprops hvalue,
                invoke_checker_of_absent hcaller hprops hvalue]
          | false =>
              rw [invoke_checker_of_present hcaller hvalue,
                invoke_checker_of_present hcaller hvalue, Rule.test_eq_testOn, Rule.test_eq_testOn]
              refine Rule.testOn_congr htop hvalue fun t ht c hc => ?_
              exact ih t ht (hchildren t ht) hc.callable hc.caller fun hnullish =>
                absurd (hc.container.symm.trans hnullish) Bool.false_ne_true

end Answers

/-- A call meets the case of a container that is null or undefined: what is answered in this case
makes a difference to it. -/
def MeetsNoContainer (s : Slot) (call : Call) : Prop :=
  ∃ outcome : Outcome,
    s.invoke { Guards.standard with noContainer := fun _ => outcome } call ≠ s.invoke .standard call

/-- On a property of null or undefined, a call meets the case unless the checker has no demands. -/
theorem meetsNoContainer_iff
    {s : Slot} {call : Call} (hcaller : call.caller = .batch)
    (hprops : call.props.isNullish = true) :
    s.MeetsNoContainer call ↔ ∃ c : Checker, s = c.slot ∧ c.isInert = false := by
  cases s with
  | checker rule required =>
      simp only [MeetsNoContainer, invoke_checker_of_noContainer hcaller hprops]
      cases hinert : rule.isInert with
      | true =>
          refine iff_of_false (by simp) ?_
          rintro ⟨c, hslot, hdemands⟩
          obtain ⟨rfl, -⟩ := Slot.checker.inj hslot
          exact absurd (hinert.symm.trans hdemands) (by simp)
      | false =>
          exact iff_of_true ⟨.pass, by simp [Guards.standard]⟩ ⟨⟨rule, required⟩, rfl, hinert⟩
  | factory | list | value =>
      refine iff_of_false ?_ ?_
      · rintro ⟨outcome, hne⟩
        exact hne rfl
      · rintro ⟨c, hslot, -⟩
        cases hslot

end Slot

/-! ### Calls that a batch makes -/

namespace Batch

/-- What an entry comes to where the slots answer as given. -/
def runEntryOn (answer : Slot → Call → Outcome) (subject : Subject) (entry : String × Slot) :
    Logged (Except Abort (Option Failure)) :=
  if entry.2.isCallable then
    settleIn Logged subject entry.1 (answer entry.2 (subject.call entry.1))
  else
    runEntry .standard subject entry

/-- An entry comes to what its slot answers. -/
theorem runEntry_eq_runEntryOn (guards : Guards) (subject : Subject) (entry : String × Slot) :
    runEntry guards subject entry = runEntryOn (Slot.invoke guards) subject entry := by
  cases hcallable : entry.2.isCallable with
  | false =>
      simp [runEntryOn, hcallable, runEntry_of_not_isCallable hcallable]
  | true =>
      simp [runEntryOn, hcallable, runEntry_of_isCallable hcallable]

/-- What an entry comes to depends on the answer of a slot to a call. -/
def EntryDependsOn (guards : Guards) (subject : Subject) (entry : String × Slot)
    (s : Slot) (call : Call) : Prop :=
  ∃ answer : Slot → Call → Outcome,
    (∀ t c, ¬(t = s ∧ c = call) → answer t c = t.invoke guards c) ∧
    runEntryOn answer subject entry ≠ runEntry guards subject entry

/-- An entry makes one call, of its own slot, if this slot can be called, and no other. -/
theorem entryDependsOn_iff
    {guards : Guards} {subject : Subject} {entry : String × Slot} {s : Slot} {call : Call} :
    EntryDependsOn guards subject entry s call
      ↔
    entry.2.isCallable = true ∧ s = entry.2 ∧ call = subject.call entry.1 := by
  rw [EntryDependsOn, runEntry_eq_runEntryOn]
  constructor
  · rintro ⟨answer, hsame, hne⟩
    by_contra hnot
    apply hne
    cases hcallable : entry.2.isCallable with
    | false =>
        simp [runEntryOn, hcallable]
    | true =>
        have hentry : answer entry.2 (subject.call entry.1) =
            entry.2.invoke guards (subject.call entry.1) :=
          hsame _ _ fun h => hnot ⟨hcallable, h.1.symm, h.2.symm⟩
        simp [runEntryOn, hcallable, hentry]
  · rintro ⟨hcallable, rfl, rfl⟩
    classical
    -- A pass and a panic do not come to the same, so one of them makes the difference.
    let answer (outcome : Outcome) (t : Slot) (c : Call) : Outcome :=
      if t = entry.2 ∧ c = subject.call entry.1 then outcome else t.invoke guards c
    have hentry (outcome : Outcome) :
        runEntryOn (answer outcome) subject entry = settleIn Logged subject entry.1 outcome := by
      simp [runEntryOn, answer, hcallable]
    have hsame (outcome : Outcome) (t : Slot) (c : Call)
        (hother : ¬(t = entry.2 ∧ c = subject.call entry.1)) :
        answer outcome t c = t.invoke guards c :=
      if_neg hother
    by_cases hpass :
        settleIn Logged subject entry.1 .pass = runEntryOn (Slot.invoke guards) subject entry
    · refine ⟨answer (.panicked none), hsame _, ?_⟩
      rw [hentry, ← hpass]
      intro h
      cases congrArg Logged.value h
    · exact ⟨answer .pass, hsame _, by rwa [hentry]⟩

/-- A batch comes to an entry: no entry before it aborts the batch. -/
def Evaluates (guards : Guards) (subject : Subject) (specs : List (String × Slot))
    (entry : String × Slot) : Prop :=
  ∃ before after,
    specs = before ++ entry :: after ∧
    ∀ e ∈ before, ∃ found, (runEntry guards subject e).value = .ok found

/-- A batch calls a slot, itself or by way of other slots. -/
inductive Reaches (guards : Guards) (subject : Subject) (specs : List (String × Slot)) :
    Slot → Call → Prop
  | entry
      {entry : String × Slot} {s : Slot} {call : Call}
      (hentry : Evaluates guards subject specs entry)
      (h : EntryDependsOn guards subject entry s call) :
      Reaches guards subject specs s call
  | child
      {s child : Slot} {call childCall : Call}
      (hs : Reaches guards subject specs s call)
      (h : s.DependsOn guards call child childCall) :
      Reaches guards subject specs child childCall

section WellBuilt

variable {guards : Guards} {subject : Subject} {specs : List (String × Slot)}
  (hbuilt : ∀ entry ∈ specs, entry.2.every Slot.isWellBuilt = true)
include hbuilt

/-- Whatever a batch calls is a well-built tree that can be called, and learns who calls. -/
theorem isCallable_of_reaches {s : Slot} {call : Call} (h : Reaches guards subject specs s call) :
    s.every Slot.isWellBuilt = true ∧ s.isCallable = true ∧ call.caller = .batch := by
  induction h with
  | entry hentry h =>
      obtain ⟨before, after, rfl, -⟩ := hentry
      obtain ⟨hcallable, rfl, rfl⟩ := entryDependsOn_iff.mp h
      exact ⟨hbuilt _ (by simp), hcallable, rfl⟩
  | @child s child call childCall hs h ih =>
      obtain ⟨hchild, horder, -⟩ := Slot.inOrder_of_dependsOn (Slot.top_of_every ih.1) h
      exact ⟨Slot.every_of_mem_children ih.1 hchild, horder.callable, horder.caller⟩

/-- Other slots are only asked about properties of something that is there. -/
theorem isNullish_of_dependsOn
    {s child : Slot} {call childCall : Call}
    (h : Reaches guards subject specs s call) (hchild : s.DependsOn guards call child childCall) :
    call.props.isNullish = false ∧ childCall.props.isNullish = false := by
  have hs := (isCallable_of_reaches hbuilt h).1
  obtain ⟨-, horder, hprops⟩ := Slot.inOrder_of_dependsOn (Slot.top_of_every hs) hchild
  exact ⟨hprops, horder.container⟩

/-- Where the subject is null or undefined, a batch calls the slots of its entries only. -/
theorem reaches_iff_of_isNullish
    (hvalues : subject.values.isNullish = true) {s : Slot} {call : Call} :
    Reaches guards subject specs s call
      ↔
    ∃ entry, Evaluates guards subject specs entry ∧
      entry.2.isCallable = true ∧ s = entry.2 ∧ call = subject.call entry.1 := by
  constructor
  · intro h
    induction h with
    | entry hentry h =>
        exact ⟨_, hentry, entryDependsOn_iff.mp h⟩
    | child hs h ih =>
        obtain ⟨entry, -, -, -, rfl⟩ := ih
        have hprops : subject.values.isNullish = false := (isNullish_of_dependsOn hbuilt hs h).1
        exact absurd (hvalues.symm.trans hprops) (by simp)
  · rintro ⟨entry, hentry, h⟩
    exact Reaches.entry hentry (entryDependsOn_iff.mpr h)

/-- What a batch would do about misuse makes no difference, but for its own subject. -/
theorem runWith_of_guards
    {guards' : Guards}
    (h : subject.values.isNullish = true → guards'.noContainer = guards.noContainer) :
    runWith guards' specs subject = runWith guards specs subject := by
  have hentries : runEntries guards' subject specs = runEntries guards subject specs := by
    refine runEntries_congr fun entry hentry => ?_
    cases hcallable : entry.2.isCallable with
    | false =>
        rw [runEntry_of_not_isCallable hcallable, runEntry_of_not_isCallable hcallable]
    | true =>
        have hinvoke : entry.2.invoke guards' (subject.call entry.1) =
            entry.2.invoke guards (subject.call entry.1) :=
          Slot.invoke_of_guards (hbuilt entry hentry) hcallable rfl fun hprops =>
            congrFun (h hprops) _
        rw [runEntry_of_isCallable hcallable, runEntry_of_isCallable hcallable, hinvoke]
  rw [runWith_eq, runWith_eq, hentries]

end WellBuilt

/-- Misuse is ruled out.  A batch calls nothing but what can be called, always says that it is the
caller, and below its entries nothing is asked about a property of null or undefined.  So what is
answered to misuse makes no difference to what a batch reports and logs, except that on a subject
that is null or undefined every checker with demands that the batch comes to meets this case. -/
theorem misuse_is_ruled_out
    {specs : List (String × Slot)}
    (hbuilt : ∀ entry ∈ specs, entry.2.every Slot.isWellBuilt = true)
    (subject : Subject) :
    (∀ s call, Reaches .standard subject specs s call →
      s.isCallable = true ∧ call.caller = .batch) ∧
    (∀ s call child childCall, Reaches .standard subject specs s call →
      s.DependsOn .standard call child childCall → childCall.props.isNullish = false) ∧
    (∀ guards : Guards, guards.noContainer = Guards.standard.noContainer →
      runWith guards specs subject = run specs subject) ∧
    (subject.values.isNullish = false →
      ∀ guards, runWith guards specs subject = run specs subject) ∧
    (subject.values.isNullish = true → ∀ s call,
      (Reaches .standard subject specs s call ∧ s.MeetsNoContainer call)
        ↔
      ∃ entry, Evaluates .standard subject specs entry ∧ s = entry.2 ∧
        call = subject.call entry.1 ∧ ∃ c : Checker, s = c.slot ∧ c.isInert = false) := by
  refine ⟨?_, ?_, ?_, ?_, ?_⟩
  · intro s call h
    exact (isCallable_of_reaches hbuilt h).2
  · intro s call child childCall h hchild
    exact (isNullish_of_dependsOn hbuilt h hchild).2
  · intro guards h
    exact runWith_of_guards hbuilt fun _ => h
  · intro hvalues guards
    exact runWith_of_guards hbuilt fun hnullish => absurd (hvalues.symm.trans hnullish) (by simp)
  · intro hvalues s call
    rw [reaches_iff_of_isNullish hbuilt hvalues]
    constructor
    · rintro ⟨⟨entry, hentry, hcallable, rfl, rfl⟩, hmeets⟩
      exact ⟨entry, hentry, rfl, rfl, (Slot.meetsNoContainer_iff rfl hvalues).mp hmeets⟩
    · rintro ⟨entry, hentry, rfl, rfl, hc⟩
      obtain ⟨c, hslot, -⟩ := id hc
      have hcallable : entry.2.isCallable = true := by
        rw [hslot]
        rfl
      exact ⟨⟨entry, hentry, hcallable, rfl, rfl⟩,
        (Slot.meetsNoContainer_iff rfl hvalues).mpr hc⟩

/-- A list of numbers, something that cannot be called and a constructor without its argument: the
item of the list is called in order, so that a library which panics at any misuse reports the same.
Without a subject, the list is called on a property of undefined, and this is reported. -/
theorem misuse_is_ruled_out_for_list :
    let number : Slot := .checker (.primitive "number") false
    let numbers : Slot := .checker (.arrayOf number) false
    let specs : List (String × Slot) :=
      [("list", numbers), ("none", .value .null), ("maker", .factory .shape)]
    let subject : Subject := ⟨.object 0 none [("list", .array 1 [.string "x"])], "prop", none⟩
    let itemCall : Call := (subject.call "list").query.item 0
    let absent : Subject := ⟨.undefined, "prop", none⟩
    let panicking : Guards :=
      ⟨fun _ => .panicked none, fun _ _ => .panicked none, fun _ => .panicked none⟩
    (∀ entry ∈ specs, entry.2.every Slot.isWellBuilt = true) ∧
      (Reaches .standard subject specs number itemCall ∧ itemCall.InOrder number) ∧
      (subject.values.isNullish = false ∧ runWith panicking specs subject = run specs subject) ∧
      (let onlyNoContainer := { panicking with noContainer := Guards.standard.noContainer }
       runWith onlyNoContainer specs absent = run specs absent) ∧
      absent.values.isNullish = true ∧
      Reaches .standard absent specs numbers (absent.call "list") ∧
      numbers.MeetsNoContainer (absent.call "list") := by
  intro number numbers specs subject itemCall absent panicking
  have hbuilt : ∀ entry ∈ specs, entry.2.every Slot.isWellBuilt = true := by decide
  obtain ⟨hreach, hcontainer, -, hpresent, -⟩ := misuse_is_ruled_out hbuilt subject
  obtain ⟨-, -, hguards, -, hmeets⟩ := misuse_is_ruled_out hbuilt absent
  have hlist : Reaches .standard subject specs numbers (subject.call "list") :=
    Reaches.entry ⟨[], _, rfl, by simp⟩ (entryDependsOn_iff.mpr ⟨rfl, rfl, rfl⟩)
  have hitem : numbers.DependsOn .standard (subject.call "list") number itemCall := by
    classical
    let answer (t : Slot) (c : Call) : Outcome :=
      if t = number ∧ c = itemCall then .pass else t.invoke .standard c
    have hanswer : answer number itemCall = .pass := if_pos ⟨rfl, rfl⟩
    have hpass : numbers.answerOn .standard answer (subject.call "list") = .pass := by
      change noneFails (fun index => answer number ((subject.call "list").query.item index)) [0] =
        .pass
      exact (noneFails_eq_pass_iff _ _).mpr fun index hindex => by
        rw [List.mem_singleton.mp hindex]
        exact Or.inl hanswer
    have hfail : (numbers.invoke .standard (subject.call "list")).isFailure = true := by
      decide +kernel
    refine ⟨answer, fun t c hother => if_neg hother, fun h => ?_⟩
    rw [← h, hpass] at hfail
    cases hfail
  have hnumber := hreach _ _ (hlist.child hitem)
  refine ⟨hbuilt, ⟨hlist.child hitem, hnumber.1, hnumber.2, hcontainer _ _ _ _ hlist hitem⟩,
    ⟨rfl, hpresent rfl panicking⟩, hguards _ rfl, rfl, ?_⟩
  exact (hmeets rfl numbers (absent.call "list")).mpr
    ⟨("list", numbers), ⟨[], _, rfl, by simp⟩, rfl, rfl, ⟨.arrayOf number, false⟩, rfl, rfl⟩

end Batch

end ShapeCheck
