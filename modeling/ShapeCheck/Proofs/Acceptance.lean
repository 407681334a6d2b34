import ShapeCheck.Proofs.Answers
import ShapeCheck.Proofs.Entries

/-!
# Acceptance

Which values a tree of built-in checkers accepts, said by recursion on the tree and without calls,
names or messages: an array of items asks its items, an object of items the values among its
entries, and an object with fields what it holds under the declared names.  That the library reads
the items of an array under printed indices, and looks up every key of an object again, is no part
of it.

* `Slot.decides`: a tree that the library builds answers every call in a batch with a pass or a
  failure, and passes what it accepts and nothing else.
* `Batch.run_reports_rejected`: a batch over such trees reports the entries that do not accept, and
  no others.
-/

namespace ShapeCheck

mutual

/-- Whether what stands in a slot accepts a value. -/
def Slot.accepts : Slot → Value → Bool
  | .checker rule required, v =>
      rule.isInert || if v.isNullish then !required else rule.accepts v
  | .factory _, _ | .list _, _ | .value _, _ => false

/-- Whether a rule accepts a value that is neither null nor undefined. -/
def Rule.accepts : Rule → Value → Bool
  | .inert _, _ => true
  | .primitive type, v => v.propType.name == type
  | .any, _ => true
  | .arrayOf item, v =>
      item.isCallable &&
        match v with
        | .array _ items => items.all fun x => item.accepts x
        | _ => false
  | .objectOf item, v =>
      item.isCallable && v.propType == .object && v.properties.all fun p => item.accepts p.2
  | .instanceOf cls, v => v.isInstanceOf cls
  | .oneOf allowed, v => allowed.any v.sameValue
  | .oneOfType alternatives, v => someAccepts alternatives v
  | .shape fields, v => v.propType == .object && fieldsAccept fields v
  | .exact fields, v =>
      v.propType == .object && fieldsAccept fields v &&
        v.properties.all fun p => (Keyed.keys fields).contains p.1
  | .custom _ _, _ => false

/-- Whether some slot accepts a value. -/
def someAccepts : List Slot → Value → Bool
  | [], _ => false
  | slot :: rest, v => slot.accepts v || someAccepts rest v

/-- Whether every field has a checker that accepts what an object holds under its name. -/
def fieldsAccept : List (String × Slot) → Value → Bool
  | [], _ => true
  | (key, slot) :: rest, v =>
      slot.isCallable && slot.accepts (v.property key) && fieldsAccept rest v

end

@[simp] theorem someAccepts_eq_true_iff (slots : List Slot) (v : Value) :
    someAccepts slots v = true ↔ ∃ slot ∈ slots, slot.accepts v = true := by
  induction slots with
  | nil => simp [someAccepts]
  | cons slot rest ih => simp [someAccepts, ih]

@[simp] theorem fieldsAccept_eq_true_iff (fields : List (String × Slot)) (v : Value) :
    fieldsAccept fields v = true
      ↔
    ∀ field ∈ fields,
      field.2.isCallable = true ∧ field.2.accepts (v.property field.1) = true := by
  induction fields with
  | nil =>
      simp [fieldsAccept]
  | cons field rest ih =>
      rw [fieldsAccept, Bool.and_eq_true, Bool.and_eq_true, ih, List.forall_mem_cons]

/-- A slot answers calls in a batch with a pass or a failure, and with a pass just where it accepts
the value in question. -/
def Slot.Decides (guards : Guards) (s : Slot) : Prop :=
  ∀ call : Call, call.caller = .batch → call.props.isNullish = false →
    (s.invoke guards call).isVerdict = true ∧
      (s.invoke guards call = .pass ↔ s.accepts call.query.value = true)

namespace Rule

variable {guards : Guards}

/-- A rule answers with a pass or a failure on every value that is there, and with a pass just where
it accepts the value. -/
def Decides (guards : Guards) (rule : Rule) : Prop :=
  ∀ q : Query, q.value.isNullish = false →
    (rule.test guards q).isVerdict = true ∧
      (rule.test guards q = .pass ↔ rule.accepts q.value = true)

/-- A run of tests decides together what each of them decides. -/
theorem allPass_decides
    {α : Type} {test : α → Outcome} {accepted : α → Prop} {l : List α}
    (h : ∀ a ∈ l, (test a).isVerdict = true ∧ (test a = .pass ↔ accepted a)) :
    (allPass test l).isVerdict = true ∧
      (allPass test l = .pass ↔ ∀ a ∈ l, accepted a) := by
  refine ⟨isVerdict_allPass fun a ha => (h a ha).1, ?_⟩
  rw [allPass_eq_pass_iff]
  constructor
  · intro hall a ha
    exact (h a ha).2.mp (hall a ha)
  · intro hall a ha
    exact (h a ha).2.mpr (hall a ha)

theorem noneFails_decides
    {α : Type} {test : α → Outcome} {accepted : α → Prop} {l : List α}
    (h : ∀ a ∈ l, (test a).isVerdict = true ∧ (test a = .pass ↔ accepted a)) :
    (noneFails test l).isVerdict = true ∧
      (noneFails test l = .pass ↔ ∀ a ∈ l, accepted a) := by
  rw [noneFails_eq_allPass_of_isVerdict fun a ha => (h a ha).1]
  exact allPass_decides h

/-- An array of items asks what the value has for items. -/
theorem accepts_arrayOf (item : Slot) (v : Value) :
    (arrayOf item).accepts v =
      (item.isCallable && v.items?.any fun items => items.all fun x => item.accepts x) := by
  cases v <;> rfl

/-- Each item of an array is read once, under the text of its index. -/
theorem decides_arrayOf
    {item : Slot} (hitem : item.isCallable = true → item.Decides guards) :
    (arrayOf item).Decides guards := by
  intro q hq
  rw [test_arrayOf, accepts_arrayOf]
  cases hcallable : item.isCallable with
  | false =>
      simp [Outcome.isVerdict]
  | true =>
      cases hitems : q.value.items? with
      | none =>
          simp [Outcome.isVerdict]
      | some items =>
          have hdecides :=
            noneFails_decides (l := List.range items.length) fun index _ =>
              hitem hcallable (q.item index) rfl hq
          -- The text of an index is read back as this index, so each item is asked once.
          have hall :
              (∀ index ∈ List.range items.length,
                item.accepts (q.item index).query.value = true) ↔
                ∀ x ∈ items, item.accepts x = true := by
            simp only [Query.item_value_of_items? hitems, List.mem_range,
              List.forall_mem_iff_forall_getElem]
            constructor
            · intro h index hindex
              have haccepts := h index hindex
              rwa [List.getElem?_eq_getElem hindex] at haccepts
            · intro h index hindex
              rw [List.getElem?_eq_getElem hindex]
              exact h index hindex
          rw [hall] at hdecides
          simpa using hdecides

/-- Each own property of an object is looked up under its own key, so each entry is asked. -/
theorem decides_objectOf
    {item : Slot} (hitem : item.isCallable = true → item.Decides guards) :
    (objectOf item).Decides guards := by
  intro q hq
  rw [test_objectOf, accepts]
  cases hcallable : item.isCallable with
  | false =>
      simp [Outcome.isVerdict]
  | true =>
      by_cases hobject : q.value.propType = .object
      · have hdecides :=
          noneFails_decides (l := q.value.ownKeys) fun key _ =>
            hitem hcallable (q.member key) rfl hq
        simp only [Query.member_value] at hdecides
        rw [Value.forall_ownKeys_iff (P := fun _ x => item.accepts x = true)] at hdecides
        simpa [hobject] using hdecides
      · simp [hobject, Outcome.isVerdict]

/-- A field decides whether it has a checker that accepts the value under its name. -/
theorem testField_decides
    {slot : Slot} (hslot : slot.isCallable = true → slot.Decides guards)
    {q : Query} (hq : q.value.isNullish = false) (key : String) :
    (testField q key (slot.view guards)).isVerdict = true ∧
      (testField q key (slot.view guards) = .pass ↔
        slot.isCallable = true ∧ slot.accepts (q.value.property key) = true) := by
  cases hcallable : slot.isCallable with
  | false =>
      rw [testField_of_not_isCallable hcallable]
      simp [Outcome.isVerdict]
  | true =>
      rw [testField_of_isCallable hcallable]
      simpa using hslot hcallable (q.member key) rfl hq

theorem decides_shape
    {fields : List (String × Slot)}
    (hfields : ∀ field ∈ fields, field.2.isCallable = true → field.2.Decides guards) :
    (shape fields).Decides guards := by
  intro q hq
  rw [test_shape, accepts]
  by_cases hobject : q.value.propType = .object
  · have hdecides :=
      allPass_decides (l := fields) fun field hfield =>
        testField_decides (hfields field hfield) hq field.1
    simpa [hobject] using hdecides
  · simp [hobject, Outcome.isVerdict]

theorem testKey_decides
    {fields : List (String × Slot)}
    (hfields : ∀ field ∈ fields, field.2.isCallable = true → field.2.Decides guards)
    {q : Query} (hq : q.value.isNullish = false) (key : String) :
    (testKey guards fields q key).isVerdict = true ∧
      (testKey guards fields q key = .pass ↔
        ∃ slot, Keyed.get? fields key = some slot ∧
          slot.isCallable = true ∧ slot.accepts (q.value.property key) = true) := by
  rw [testKey]
  cases hget : Keyed.get? fields key with
  | none =>
      simp [Outcome.isVerdict]
  | some slot =>
      have hmem := Keyed.mem_of_get?_eq_some hget
      simpa using testField_decides (hfields _ hmem) hq key

theorem decides_exact
    {fields : List (String × Slot)}
    (hnodup : (Keyed.keys fields).Nodup)
    (hfields : ∀ field ∈ fields, field.2.isCallable = true → field.2.Decides guards) :
    (exact fields).Decides guards := by
  intro q hq
  rw [test_exact, accepts]
  by_cases hobject : q.value.propType = .object
  · have hdecides :=
      allPass_decides (l := exactKeys q.value.ownKeys (Keyed.keys fields)) fun key _ =>
        testKey_decides hfields hq key
    rw [forall_exactKeys_iff hnodup,
      Value.forall_ownKeys_iff (P := fun key _ => key ∈ Keyed.keys fields)] at hdecides
    simpa [hobject] using hdecides
  · simp [hobject, Outcome.isVerdict]

/-- A choice among checkers passes when one of them does, whichever fail before it. -/
theorem decides_oneOfType
    {alternatives : List Slot} (halternatives : ∀ a ∈ alternatives, a.Decides guards) :
    (oneOfType alternatives).Decides guards := by
  intro q hq
  have hprops : q.props.isNullish = false := Value.isNullish_of_property hq
  have hdecides (a : Slot) (ha : a ∈ alternatives) :=
    halternatives a ha q.forward rfl hprops
  rw [accepts, someAccepts_eq_true_iff]
  rcases test_oneOfType_cases guards alternatives q with
    ⟨hfail, htest⟩ | ⟨before, a, after, rfl, -, ha, htest⟩
  · rw [htest]
    refine ⟨rfl, ?_⟩
    constructor
    · intro h
      cases h
    · rintro ⟨a, hmem, haccepts⟩
      have hpass := (hdecides a hmem).2.mpr haccepts
      have hfails := hfail a hmem
      rw [hpass] at hfails
      cases hfails
  · obtain ⟨hverdict, hiff⟩ := hdecides a (by simp)
    have hpass : a.invoke guards q.forward = .pass := by
      cases h : a.invoke guards q.forward <;>
        simp_all [Outcome.isVerdict, Outcome.isFailure]
    rw [htest, hpass]
    exact ⟨rfl, fun _ => ⟨a, by simp, hiff.mp hpass⟩, fun _ => rfl⟩

/-- A rule that the library builds decides what its children do. -/
theorem decides_of_slots
    {rule : Rule} {required : Bool}
    (hbuilt : (Slot.checker rule required).isWellBuilt = true)
    (hlibrary : (Slot.checker rule required).isLibrary = true)
    (hslots : ∀ child ∈ rule.slots, child.isCallable = true → child.Decides guards) :
    rule.Decides guards := by
  cases rule with
  | arrayOf item =>
      exact decides_arrayOf (hslots item (by simp [slots]))
  | objectOf item =>
      exact decides_objectOf (hslots item (by simp [slots]))
  | oneOfType alternatives =>
      have hcallable := List.all_eq_true.mp hbuilt
      exact decides_oneOfType fun a ha => hslots a ha (hcallable a ha)
  | shape fields =>
      exact decides_shape fun field hfield => hslots field.2 (List.mem_map_of_mem hfield)
  | exact fields =>
      exact decides_exact (of_decide_eq_true hbuilt)
        fun field hfield => hslots field.2 (List.mem_map_of_mem hfield)
  | custom label test =>
      cases hlibrary
  | inert | any =>
      intro q hq
      simp [accepts, Outcome.isVerdict]
  | primitive type =>
      intro q hq
      by_cases h : q.value.propType.name = type <;>
        simp [test_eq_testPrimitive, testPrimitive, accepts, Outcome.isVerdict, h]
  | instanceOf cls =>
      intro q hq
      cases h : q.value.isInstanceOf cls <;>
        simp [test_eq_testInstanceOf, testInstanceOf, accepts, Outcome.isVerdict, h]
  | oneOf allowed =>
      intro q hq
      cases h : allowed.any q.value.sameValue <;>
        simp [test_eq_testOneOf, testOneOf, accepts, Outcome.isVerdict, h]

end Rule

/-- A tree that the library builds answers every call in a batch with a pass or a failure, and
passes what it accepts and nothing else. -/
theorem Slot.decides
    (guards : Guards) {s : Slot} (hbuiltIn : s.isBuiltIn = true)
    (hcallable : s.isCallable = true) :
    s.Decides guards := by
  induction s using Slot.induction with
  | checker rule required ih =>
      obtain ⟨hbuilt, hlibrary, hchildren⟩ := isBuiltIn_checker hbuiltIn
      have hrule : rule.Decides guards :=
        Rule.decides_of_slots hbuilt hlibrary fun child hchild =>
          ih child hchild (hchildren child hchild)
      intro call hcaller hprops
      cases hvalue : call.query.value.isNullish with
      | true =>
          rw [invoke_checker_of_absent hcaller hprops hvalue]
          cases hinert : rule.isInert <;> cases required <;>
            simp [accepts, hinert, hvalue, Outcome.isVerdict]
      | false =>
          rw [invoke_checker_of_present hcaller hvalue]
          obtain ⟨hverdict, hpass⟩ := hrule call.query hvalue
          refine ⟨hverdict, ?_⟩
          rw [hpass]
          cases hinert : rule.isInert with
          | false => simp [accepts, hinert, hvalue]
          | true => cases rule <;> simp_all [accepts, Rule.accepts, Rule.isInert]
  | factory f =>
      simp [isBuiltIn, every, isLibrary] at hbuiltIn
  | list items =>
      cases hcallable
  | value v =>
      cases hcallable

namespace Batch

/-- An entry with a built-in tree contributes nothing when the tree accepts the property of its
name, and a failure otherwise. -/
theorem value_runEntry_of_isBuiltIn
    (guards : Guards) {subject : Subject} {entry : String × Slot}
    (hbuiltIn : entry.2.isBuiltIn = true)
    (hvalues : subject.values.isNullish = false) :
    ∃ found,
      (runEntry guards subject entry).value = .ok found ∧
        (found = none ↔ entry.2.accepts (subject.values.property entry.1) = true) := by
  cases hcallable : entry.2.isCallable with
  | false =>
      refine ⟨_, value_runEntry_of_not_isCallable hcallable, ?_⟩
      cases hslot : entry.2 <;> simp_all [Slot.accepts, Slot.isCallable]
  | true =>
      obtain ⟨hverdict, hpass⟩ :=
        Slot.decides guards hbuiltIn hcallable (subject.call entry.1) rfl hvalues
      rw [value_runEntry_of_isCallable hcallable]
      have hiff :
          entry.2.invoke guards (subject.call entry.1) = .pass ↔
            entry.2.accepts (subject.values.property entry.1) = true := hpass
      rw [← hiff]
      cases h : entry.2.invoke guards (subject.call entry.1) with
      | pass => exact ⟨none, rfl, by simp⟩
      | fail failure => exact ⟨some failure, rfl, by simp⟩
      | fault | panicked =>
          rw [h] at hverdict
          cases hverdict

/-- A batch over built-in trees is never aborted.  Its failures are those of the entries that do not
accept the property of their name, one for each in their order, and it reports nothing when every
entry accepts. -/
theorem run_reports_rejected
    {specs : List (String × Slot)} (hspecs : ∀ entry ∈ specs, entry.2.isBuiltIn = true)
    {subject : Subject} (hvalues : subject.values.isNullish = false) :
    ((run specs subject).value = .ok none
      ↔
    ∀ entry ∈ specs, entry.2.accepts (subject.values.property entry.1) = true) ∧
    ∃ failures,
      (run specs subject).value = .ok (Report.ofFailures? failures) ∧
      List.Forall₂
        (fun entry failure => (runEntry .standard subject entry).value = .ok (some failure))
        (specs.filter fun entry => !entry.2.accepts (subject.values.property entry.1))
        failures := by
  obtain ⟨failures, hrun, hfailures⟩ :=
    exists_failures fun entry hentry =>
      value_runEntry_of_isBuiltIn .standard (hspecs entry hentry) hvalues
  have hvalue : (run specs subject).value = .ok (Report.ofFailures? failures) := by
    rw [run_eq, hrun]
    rfl
  refine ⟨?_, failures, hvalue, hfailures⟩
  have hlength := hfailures.length_eq
  rw [hvalue, Except.ok.injEq, Report.ofFailures?_eq_none_iff, ← List.length_eq_zero_iff,
    ← hlength, List.length_eq_zero_iff, List.filter_eq_nil_iff]
  simp

/-- An array of required texts is reported when an item is null, and an exact object when a property
is not declared; the date passes as an object. -/
theorem run_reports_rejected_items :
    let specs : List (String × Slot) :=
      [("tags", .checker (.arrayOf (.checker (.primitive "string") true)) false),
        ("point", .checker (.exact [("x", .checker (.primitive "number") true)]) true),
        ("day", .checker (.shape [("x", .checker .any false)]) true)]
    let subject : Subject :=
      ⟨.object 0 none
        [("tags", .array 1 [.string "a", .null]), ("point", .object 2 none [("y", .null)]),
          ("day", .date 3 ⟨0, 0⟩)],
        "prop", none⟩
    (∀ entry ∈ specs, entry.2.isBuiltIn = true) ∧ subject.values.isNullish = false ∧
      (run specs subject).value ≠ .ok none ∧
      ∃ failures, (run specs subject).value = .ok (Report.ofFailures? failures) ∧
        failures.length = 2 := by
  intro specs subject
  have hspecs : ∀ entry ∈ specs, entry.2.isBuiltIn = true := by decide
  have hvalues : subject.values.isNullish = false := rfl
  obtain ⟨hnone, failures, hrun, hfailures⟩ := run_reports_rejected hspecs hvalues
  refine ⟨hspecs, hvalues, ?_, failures, hrun, ?_⟩
  · rw [ne_eq, hnone]
    decide
  · rw [← hfailures.length_eq]
    decide

end Batch
end ShapeCheck
