import ShapeCheck.Proofs.Answers
import ShapeCheck.Proofs.Entries
import ShapeCheck.Proofs.Path

/-!
# Questions to rules of the user's

A rule of the user's is asked only about a value that is there, in a container that is there, and
with all names filled in.  What it would answer to any other question makes no difference, wherever
it stands in a tree: behind items that are null, behind fields that are missing, among alternatives
or under a mark of being required.

* `Checker.guarded_congr`: the guards of a checker let only complete questions through.
* `Slot.AgreesWith.view_eq`: trees whose rules agree on complete questions answer alike.
* `Batch.rules_see_complete_queries_only`: the same for batches, log included.
-/

namespace ShapeCheck

/-- What the rules of the user's rely on: the container and the value are there, the component has a
name, and the path is empty at most where the key is. -/
structure Query.IsComplete (q : Query) : Prop where
  container : q.props.isNullish = false
  value : (q.props.property q.name).isNullish = false
  component : q.component ≠ ""
  fullName : q.name ≠ "" → q.fullName ≠ ""

namespace Call

/-- The question that a call amounts to has a component with a name. -/
theorem query_component_ne (call : Call) :
    call.query.component ≠ "" := by
  have hname : (nameOr anonymousName call.component).isEmpty = false :=
    nameOr_isEmpty (by decide) call.component
  exact String.isEmpty_eq_false_iff.mp hname

/-- Its path is empty only where its key is. -/
theorem query_fullName_ne {call : Call} (h : call.name ≠ "") :
    call.query.fullName ≠ "" := by
  have hname : (nameOr call.name call.fullName).isEmpty = false :=
    nameOr_isEmpty (String.isEmpty_eq_false_iff.mpr h) call.fullName
  exact String.isEmpty_eq_false_iff.mp hname

/-- A call on a value that is there amounts to a complete question. -/
theorem isComplete_query
    {call : Call} (hprops : call.props.isNullish = false)
    (hvalue : call.query.value.isNullish = false) :
    call.query.IsComplete where
  container := hprops
  value := hvalue
  component := call.query_component_ne
  fullName := query_fullName_ne

end Call

/-- The guards of a checker let only complete questions through to its rule. -/
theorem Checker.guarded_congr
    {test test' : Query → Outcome} (h : ∀ q : Query, q.IsComplete → test' q = test q)
    (guards : Guards) (inert required : Bool) (call : Call) :
    guarded guards inert required test' call = guarded guards inert required test call :=
  guarded_congr_of_present fun hvalue =>
    h call.query (Call.isComplete_query (Value.isNullish_of_property hvalue) hvalue)

namespace Slot

/-- Two trees are the same but for the rules of the user's in them, and where they have different
ones, these give the same answers to complete questions.  The slots of two choices, and the fields
of two objects, are given side by side. -/
inductive AgreesWith : Slot → Slot → Prop
  | custom
      {test test' : Query → Outcome} (label : String) (required : Bool)
      (h : ∀ q : Query, q.IsComplete → test' q = test q) :
      AgreesWith (.checker (.custom label test) required) (.checker (.custom label test') required)
  | same (s : Slot) :
      AgreesWith s s
  | arrayOf {item item' : Slot} (required : Bool) (h : AgreesWith item item') :
      AgreesWith (.checker (.arrayOf item) required) (.checker (.arrayOf item') required)
  | objectOf {item item' : Slot} (required : Bool) (h : AgreesWith item item') :
      AgreesWith (.checker (.objectOf item) required) (.checker (.objectOf item') required)
  | oneOfType
      (alternatives : List (Slot × Slot)) (required : Bool)
      (h : ∀ pair ∈ alternatives, AgreesWith pair.1 pair.2) :
      AgreesWith
        (.checker (.oneOfType (alternatives.map fun pair => pair.1)) required)
        (.checker (.oneOfType (alternatives.map fun pair => pair.2)) required)
  | shape
      (fields : List (String × Slot × Slot)) (required : Bool)
      (h : ∀ field ∈ fields, AgreesWith field.2.1 field.2.2) :
      AgreesWith
        (.checker (.shape (fields.map fun field => (field.1, field.2.1))) required)
        (.checker (.shape (fields.map fun field => (field.1, field.2.2))) required)
  | exact
      (fields : List (String × Slot × Slot)) (required : Bool)
      (h : ∀ field ∈ fields, AgreesWith field.2.1 field.2.2) :
      AgreesWith
        (.checker (.exact (fields.map fun field => (field.1, field.2.1))) required)
        (.checker (.exact (fields.map fun field => (field.1, field.2.2))) required)
  | list
      (items : List (Slot × Slot)) (h : ∀ pair ∈ items, AgreesWith pair.1 pair.2) :
      AgreesWith
        (.list (items.map fun pair => pair.1))
        (.list (items.map fun pair => pair.2))

end Slot

section Views

variable {guards : Guards}

theorem map_view_congr
    {pairs : List (Slot × Slot)}
    (h : ∀ pair ∈ pairs, pair.2.view guards = pair.1.view guards) :
    (pairs.map fun pair => pair.2).map (Slot.view guards) =
      (pairs.map fun pair => pair.1).map (Slot.view guards) := by
  rw [List.map_map, List.map_map]
  exact List.map_congr_left h

theorem map_field_view_congr
    {fields : List (String × Slot × Slot)}
    (h : ∀ field ∈ fields, field.2.2.view guards = field.2.1.view guards) :
    (fields.map fun field => (field.1, field.2.2)).map
        (fun field => (field.1, field.2.view guards)) =
      (fields.map fun field => (field.1, field.2.1)).map
        fun field => (field.1, field.2.view guards) := by
  rw [List.map_map, List.map_map]
  refine List.map_congr_left fun field hfield => ?_
  exact congrArg (Prod.mk field.1) (h field hfield)

/-- Checkers whose rules give the same answers to complete questions look alike. -/
theorem Slot.view_checker_congr
    {rule rule' : Rule} (hinert : rule'.isInert = rule.isInert)
    (h : ∀ q : Query, q.IsComplete → rule'.test guards q = rule.test guards q)
    (required : Bool) :
    (checker rule' required).view guards = (checker rule required).view guards := by
  have hinvoke :
      Checker.guarded guards rule'.isInert required (rule'.test guards) =
        Checker.guarded guards rule.isInert required (rule.test guards) := by
    rw [hinert]
    exact funext (Checker.guarded_congr h guards rule.isInert required)
  exact congrArg (SlotView.mk true .function) hinvoke

end Views

namespace Slot.AgreesWith

variable {s s' : Slot}

/-- Trees whose rules of the user's agree on complete questions answer every call alike. -/
theorem view_eq (h : s.AgreesWith s') (guards : Guards) :
    s'.view guards = s.view guards := by
  -- Only the rules of the user's are asked different things; every other rule sees equal views.
  induction h with
  | custom label required h =>
      refine view_checker_congr (by rfl) (fun q hq => ?_) required
      exact h q hq
  | same s =>
      rfl
  | arrayOf required h ih =>
      refine view_checker_congr (by rfl) (fun q _ => ?_) required
      rw [Rule.test_eq_testArrayOf, Rule.test_eq_testArrayOf, ih]
  | objectOf required h ih =>
      refine view_checker_congr (by rfl) (fun q _ => ?_) required
      rw [Rule.test_eq_testObjectOf, Rule.test_eq_testObjectOf, ih]
  | oneOfType alternatives required h ih =>
      refine view_checker_congr (by rfl) (fun q _ => ?_) required
      rw [Rule.test_eq_testOneOfType, Rule.test_eq_testOneOfType, map_view_congr ih]
  | shape fields required h ih =>
      refine view_checker_congr (by rfl) (fun q _ => ?_) required
      rw [Rule.test_eq_testShape, Rule.test_eq_testShape, map_field_view_congr ih]
  | exact fields required h ih =>
      refine view_checker_congr (by rfl) (fun q _ => ?_) required
      rw [Rule.test_eq_testExact, Rule.test_eq_testExact, map_field_view_congr ih]
  | list items h ih =>
      rfl

theorem typeOf_eq (h : s.AgreesWith s') :
    s'.typeOf = s.typeOf := by
  cases h <;> rfl

theorem isCallable_eq (h : s.AgreesWith s') :
    s'.isCallable = s.isCallable := by
  rw [← view_callable .standard s', h.view_eq, view_callable]

theorem invoke_eq (h : s.AgreesWith s') (guards : Guards) :
    s'.invoke guards = s.invoke guards := by
  rw [← view_invoke, h.view_eq, view_invoke]

end Slot.AgreesWith

namespace Batch

variable {guards : Guards} {subject : Subject}

/-- Entries of one name whose trees agree contribute and log the same. -/
theorem runEntry_of_agreesWith
    {name : String} {s s' : Slot} (h : s.AgreesWith s') :
    runEntry guards subject (name, s') = runEntry guards subject (name, s) := by
  rw [runEntry, runEntry, runEntryIn, runEntryIn, h.isCallable_eq, h.invoke_eq, h.typeOf_eq]

theorem runEntries_of_agreesWith
    {entries entries' : List (String × Slot)}
    (h : List.Forall₂ (fun e e' => e'.1 = e.1 ∧ e.2.AgreesWith e'.2) entries entries') :
    runEntries guards subject entries' = runEntries guards subject entries := by
  induction h with
  | nil =>
      rfl
  | @cons e e' rest rest' he _ ih =>
      obtain ⟨name, s⟩ := e
      obtain ⟨name', s'⟩ := e'
      obtain ⟨rfl, hs⟩ := he
      rw [runEntries_cons, runEntries_cons, runEntry_of_agreesWith hs, ih]

/-- Rules of the user's are asked only about values that are there, with all names filled in.
Entries that are the same but for such rules, at any depth, are reported and logged alike as long as
the rules give the same answers to complete questions; and an empty component name is no name. -/
theorem rules_see_complete_queries_only :
    (∀ (specs specs' : List (String × Slot)) (subject : Subject),
      List.Forall₂ (fun entry entry' => entry'.1 = entry.1 ∧ entry.2.AgreesWith entry'.2)
        specs specs' →
      run specs' subject = run specs subject) ∧
    ∀ (specs : List (String × Slot)) (values : Value) (location : String),
      run specs ⟨values, location, some ""⟩ = run specs ⟨values, location, none⟩ := by
  constructor
  · intro specs specs' subject h
    rw [run_eq, run_eq, runEntries_of_agreesWith h]
  · intro specs values location
    refine run_of_invoke_eq (by rfl) (by rfl) fun entry _ => ?_
    -- The name of the component is filled in before any rule is asked.
    cases entry.2 <;> rfl

/-- A rule that panics when it is asked about null or about nothing, or without the name of the
component or the path, is not asked so: behind a null item, behind a missing field, and for a
component without a name. -/
theorem rules_see_complete_queries_only_of_wary :
    let named (q : Query) : Outcome := .fail (.plain (q.component ++ "|" ++ q.fullName))
    let wary (q : Query) : Outcome :=
      if q.value.isNullish ∨ q.component = "" ∨ (q.name ≠ "" ∧ q.fullName = "") then
        .panicked none
      else
        named q
    let specs (test : Query → Outcome) : List (String × Slot) :=
      [("x", .checker (.arrayOf (.checker (.custom "rule" test) false)) true),
        ("y", .checker (.shape [("a", .checker (.custom "rule" test) false)]) true)]
    let subject : Subject :=
      ⟨.object 0 none [("x", .array 1 [.null, .bool true]), ("y", .object 2 none [])], "prop",
        some ""⟩
    run (specs wary) subject = run (specs named) subject ∧
      (run (specs wary) subject).value =
        .ok (Report.ofFailures? [.plain "<<anonymous>>|x[1]"]) := by
  intro named wary specs subject
  have hwary : ∀ q : Query, q.IsComplete → wary q = named q := by
    intro q hq
    refine if_neg ?_
    rintro (hvalue | hcomponent | ⟨hname, hfullName⟩)
    · rw [Query.value, hq.value] at hvalue
      cases hvalue
    · exact hq.component hcomponent
    · exact hq.fullName hname hfullName
  have hrule : (Slot.checker (.custom "rule" named) false).AgreesWith
      (.checker (.custom "rule" wary) false) :=
    .custom "rule" false hwary
  have hrun : run (specs wary) subject = run (specs named) subject := by
    refine rules_see_complete_queries_only.1 (specs named) (specs wary) subject ?_
    refine .cons ⟨rfl, .arrayOf true hrule⟩ (.cons ⟨rfl, ?_⟩ .nil)
    refine .shape [("a", _, _)] true fun field hfield => ?_
    rw [List.mem_singleton.mp hfield]
    exact hrule
  refine ⟨hrun, ?_⟩
  rw [hrun]
  decide +kernel

end Batch
end ShapeCheck
