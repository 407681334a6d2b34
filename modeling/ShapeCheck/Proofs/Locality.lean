import ShapeCheck.Proofs.Answers
import ShapeCheck.Proofs.Entries

/-!
# Locality

A checker is handed the whole container of the value in question.  A tree without rules of the
user's reads nothing in it but this one property: asked the same question about another container
that holds the same value under the key, it gives the same answer.  An object with declared fields
hides the rest of its properties in the same way, as long as they do not make it count as another
type.

* `Slot.invoke_inside`: what a tree answers in two containers that agree on the property.
* `Slot.invoke_shape_inside`: what fields answer on two values that agree on the declared names.
* `Batch.run_congr_of_reads`: batches over two values that agree on the names of the entries.
-/

namespace ShapeCheck

namespace Value

/-- An object declares itself a symbol by what it holds under one key. -/
theorem isMarkedSymbol_object
    (id : Identity) (cls : Option Class) (entries : List (String × Value)) :
    (object id cls entries).isMarkedSymbol =
      match (object id cls entries).property symbolMarkerKey with
      | string marker => marker == "Symbol"
      | _ => false := by
  rw [isMarkedSymbol, property]
  cases (object id cls entries).property? symbolMarkerKey with
  | none => rfl
  | some v => cases v <;> rfl

/-- Objects that agree on the key by which they could declare themselves symbols are of one type. -/
theorem propType_object_congr
    {id id' : Identity} {cls cls' : Option Class} {entries entries' : List (String × Value)}
    (h : (object id' cls' entries').property symbolMarkerKey =
      (object id cls entries).property symbolMarkerKey) :
    (object id' cls' entries').propType = (object id cls entries).propType := by
  simp only [propType, isSymbol, typeOf, isMarkedSymbol_object, h]

end Value

namespace Query

/-- The same question about another container. -/
def inside (q : Query) (container : Value) : Query :=
  { q with props := container }

@[simp] theorem inside_value (q : Query) (container : Value) :
    (q.inside container).value = container.property q.name := by
  rfl

@[simp] theorem inside_component (q : Query) (container : Value) :
    (q.inside container).component = q.component := by
  rfl

@[simp] theorem inside_location (q : Query) (container : Value) :
    (q.inside container).location = q.location := by
  rfl

@[simp] theorem inside_fullName (q : Query) (container : Value) :
    (q.inside container).fullName = q.fullName := by
  rfl

end Query

namespace Call

/-- The same call on another container. -/
def inside (call : Call) (container : Value) : Call :=
  { call with props := container }

@[simp] theorem inside_query (call : Call) (container : Value) :
    (call.inside container).query = call.query.inside container := by
  rfl

end Call

namespace Query

@[simp] theorem inside_forward (q : Query) (container : Value) :
    (q.inside container).forward = q.forward.inside container := by
  rfl

section SameValue

variable {q : Query} {container : Value} (hvalue : container.property q.name = q.value)
include hvalue

/-- About the same value the same questions are asked, wherever it was read. -/
theorem inside_item_of_value (index : Nat) :
    (q.inside container).item index = q.item index := by
  simp [item, child, hvalue]

theorem inside_member_of_value (key : String) :
    (q.inside container).member key = q.member key := by
  simp [member, child, hvalue]

end SameValue

end Query

namespace Slot

/-- Whether a slot, looked at without its children, is no rule of the user's. -/
def isNoRule : Slot → Bool
  | .checker (.custom _ _) _ => false
  | _ => true

/-- Whether no rule of the user's stands in a tree. -/
def isRuleFree (s : Slot) : Bool :=
  s.every isNoRule

/-- Two containers that hold the same value under the key of a call get the same answer. -/
def IsLocal (s : Slot) : Prop :=
  ∀ (call : Call) (container : Value),
    call.props.isNullish = false → container.isNullish = false →
    container.property call.name = call.query.value →
    s.invoke .standard (call.inside container) = s.invoke .standard call

end Slot

namespace Rule

variable {q : Query} {container : Value}

/-- Alternatives that answer alike make choices that answer alike: only the container is handed on,
and the failure of the choice shows nothing of it. -/
theorem testAlternatives_inside
    {alternatives : List (SlotView Outcome)}
    (h : ∀ a ∈ alternatives, a.invoke (q.forward.inside container) = a.invoke q.forward)
    (tried : Nat) (expected : List String) :
    testAlternatives tried expected (q.inside container) alternatives =
      testAlternatives tried expected q alternatives := by
  induction alternatives generalizing tried expected with
  | nil =>
      rfl
  | cons a rest ih =>
      obtain ⟨ha, hrest⟩ := List.forall_mem_cons.mp h
      rw [testAlternatives_cons, testAlternatives_cons, Query.inside_forward, ha]
      rcases a.invoke q.forward with _ | failure | (failure | returned) | text
      case fail => exact ih hrest _ _
      all_goals rfl

section SameValue

variable (hvalue : container.property q.name = q.value)
include hvalue

theorem testField_inside (key : String) (field : SlotView Outcome) :
    testField (q.inside container) key field = testField q key field := by
  rw [testField, testField, Query.inside_member_of_value hvalue]
  rfl

theorem testKey_inside (fields : List (String × Slot)) (key : String) :
    testKey .standard fields (q.inside container) key = testKey .standard fields q key := by
  rw [testKey, testKey]
  cases Keyed.get? fields key with
  | none => simp [Wording.undeclaredKey, hvalue]
  | some slot => exact testField_inside hvalue key _

/-- A rule of the library's looks at its container only to read the value in question; only a choice
of checkers hands the container on. -/
theorem test_inside
    {rule : Rule} {required : Bool}
    (hrule : (Slot.checker rule required).isNoRule = true)
    (hslots : ∀ child ∈ rule.slots, child.IsLocal)
    (hprops : q.props.isNullish = false)
    (hcontainer : container.isNullish = false) :
    rule.test .standard (q.inside container) = rule.test .standard q := by
  cases rule with
  | inert | any =>
      rfl
  | primitive type =>
      simp [test_eq_testPrimitive, testPrimitive, Wording.wrongType, hvalue]
  | instanceOf cls =>
      simp [test_eq_testInstanceOf, testInstanceOf, Wording.notAnInstance, hvalue]
  | oneOf allowed =>
      simp [test_eq_testOneOf, testOneOf, Wording.notAllowed, hvalue]
  | arrayOf item =>
      simp [test_arrayOf, Query.inside_item_of_value hvalue, Wording.notAnArray,
        Wording.invalidNotation, hvalue]
  | objectOf item =>
      simp [test_objectOf, Query.inside_member_of_value hvalue, Wording.notAMap,
        Wording.invalidNotation, hvalue]
  | oneOfType alternatives =>
      have halike : ∀ view ∈ alternatives.map (Slot.view .standard),
          view.invoke (q.forward.inside container) = view.invoke q.forward :=
        List.forall_mem_map.mpr fun a ha => hslots a ha q.forward container hprops hcontainer hvalue
      rw [test_eq_testOneOfType]
      exact testAlternatives_inside halike 0 []
  | shape fields =>
      simp [test_shape, testField_inside hvalue, Wording.notAnObject, hvalue]
  | exact fields =>
      have hkeys : testKey .standard fields (q.inside container) = testKey .standard fields q :=
        funext (testKey_inside hvalue fields)
      simp [test_exact, hkeys, Wording.notAnObject, hvalue]
  | custom label test =>
      cases hrule

end SameValue

/-- Fields see only what stands under their names, so they answer alike on two values of one type
that agree on these names. -/
theorem test_shape_inside
    {fields : List (String × Slot)} (hfields : ∀ field ∈ fields, field.2.IsLocal)
    (hpresent : q.value.isNullish = false)
    (hpresent' : (container.property q.name).isNullish = false)
    (htype : (container.property q.name).propType = q.value.propType)
    (hreads : ∀ field ∈ fields,
      (container.property q.name).property field.1 = q.value.property field.1) :
    (shape fields).test .standard (q.inside container) = (shape fields).test .standard q := by
  rw [test_shape, test_shape, Query.inside_value, htype]
  split
  · apply allPass_congr
    intro field hfield
    have hinvoke :
        field.2.invoke .standard ((q.inside container).member field.1) =
          field.2.invoke .standard (q.member field.1) :=
      hfields field hfield (q.member field.1) (container.property q.name) hpresent hpresent'
        (hreads field hfield)
    rw [testField, testField, Slot.view_invoke, hinvoke]
    rfl
  · simp [Wording.notAnObject, htype]

end Rule

namespace Slot

/-- A checker answers alike in two containers when it does so in each of the cases that it tells
apart. -/
theorem invoke_checker_inside
    {rule : Rule} {required : Bool} {call : Call} {container : Value}
    (hprops : call.props.isNullish = false)
    (hcontainer : container.isNullish = false)
    (hnullish : (container.property call.name).isNullish = call.query.value.isNullish)
    (habsent : call.query.value.isNullish = true →
      Wording.missing (call.query.inside container) = Wording.missing call.query)
    (hpresent : call.query.value.isNullish = false →
      rule.test .standard (call.query.inside container) = rule.test .standard call.query) :
    (checker rule required).invoke .standard (call.inside container) =
      (checker rule required).invoke .standard call := by
  cases hcaller : call.caller with
  | outside =>
      simp [invoke_checker, Checker.guarded, Call.inside, hcaller, Guards.standard]
  | batch =>
      have hcaller' : (call.inside container).caller = .batch := hcaller
      cases hvalue : call.query.value.isNullish with
      | true =>
          rw [hvalue] at hnullish
          rw [invoke_checker_of_absent hcaller hprops hvalue,
            invoke_checker_of_absent hcaller' hcontainer hnullish, Call.inside_query,
            habsent hvalue]
      | false =>
          rw [hvalue] at hnullish
          rw [invoke_checker_of_present hcaller hvalue,
            invoke_checker_of_present hcaller' hnullish, Call.inside_query, hpresent hvalue]

/-- A tree without rules of the user's reads nothing of a container beside the one property. -/
theorem invoke_inside {s : Slot} (hfree : s.isRuleFree = true) :
    s.IsLocal := by
  -- Only a choice passes the outer container down, so only there the children are needed.
  induction s using Slot.induction with
  | checker rule required ih =>
      obtain ⟨hrule, hchildren⟩ := every_checker hfree
      intro call container hprops hcontainer hvalue
      have hlocal : ∀ child ∈ rule.slots, child.IsLocal :=
        fun child hchild => ih child hchild (hchildren child hchild)
      apply invoke_checker_inside hprops hcontainer
      · exact congrArg Value.isNullish hvalue
      · intro _
        have hread : (call.query.inside container).value = call.query.value := hvalue
        rw [Wording.missing, hread]
        rfl
      · intro _
        exact Rule.test_inside hvalue hrule hlocal hprops hcontainer
  | factory f =>
      intro call container _ _ _
      rfl
  | list items =>
      intro call container _ _ _
      rfl
  | value v =>
      intro call container _ _ _
      rfl

/-- Fields answer alike on two present values of one type that agree on the declared names. -/
theorem invoke_shape_inside
    {fields : List (String × Slot)} (hfields : ∀ field ∈ fields, field.2.isRuleFree = true)
    {call : Call} {container : Value}
    (hpresent : call.query.value.isNullish = false)
    (hpresent' : (container.property call.name).isNullish = false)
    (htype : (container.property call.name).propType = call.query.value.propType)
    (hreads : ∀ field ∈ fields,
      (container.property call.name).property field.1 = call.query.value.property field.1)
    (required : Bool) :
    (checker (.shape fields) required).invoke .standard (call.inside container) =
      (checker (.shape fields) required).invoke .standard call := by
  apply invoke_checker_inside
  · exact Value.isNullish_of_property hpresent
  · exact Value.isNullish_of_property hpresent'
  · rw [hpresent, hpresent']
  · intro habsent
    rw [hpresent] at habsent
    cases habsent
  · intro _
    exact Rule.test_shape_inside (fun field hfield => invoke_inside (hfields field hfield)) hpresent
      hpresent' htype hreads

end Slot

namespace Batch

/-- Batches over two values that agree on the names of the entries report and log the same. -/
theorem run_congr_of_reads
    {values values' : Value} {location : String} {component : Option String}
    {specs : List (String × Slot)} (hfree : ∀ entry ∈ specs, entry.2.isRuleFree = true)
    (hvalues : values.isNullish = false) (hvalues' : values'.isNullish = false)
    (hreads : ∀ entry ∈ specs, values'.property entry.1 = values.property entry.1) :
    run specs ⟨values', location, component⟩ = run specs ⟨values, location, component⟩ :=
  run_of_invoke_eq (by rfl) (by rfl) fun entry hentry =>
    Slot.invoke_inside (hfree entry hentry) (Subject.call ⟨values, location, component⟩ entry.1)
      values' hvalues hvalues' (hreads entry hentry)

/-- Trees without rules of the user's read what is declared and nothing else.  Two values that agree
on the names of the entries get the same report or abort, and log the same.  Fields answer alike on
two present objects that agree on the declared names; what else an object holds, and in which order,
shows only where the object declares itself a symbol by it. -/
theorem reads_only_declared_names :
    (∀ (specs : List (String × Slot)) (values values' : Value)
      (location : String) (component : Option String),
      (∀ entry ∈ specs, entry.2.isRuleFree = true) →
      values.isNullish = false → values'.isNullish = false →
      (∀ entry ∈ specs, values'.property entry.1 = values.property entry.1) →
      run specs ⟨values', location, component⟩ = run specs ⟨values, location, component⟩) ∧
    (∀ (fields : List (String × Slot)) (required : Bool) (call : Call) (container v v' : Value),
      (∀ field ∈ fields, field.2.isRuleFree = true) →
      call.props.property call.name = v → container.property call.name = v' →
      v.isNullish = false → v'.isNullish = false →
      v.propType = .object → v'.propType = .object →
      (∀ field ∈ fields, v'.property field.1 = v.property field.1) →
      (Slot.checker (.shape fields) required).invoke .standard { call with props := container } =
        (Slot.checker (.shape fields) required).invoke .standard call) ∧
    (∀ (fields : List (String × Slot)) (required : Bool) (call : Call) (container : Value)
      (id id' : Identity) (cls cls' : Option Class) (entries entries' : List (String × Value)),
      (∀ field ∈ fields, field.2.isRuleFree = true) →
      call.props.property call.name = .object id cls entries →
      container.property call.name = .object id' cls' entries' →
      (∀ key, key ∈ Keyed.keys fields ∨ key = Value.symbolMarkerKey →
        (Value.object id' cls' entries').property key =
          (Value.object id cls entries).property key) →
      (Slot.checker (.shape fields) required).invoke .standard { call with props := container } =
        (Slot.checker (.shape fields) required).invoke .standard call) := by
  refine ⟨?_, ?_, ?_⟩
  · intro specs values values' location component hfree hvalues hvalues' hreads
    exact run_congr_of_reads hfree hvalues hvalues' hreads
  · rintro fields required call container v v' hfree rfl rfl hv hv' hobject hobject' hreads
    exact Slot.invoke_shape_inside hfree hv hv' (hobject'.trans hobject.symm) hreads required
  · intro fields required call container id id' cls cls' entries entries' hfree hv hv' hreads
    have hvalue : call.query.value = .object id cls entries := hv
    apply Slot.invoke_shape_inside hfree
    · rw [hvalue]
      rfl
    · rw [hv']
      rfl
    · rw [hvalue, hv']
      exact Value.propType_object_congr (hreads _ (Or.inr rfl))
    · intro field hfield
      rw [hvalue, hv']
      exact hreads field.1 (Or.inl (List.mem_map_of_mem hfield))

/-- An array and an object that hold the same under one name get the same report, and fields
overlook what an object holds besides, also where both objects are symbols. -/
theorem reads_only_declared_names_of_row :
    let text : Slot := .checker (.primitive "string") true
    let fields : Slot := .checker (.shape [("a", text)]) false
    let specs : List (String × Slot) :=
      [("0", .checker (.oneOfType [text, fields]) true), ("name", .value .null)]
    let plain : Value := .object 1 none [("a", .null)]
    let other : Value := .object 2 (some .date) [("b", .bool true), ("a", .null)]
    let marker : String × Value := ("@@toStringTag", .string "Symbol")
    let subject (values : Value) : Subject := ⟨values, "prop", none⟩
    let call (v : Value) : Call := (subject (.array 3 [v])).call "0"
    run specs (subject (.array 3 [plain, .null])) =
        run specs (subject (.object 4 none [("0", plain)])) ∧
      fields.invoke .standard (call other) = fields.invoke .standard (call plain) ∧
      fields.invoke .standard (call (.object 6 none [marker, ("b", .null)])) =
        fields.invoke .standard (call (.object 5 none [marker])) := by
  intro text fields specs plain other marker subject call
  obtain ⟨hbatch, hobjects, hreordered⟩ := reads_only_declared_names
  have hitem (items : List Value) :
      (Value.array 3 items).property "0" = items[0]?.getD .undefined :=
    Value.property_toString 3 items 0
  have hname (items : List Value) : (Value.array 3 items).property "name" = .undefined := by
    have hindex : arrayIndex? "name" = none := by decide +kernel
    rw [Value.property, Value.property?, hindex]
    rfl
  refine ⟨?_, ?_, ?_⟩
  · apply hbatch
    · decide
    · rfl
    · rfl
    · intro entry hentry
      simp only [specs, List.mem_cons, List.not_mem_nil, or_false] at hentry
      obtain rfl | rfl := hentry
      · exact hitem _
      · exact hname _
  · refine hobjects [("a", text)] false (call plain) (.array 3 [other]) plain other ?_ (hitem _)
      (hitem _) rfl rfl rfl rfl ?_
    · decide
    · intro field hfield
      rw [List.mem_singleton.mp hfield]
      rfl
  · refine hreordered [("a", text)] false (call (.object 5 none [marker]))
      (.array 3 [.object 6 none [marker, ("b", .null)]]) 5 6 none none _ _ ?_ (hitem _) (hitem _) ?_
    · decide
    · intro key hkey
      simp only [Keyed.keys_cons, Keyed.keys_nil, List.mem_cons, List.not_mem_nil, or_false]
        at hkey
      obtain rfl | rfl := hkey <;> rfl

/-- Null counts as an object, and an object may declare itself a symbol.  Under every declared name
both read like an empty object, but they do not get its answer: null is judged before its fields,
and a symbol is no object. -/
theorem shape_tells_null_and_symbols_from_objects :
    let fields : List (String × Slot) := [("a", .checker (.primitive "string") true)]
    let answer (v : Value) : Outcome :=
      (Slot.checker (.shape fields) false).invoke .standard
        (Subject.call ⟨.object 0 none [("x", v)], "prop", some "C"⟩ "x")
    let empty : Value := .object 1 none []
    let marked : Value := .object 1 none [("@@toStringTag", .string "Symbol")]
    (∀ field ∈ fields, field.2.isRuleFree = true) ∧
      Value.null.propType = .object ∧ empty.propType = .object ∧
      (∀ field ∈ fields, Value.null.property field.1 = empty.property field.1 ∧
        marked.property field.1 = empty.property field.1) ∧
      answer .null ≠ answer empty ∧ answer marked ≠ answer empty := by
  intro fields answer empty marked
  refine ⟨by decide, rfl, rfl, ?_, by decide +kernel, by decide +kernel⟩
  intro field hfield
  rw [List.mem_singleton.mp hfield]
  exact ⟨rfl, rfl⟩

end Batch
end ShapeCheck
