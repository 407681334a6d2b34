import ShapeCheck.Checker.Wording

/-!
# Running checkers

A rule with slots looks at a slot only through its view: whether it can be called, its precise type
and how it answers a call.  Each kind of rule is a function on views, and running a checker is the
recursion over its tree that turns slots into views.

What a run returns is a parameter.  It may be the outcome alone or keep more of what happened on the
way, but what a rule does next depends on the outcome so far only.

Null and undefined never reach a rule, a rule without any demands passes before anything is looked
at, and a call from outside of a batch is refused before that.  What is answered in the three cases
that a batch rules out is a parameter too, the guards.

Main statements: `allPass_eq_pass_iff` and `noneFails_eq_pass_iff` say when a run of tests passes,
`check_outside` that a call from outside is always refused.
-/

namespace ShapeCheck

/-- What the run of a checker returns. -/
class Answer (A : Type) where
  /-- An outcome for which no rule of the user's is asked. -/
  ofOutcome : Outcome → A
  /-- What is done next, depending on the outcome so far. -/
  andThen : A → (Outcome → A) → A
  /-- What a rule of the user's says to a question. -/
  ofRule : (label : String) → (test : Query → Outcome) → Query → A

namespace Answer

/-- A run that returns its outcome and nothing else. -/
instance : Answer Outcome where
  ofOutcome outcome := outcome
  andThen outcome next := next outcome
  ofRule _ test q := test q

@[simp] theorem ofOutcome_outcome (outcome : Outcome) :
    (ofOutcome outcome : Outcome) = outcome := by
  rfl

@[simp] theorem andThen_outcome (outcome : Outcome) (next : Outcome → Outcome) :
    andThen outcome next = next outcome := by
  rfl

@[simp] theorem ofRule_outcome (label : String) (test : Query → Outcome) (q : Query) :
    (ofRule label test q : Outcome) = test q := by
  rfl

end Answer

open Answer (ofOutcome andThen ofRule)

/-- The answers in cases of misuse. -/
structure Guards where
  /-- A call from outside of a batch. -/
  outside : Call → Outcome
  /-- A call of a slot that holds no checker, but something of the given type. -/
  notCallable : Tag → Call → Outcome
  /-- A call on a property of null or undefined. -/
  noContainer : Call → Outcome

/-- Every misuse raises a failure. -/
def Guards.standard : Guards where
  outside _ := .fault (.raised Wording.calledDirectly)
  notCallable found call :=
    .fault (.raised (Wording.notCallable (call.fullName.getD call.name) found))
  noContainer call := .fault (.raised (Wording.noContainer call.props call.name))

/-- What a rule sees of a slot. -/
structure SlotView (A : Type) where
  callable : Bool
  preciseType : Tag
  invoke : Call → A

section Loops

variable {A α : Type} [Answer A]

/-- Runs the tests in order until one does not pass. -/
def allPass (test : α → A) : List α → A
  | [] => ofOutcome .pass
  | a :: rest =>
      andThen (test a) fun
        | .pass => allPass test rest
        | outcome => ofOutcome outcome

/-- Runs the tests in order until one fails, raises or panics; an answer that is neither a pass nor
a failure counts as a pass. -/
def noneFails (test : α → A) : List α → A
  | [] => ofOutcome .pass
  | a :: rest =>
      andThen (test a) fun
        | .pass | .fault (.notAFailure _) => noneFails test rest
        | outcome => ofOutcome outcome

end Loops

/-- All pass when each one passes. -/
theorem allPass_eq_pass_iff
    {α : Type} (test : α → Outcome) (l : List α) :
    allPass test l = .pass ↔ ∀ a ∈ l, test a = .pass := by
  induction l with
  | nil =>
      simp [allPass]
  | cons a rest ih =>
      cases h : test a <;> simp [allPass, h, ih]

/-- None fails when each one passes or answers with neither a pass nor a failure. -/
theorem noneFails_eq_pass_iff
    {α : Type} (test : α → Outcome) (l : List α) :
    noneFails test l = .pass ↔
      ∀ a ∈ l, test a = .pass ∨ ∃ returned, test a = .fault (.notAFailure returned) := by
  induction l with
  | nil =>
      simp [noneFails]
  | cons a rest ih =>
      cases h : test a with
      | pass =>
          simp [noneFails, h, ih]
      | fail failure =>
          simp [noneFails, h]
      | fault f =>
          cases f <;> simp [noneFails, h, ih]
      | panicked text =>
          simp [noneFails, h]

namespace Rule

/-- The deciding type of the value has the given name. -/
def testPrimitive (type : String) (q : Query) : Outcome :=
  if q.value.propType.name = type then .pass else .fail (Wording.wrongType q type)

/-- The value is an instance of the class. -/
def testInstanceOf (cls : Class) (q : Query) : Outcome :=
  if q.value.isInstanceOf cls then .pass else .fail (Wording.notAnInstance q cls)

/-- The value is one of those allowed. -/
def testOneOf (allowed : List Value) (q : Query) : Outcome :=
  if allowed.any q.value.sameValue then .pass else .fail (Wording.notAllowed q allowed)

variable {A : Type} [Answer A]

/-- The value is an array whose items all pass. -/
def testArrayOf (item : SlotView A) (q : Query) : A :=
  if item.callable then
    match q.value.items? with
    | some items => noneFails (fun index => item.invoke (q.item index)) (List.range items.length)
    | none => ofOutcome (.fail (Wording.notAnArray q))
  else
    ofOutcome (.fail (Wording.invalidNotation q .arrayOf))

/-- The value is an object whose own properties all pass. -/
def testObjectOf (item : SlotView A) (q : Query) : A :=
  if item.callable then
    if q.value.propType = .object then
      noneFails (fun key => item.invoke (q.member key)) q.value.ownKeys
    else
      ofOutcome (.fail (Wording.notAMap q))
  else
    ofOutcome (.fail (Wording.invalidNotation q .objectOf))

/-- Some alternative passes.  The first argument is the number of alternatives tried before, the
second the types that they would have passed. -/
def testAlternatives (tried : Nat) (expected : List String) (q : Query) : List (SlotView A) → A
  | [] => ofOutcome (.fail (Wording.noAlternative q expected))
  | alternative :: rest =>
      andThen (alternative.invoke q.forward) fun
        | .fail failure =>
            testAlternatives (tried + 1) (expected ++ failure.details.expectedType.toList) q rest
        | .fault (.notAFailure returned) =>
            ofOutcome (.fault (.raised (Wording.alternativeNotAFailure q tried returned)))
        | outcome => ofOutcome outcome

def testOneOfType (alternatives : List (SlotView A)) (q : Query) : A :=
  testAlternatives 0 [] q alternatives

/-- The field under a key passes. -/
def testField (q : Query) (key : String) (field : SlotView A) : A :=
  if field.callable then field.invoke (q.member key)
  else ofOutcome (.fail (Wording.invalidField q key field.preciseType))

/-- The value is an object whose declared fields all pass. -/
def testShape (fields : List (String × SlotView A)) (q : Query) : A :=
  if q.value.propType = .object then
    allPass (fun field => testField q field.1 field.2) fields
  else
    ofOutcome (.fail (Wording.notAnObject q))

/-- The keys that an exact object is checked at: its own, then the declared ones among the rest. -/
def exactKeys (own declared : List String) : List String :=
  own ++ declared.filter (!own.contains ·)

/-- The value is an object whose own keys are declared and whose declared fields all pass. -/
def testExact (fields : List (String × SlotView A)) (q : Query) : A :=
  if q.value.propType = .object then
    allPass
      (fun key =>
        match Keyed.get? fields key with
        | some field => testField q key field
        | none => ofOutcome (.fail (Wording.undeclaredKey q key (Keyed.keys fields))))
      (exactKeys q.value.ownKeys (Keyed.keys fields))
  else
    ofOutcome (.fail (Wording.notAnObject q))

/-- Alternatives are tried in order until one does not fail. -/
theorem testAlternatives_cons
    (tried : Nat) (expected : List String) (q : Query)
    (alternative : SlotView Outcome) (rest : List (SlotView Outcome)) :
    testAlternatives tried expected q (alternative :: rest) =
      match alternative.invoke q.forward with
      | .fail failure =>
          testAlternatives (tried + 1) (expected ++ failure.details.expectedType.toList) q rest
      | .fault (.notAFailure returned) =>
          .fault (.raised (Wording.alternativeNotAFailure q tried returned))
      | outcome => outcome := by
  rfl

end Rule

namespace Checker

/-- What a checker answers before, or instead of, asking its rule. -/
def guarded {A : Type} [Answer A]
    (guards : Guards) (inert required : Bool) (test : Query → A) (call : Call) : A :=
  if call.caller = .outside then
    ofOutcome (guards.outside call)
  else if inert then
    ofOutcome .pass
  else if call.props.isNullish then
    ofOutcome (guards.noContainer call)
  else if call.query.value.isNullish then
    ofOutcome (if required then .fail (Wording.missing call.query) else .pass)
  else
    test call.query

end Checker

section Runs

variable (A : Type) [Answer A]

mutual

/-- What a rule sees of a slot in a run that returns an `A`. -/
def Slot.viewIn (guards : Guards) : Slot → SlotView A
  | .checker rule required =>
      ⟨true, .function, Checker.guarded guards rule.isInert required (rule.testIn guards)⟩
  | .factory _ => ⟨true, .function, fun _ => ofOutcome (.fault (.notAFailure Tag.function.name))⟩
  | .list _ => ⟨false, .array, fun call => ofOutcome (guards.notCallable .array call)⟩
  | .value v =>
      ⟨false, v.preciseType, fun call => ofOutcome (guards.notCallable v.preciseType call)⟩

/-- What a rule answers on a value that is neither null nor undefined. -/
def Rule.testIn (guards : Guards) : Rule → Query → A
  | .inert _ => fun _ => ofOutcome .pass
  | .primitive type => fun q => ofOutcome (Rule.testPrimitive type q)
  | .any => fun _ => ofOutcome .pass
  | .arrayOf item => Rule.testArrayOf (item.viewIn guards)
  | .objectOf item => Rule.testObjectOf (item.viewIn guards)
  | .instanceOf cls => fun q => ofOutcome (Rule.testInstanceOf cls q)
  | .oneOf allowed => fun q => ofOutcome (Rule.testOneOf allowed q)
  | .oneOfType alternatives => Rule.testOneOfType (viewSlotsIn guards alternatives)
  | .shape fields => Rule.testShape (viewFieldsIn guards fields)
  | .exact fields => Rule.testExact (viewFieldsIn guards fields)
  | .custom label test => ofRule label test

/-- The views of slots in order. -/
def viewSlotsIn (guards : Guards) : List Slot → List (SlotView A)
  | [] => []
  | slot :: rest => slot.viewIn guards :: viewSlotsIn guards rest

/-- The views of fields in order. -/
def viewFieldsIn (guards : Guards) : List (String × Slot) → List (String × SlotView A)
  | [] => []
  | (key, slot) :: rest => (key, slot.viewIn guards) :: viewFieldsIn guards rest

end

@[simp] theorem Slot.viewIn_callable (guards : Guards) (slot : Slot) :
    (slot.viewIn A guards).callable = slot.isCallable := by
  cases slot <;> rfl

@[simp] theorem Slot.viewIn_preciseType (guards : Guards) (slot : Slot) :
    (slot.viewIn A guards).preciseType = slot.preciseType := by
  cases slot <;> rfl

@[simp] theorem viewSlotsIn_eq_map (guards : Guards) (slots : List Slot) :
    viewSlotsIn A guards slots = slots.map (Slot.viewIn A guards) := by
  induction slots with
  | nil => rfl
  | cons slot rest ih => simp [viewSlotsIn, ih]

@[simp] theorem viewFieldsIn_eq_map (guards : Guards) (fields : List (String × Slot)) :
    viewFieldsIn A guards fields =
      fields.map fun field => (field.1, field.2.viewIn A guards) := by
  induction fields with
  | nil => rfl
  | cons field rest ih => simp [viewFieldsIn, ih]

end Runs

namespace Slot

/-- What a rule sees of a slot. -/
def view (guards : Guards) (slot : Slot) : SlotView Outcome :=
  slot.viewIn Outcome guards

/-- The answer of a slot to a call. -/
def invoke (guards : Guards) (slot : Slot) (call : Call) : Outcome :=
  (slot.view guards).invoke call

@[simp] theorem view_callable (guards : Guards) (slot : Slot) :
    (slot.view guards).callable = slot.isCallable :=
  slot.viewIn_callable Outcome guards

@[simp] theorem view_preciseType (guards : Guards) (slot : Slot) :
    (slot.view guards).preciseType = slot.preciseType :=
  slot.viewIn_preciseType Outcome guards

end Slot

namespace Rule

variable (guards : Guards)

/-- What a rule answers on a value that is neither null nor undefined. -/
def test (rule : Rule) : Query → Outcome :=
  rule.testIn Outcome guards

@[simp] theorem test_inert (origin : Factory) (q : Query) :
    (inert origin).test guards q = .pass := by
  rfl

@[simp] theorem test_any (q : Query) :
    any.test guards q = .pass := by
  rfl

theorem test_eq_testPrimitive (type : String) :
    (primitive type).test guards = testPrimitive type := by
  rfl

theorem test_eq_testInstanceOf (cls : Class) :
    (instanceOf cls).test guards = testInstanceOf cls := by
  rfl

theorem test_eq_testOneOf (allowed : List Value) :
    (oneOf allowed).test guards = testOneOf allowed := by
  rfl

theorem test_eq_testArrayOf (item : Slot) :
    (arrayOf item).test guards = testArrayOf (item.view guards) := by
  rfl

theorem test_eq_testObjectOf (item : Slot) :
    (objectOf item).test guards = testObjectOf (item.view guards) := by
  rfl

theorem test_eq_testOneOfType (alternatives : List Slot) :
    (oneOfType alternatives).test guards =
      testOneOfType (alternatives.map (Slot.view guards)) := by
  rw [test, testIn, viewSlotsIn_eq_map]
  rfl

theorem test_eq_testShape (fields : List (String × Slot)) :
    (shape fields).test guards =
      testShape (fields.map fun field => (field.1, field.2.view guards)) := by
  rw [test, testIn, viewFieldsIn_eq_map]
  rfl

theorem test_eq_testExact (fields : List (String × Slot)) :
    (exact fields).test guards =
      testExact (fields.map fun field => (field.1, field.2.view guards)) := by
  rw [test, testIn, viewFieldsIn_eq_map]
  rfl

@[simp] theorem test_custom (label : String) (rule : Query → Outcome) :
    (custom label rule).test guards = rule := by
  rfl

end Rule

namespace Slot

/-- A checker answers what its guards let its rule answer. -/
theorem invoke_checker (guards : Guards) (rule : Rule) (required : Bool) :
    (checker rule required).invoke guards =
      Checker.guarded guards rule.isInert required (rule.test guards) := by
  rfl

theorem invoke_list (guards : Guards) (items : List Slot) :
    (list items).invoke guards = guards.notCallable .array := by
  rfl

theorem invoke_value (guards : Guards) (v : Value) :
    (value v).invoke guards = guards.notCallable v.preciseType := by
  rfl

end Slot

namespace Checker

/-- The answer of a checker to a call, misuse answered as the guards say. -/
def checkWith (guards : Guards) (c : Checker) (call : Call) : Outcome :=
  guarded guards c.isInert c.required (c.rule.test guards) call

/-- The answer of a checker to a call. -/
def check (c : Checker) (call : Call) : Outcome :=
  c.checkWith .standard call

/-- Asks a checker about a property from outside of a batch. -/
def call (c : Checker) (props : Value) (name : String) : Outcome :=
  c.check (.direct props name)

/-- A call from outside of a batch is refused, whatever the checker. -/
theorem check_outside
    (c : Checker) {call : Call} (h : call.caller = .outside) :
    c.check call = .fault (.raised Wording.calledDirectly) := by
  simp [check, checkWith, guarded, h, Guards.standard]

end Checker

end ShapeCheck
