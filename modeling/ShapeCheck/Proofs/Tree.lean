import ShapeCheck.Checker.Build
import ShapeCheck.Checker.Run

/-!
# Checkers as trees

The slots of a rule are the children of the checker that holds it.  What stands in a list or in a
plain value is never called, so it is no part of the tree.

* `Slot.induction` is induction over trees, with the children of a checker as a list.
* `Slot.every` tests every slot of a tree, and `Slot.every_checker` opens it at a checker.
* `Slot.isBuiltIn` singles out the trees that the library's own constructors build, and
  `Slot.HasRule` the rules of the user's that stand in a tree.
* `Checker.isWellBuilt_oneOfType`, `Checker.isWellBuilt_shape` and `Checker.isWellBuilt_exact`: the
  constructors with a condition on their argument keep it.
-/

namespace ShapeCheck

/-- The slots that a rule holds, in order. -/
def Rule.slots : Rule → List Slot
  | .arrayOf item | .objectOf item => [item]
  | .oneOfType alternatives => alternatives
  | .shape fields | .exact fields => fields.map Prod.snd
  | .inert _ | .primitive _ | .any | .instanceOf _ | .oneOf _ | .custom _ _ => []

namespace Slot

/-- The slots that a slot may call. -/
def children : Slot → List Slot
  | checker rule _ => rule.slots
  | factory _ | list _ | value _ => []

/-- Induction over trees of checkers. -/
theorem induction
    {motive : Slot → Prop}
    (checker : ∀ rule required,
      (∀ child ∈ rule.slots, motive child) → motive (.checker rule required))
    (factory : ∀ f, motive (.factory f))
    (list : ∀ items, motive (.list items))
    (value : ∀ v, motive (.value v))
    (s : Slot) :
    motive s := by
  -- A rule is known by its children, and a list of slots or of fields by its members.
  refine @Slot.rec motive
    (fun rule => ∀ child ∈ rule.slots, motive child)
    (fun slots => ∀ child ∈ slots, motive child)
    (fun fields => ∀ child ∈ fields.map Prod.snd, motive child)
    (fun field => motive field.2)
    checker factory (fun items _ => list items) value
    ?_ ?_ ?_ ?_ ?_ ?_ ?_ ?_ ?_ ?_ ?_ ?_ ?_ ?_ ?_ ?_ s
  case refine_4 | refine_5 =>
    intro item ih child hchild
    rw [List.mem_singleton.mp hchild]
    exact ih
  case refine_8 | refine_9 | refine_10 =>
    intro slots ih
    exact ih
  case refine_13 | refine_15 =>
    intro head tail hhead htail child hchild
    rcases List.mem_cons.mp hchild with rfl | hchild
    · exact hhead
    · exact htail child hchild
  case refine_16 =>
    intro key slot ih
    exact ih
  all_goals
    intros
    simp_all [Rule.slots]

end Slot

mutual

/-- Whether a test holds of every slot of a tree. -/
def Slot.every (test : Slot → Bool) : Slot → Bool
  | .checker rule required => test (.checker rule required) && rule.every test
  | .factory f => test (.factory f)
  | .list items => test (.list items)
  | .value v => test (.value v)

/-- Whether a test holds of every slot below a rule. -/
def Rule.every (test : Slot → Bool) : Rule → Bool
  | .arrayOf item | .objectOf item => item.every test
  | .oneOfType alternatives => everySlot test alternatives
  | .shape fields | .exact fields => everyField test fields
  | .inert _ | .primitive _ | .any | .instanceOf _ | .oneOf _ | .custom _ _ => true

/-- Whether a test holds of every slot of some trees. -/
def everySlot (test : Slot → Bool) : List Slot → Bool
  | [] => true
  | slot :: rest => slot.every test && everySlot test rest

/-- Whether a test holds of every slot below some fields. -/
def everyField (test : Slot → Bool) : List (String × Slot) → Bool
  | [] => true
  | (_, slot) :: rest => slot.every test && everyField test rest

end

section Every

variable {test : Slot → Bool}

@[simp] theorem everySlot_eq_all (slots : List Slot) :
    everySlot test slots = slots.all (Slot.every test) := by
  induction slots with
  | nil => rfl
  | cons slot rest ih => simp [everySlot, ih]

@[simp] theorem everyField_eq_all (fields : List (String × Slot)) :
    everyField test fields = (fields.map Prod.snd).all (Slot.every test) := by
  induction fields with
  | nil => rfl
  | cons field rest ih => simp [everyField, ih]

theorem Rule.every_eq_all (rule : Rule) :
    rule.every test = rule.slots.all (Slot.every test) := by
  cases rule <;> simp [Rule.every, Rule.slots]

/-- A test holds of a tree when it holds at the top and of every child. -/
theorem Slot.every_checker_iff {rule : Rule} {required : Bool} :
    (Slot.checker rule required).every test = true
      ↔
    test (.checker rule required) = true ∧
      ∀ child ∈ rule.slots, child.every test = true := by
  rw [Slot.every, Rule.every_eq_all, Bool.and_eq_true, List.all_eq_true]

theorem Slot.every_checker
    {rule : Rule} {required : Bool}
    (h : (Slot.checker rule required).every test = true) :
    test (.checker rule required) = true ∧
      ∀ child ∈ rule.slots, child.every test = true :=
  Slot.every_checker_iff.mp h

theorem Slot.top_of_every {s : Slot} (h : s.every test = true) :
    test s = true := by
  cases s with
  | checker => exact (every_checker h).1
  | factory | list | value => exact h

theorem Slot.every_of_mem_children
    {s child : Slot} (h : s.every test = true) (hchild : child ∈ s.children) :
    child.every test = true := by
  cases s with
  | checker => exact (every_checker h).2 child hchild
  | factory | list | value => cases hchild

end Every

namespace Slot

/-- Whether a slot, looked at without its children, is as the constructors make it: a choice of
checkers is among slots that can be called, and no two fields have one name. -/
def isWellBuilt : Slot → Bool
  | .checker (.oneOfType alternatives) _ => alternatives.all Slot.isCallable
  | .checker (.shape fields) _ | .checker (.exact fields) _ => decide (Keyed.keys fields).Nodup
  | _ => true

/-- Whether a slot, looked at without its children, is neither a rule of the user's nor a
constructor without its argument. -/
def isLibrary : Slot → Bool
  | .checker (.custom _ _) _ | .factory _ => false
  | _ => true

/-- Whether a slot holds a tree that the library's own constructors build. -/
def isBuiltIn (s : Slot) : Bool :=
  s.every fun node => node.isWellBuilt && node.isLibrary

/-- The top of a tree and its children, for trees that the library builds. -/
theorem isBuiltIn_checker_iff {rule : Rule} {required : Bool} :
    (checker rule required).isBuiltIn = true
      ↔
    (checker rule required).isWellBuilt = true ∧
      (checker rule required).isLibrary = true ∧
      ∀ child ∈ rule.slots, child.isBuiltIn = true := by
  rw [isBuiltIn, every_checker_iff, Bool.and_eq_true, and_assoc]
  rfl

theorem isBuiltIn_checker
    {rule : Rule} {required : Bool}
    (h : (checker rule required).isBuiltIn = true) :
    (checker rule required).isWellBuilt = true ∧
      (checker rule required).isLibrary = true ∧
      ∀ child ∈ rule.slots, child.isBuiltIn = true :=
  isBuiltIn_checker_iff.mp h

/-- A rule of the user's stands in a tree. -/
inductive HasRule (label : String) (test : Query → Outcome) : Slot → Prop
  | here (required : Bool) :
      HasRule label test (.checker (.custom label test) required)
  | under
      {rule : Rule} {required : Bool} {child : Slot}
      (hchild : child ∈ rule.slots) (h : HasRule label test child) :
      HasRule label test (.checker rule required)

end Slot

namespace Checker

theorem firstUncallable?_eq_none_iff {start : Nat} {slots : List Slot} :
    firstUncallable? start slots = none ↔ slots.all Slot.isCallable = true := by
  induction slots generalizing start with
  | nil =>
      simp [firstUncallable?]
  | cons slot rest ih =>
      cases hcallable : slot.isCallable with
      | true => simp [firstUncallable?, hcallable, ih]
      | false => simp [firstUncallable?, hcallable]

/-- A choice of checkers is well built, whatever it is built from: a list with something that cannot
be called leaves no choice behind. -/
theorem isWellBuilt_oneOfType (alternatives : Slot) :
    (oneOfType alternatives).value.slot.isWellBuilt = true := by
  cases alternatives with
  | list slots =>
      cases h : firstUncallable? 0 slots with
      | none =>
          have hcallable : slots.all Slot.isCallable = true :=
            firstUncallable?_eq_none_iff.mp h
          rw [oneOfType, oneOfTypeIn, h]
          exact hcallable
      | some found =>
          rw [oneOfType, oneOfTypeIn, h]
          rfl
  | checker | factory | value => rfl

/-- The names of fields that are written one after the other are distinct. -/
theorem isWellBuilt_shape (entries : List (String × Slot)) :
    (shape (Keyed.ofList entries)).slot.isWellBuilt = true :=
  decide_eq_true (Keyed.nodup_keys_ofList entries)

theorem isWellBuilt_exact (entries : List (String × Slot)) :
    (exact (Keyed.ofList entries)).slot.isWellBuilt = true :=
  decide_eq_true (Keyed.nodup_keys_ofList entries)

end Checker
end ShapeCheck
