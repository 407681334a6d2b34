import ShapeCheck.Proofs.Answers
import ShapeCheck.Value.Fresh

/-!
# Ancestry of classes

A class derives from another when the other stands in its lineage: the class itself, the class that
it extends, and so on upwards.  Whatever classes are declared, in whatever order, no two of them
have one identity, and this makes derivation a partial order.

* `Class.Declared`: the classes that exist after some declarations.
* `Class.derivesFrom_iff_mem_lineage`: among declared classes, derivation is membership in the
  lineage.
* `Class.derivation_orders_classes`: the partial order, and instances seen from the classes above.
* `Class.instance_agrees_except_at_object`: an instance of a class and the class itself give the
  same answers, except on the builtin class of all objects.
-/

namespace ShapeCheck
namespace Class

/-- A class and the classes above it, from the class upwards. -/
def lineage : Class → List Class
  | base id name => [base id name]
  | extend id name parent => extend id name parent :: parent.lineage

/-- The identities in a lineage. -/
def identities (c : Class) : List ClassId :=
  c.lineage.map id

/-- The class at the top of a lineage, which extends nothing. -/
def topmost : Class → Class
  | base id name => base id name
  | extend _ _ parent => parent.topmost

/-- The search for `ancestor` from a class upwards in at most the given number of steps.  There is
no answer when the steps do not suffice. -/
def walk? (ancestor : Class) : Nat → Option Class → Option Bool
  | _, none => some false
  | 0, some _ => none
  | steps + 1, some c => if c.same ancestor then some true else walk? ancestor steps c.parent?

def builtins : List Class :=
  [object, array, function, date, regexp]

/-- The classes that exist after some declarations, the last one first, and the next unused
identity.  Declarations come in any order, and between them identities are given to other things. -/
inductive Declared : Nat → List Class → Prop
  | start (next : Nat) :
      Declared next builtins
  | elsewhere
      {next later : Nat} {classes : List Class}
      (h : Declared next classes) (hlater : next ≤ later) :
      Declared later classes
  | root
      {next : Nat} {classes : List Class}
      (h : Declared next classes) (name : Option String) :
      Declared ((Fresh.rootClass name).run next).2
        (((Fresh.rootClass name).run next).1 :: classes)
  | subclass
      {next : Nat} {classes : List Class} {parent : Class}
      (h : Declared next classes) (name : String) (hparent : parent ∈ classes) :
      Declared ((Fresh.subclass name parent).run next).2
        (((Fresh.subclass name parent).run next).1 :: classes)

section Lineage

variable {c d e : Class}

theorem same_iff : c.same d = true ↔ c.id = d.id := by
  rw [same, decide_eq_true_iff]

/-- The lineage of a class ends with the lineage of every class in it. -/
theorem lineage_suffix (h : d ∈ c.lineage) :
    d.lineage <:+ c.lineage := by
  induction c with
  | base id name =>
      obtain rfl := List.mem_singleton.mp h
      exact List.suffix_rfl
  | extend id name parent ih =>
      rcases List.mem_cons.mp h with rfl | hparent
      · exact List.suffix_rfl
      · exact (ih hparent).trans (List.suffix_cons _ _)

theorem mem_lineage_trans (hd : d ∈ c.lineage) (he : e ∈ d.lineage) :
    e ∈ c.lineage :=
  (lineage_suffix hd).subset he

/-- A lineage begins with its class, so two classes in each other's lineage are one. -/
theorem eq_of_mem_lineage (hd : d ∈ c.lineage) (hc : c ∈ d.lineage) :
    c = d := by
  have hlineage : c.lineage = d.lineage :=
    (lineage_suffix hc).eq_of_length_le (lineage_suffix hd).length_le
  cases c <;> cases d <;> simp_all [lineage]

/-- A class derives from those whose identity occurs in its lineage; names play no part. -/
theorem derivesFrom_iff_mem_identities :
    c.derivesFrom d = true ↔ d.id ∈ c.identities := by
  induction c with
  | base id name =>
      rw [derivesFrom, same_iff, identities, lineage, List.map_singleton, List.mem_singleton]
      exact eq_comm
  | extend id name parent ih =>
      rw [derivesFrom, Bool.or_eq_true, same_iff, ih, identities, identities, lineage,
        List.map_cons, List.mem_cons]
      exact or_congr_left eq_comm

/-- The search needs as many steps as there are classes in the lineage. -/
theorem walk?_eq (d : Class) {steps : Nat} (h : c.lineage.length ≤ steps) :
    walk? d steps (some c) = some (c.derivesFrom d) := by
  induction c generalizing steps with
  | base id name =>
      cases steps with
      | zero =>
          cases h
      | succ rest =>
          cases hsame : (base id name).same d <;>
            simp [walk?, derivesFrom, parent?, hsame]
  | extend id name parent ih =>
      cases steps with
      | zero =>
          cases h
      | succ rest =>
          have hparent := ih (Nat.le_of_succ_le_succ h)
          cases hsame : (extend id name parent).same d <;>
            simp [walk?, derivesFrom, parent?, hsame, hparent]

theorem topmost_mem_lineage (c : Class) :
    c.topmost ∈ c.lineage := by
  induction c with
  | base id name => simp [topmost, lineage]
  | extend id name parent ih => simp [topmost, lineage, ih]

/-- Only the top of a lineage extends nothing. -/
theorem eq_topmost_of_mem_lineage (h : d ∈ c.lineage) (hd : d.parent? = none) :
    d = c.topmost := by
  induction c with
  | base id name =>
      exact List.mem_singleton.mp h
  | extend id name parent ih =>
      rcases List.mem_cons.mp h with rfl | hparent
      · cases hd
      · exact ih hparent

end Lineage

/-- What holds of the declared classes: the lineage of each is among them, no two have one identity,
and identities that have not been given out are not in use. -/
structure Coherent (next : Nat) (classes : List Class) : Prop where
  builtins : ∀ c ∈ Class.builtins, c ∈ classes
  closed : ∀ c ∈ classes, ∀ d ∈ c.lineage, d ∈ classes
  distinct : ∀ c ∈ classes, ∀ d ∈ classes, c.id = d.id → c = d
  unused : ∀ c ∈ classes, ∀ number, c.id = .declared number → number < next

namespace Coherent

variable {next : Nat} {classes : List Class}

theorem start (next : Nat) :
    Coherent next Class.builtins where
  builtins := fun c hc => hc
  closed := by decide
  distinct := by decide
  unused := by
    intro c hc number hnumber
    have hbuiltin : ∀ b ∈ Class.builtins, ∀ n, b.id ≠ .declared n := by
      simp [Class.builtins, object, array, function, date, regexp, id]
    exact absurd hnumber (hbuiltin c hc number)

theorem elsewhere
    {later : Nat} (h : Coherent next classes) (hlater : next ≤ later) :
    Coherent later classes where
  builtins := h.builtins
  closed := h.closed
  distinct := h.distinct
  unused := fun c hc number hnumber => Nat.lt_of_lt_of_le (h.unused c hc number hnumber) hlater

/-- A declaration takes an unused identity, so whatever it extends, it is told apart from the
classes before it. -/
theorem declare
    (h : Coherent next classes) {c : Class} (hid : c.id = .declared next)
    (hlineage : ∀ d ∈ c.lineage, d = c ∨ d ∈ classes) :
    Coherent (next + 1) (c :: classes) where
  builtins := fun d hd => List.mem_cons_of_mem _ (h.builtins d hd)
  closed := by
    intro d hd e he
    rw [List.mem_cons]
    rcases List.mem_cons.mp hd with rfl | hd
    · exact hlineage e he
    · exact Or.inr (h.closed d hd e he)
  distinct := by
    have hnew (d : Class) (hd : d ∈ classes) : d.id ≠ c.id := by
      intro hsame
      exact Nat.lt_irrefl next (h.unused d hd next (hsame.trans hid))
    intro d hd e he hsame
    rcases List.mem_cons.mp hd with hdc | hd <;> rcases List.mem_cons.mp he with hec | he
    · rw [hdc, hec]
    · exact absurd (hdc ▸ hsame).symm (hnew e he)
    · exact absurd (hec ▸ hsame) (hnew d hd)
    · exact h.distinct d hd e he hsame
  unused := by
    intro d hd number hnumber
    rcases List.mem_cons.mp hd with rfl | hd
    · rw [hid, ClassId.declared.injEq] at hnumber
      omega
    · exact Nat.lt_succ_of_lt (h.unused d hd number hnumber)

end Coherent

/-- Declarations keep the classes coherent. -/
theorem Declared.coherent {next : Nat} {classes : List Class} (h : Declared next classes) :
    Coherent next classes := by
  induction h with
  | start next =>
      exact Coherent.start next
  | elsewhere _ hlater ih =>
      exact ih.elsewhere hlater
  | root _ name ih =>
      exact ih.declare rfl fun d hd => Or.inl (List.mem_singleton.mp hd)
  | subclass _ name hparent ih =>
      refine ih.declare rfl fun d hd => ?_
      rcases List.mem_cons.mp hd with rfl | hd
      · exact Or.inl rfl
      · exact Or.inr (ih.closed _ hparent d hd)

section Order

variable {next : Nat} {classes : List Class} {c d e : Class}

/-- Among declared classes, derivation is membership in the lineage. -/
theorem derivesFrom_iff_mem_lineage
    (h : Coherent next classes) (hc : c ∈ classes) (hd : d ∈ classes) :
    c.derivesFrom d = true ↔ d ∈ c.lineage := by
  rw [derivesFrom_iff_mem_identities, identities, List.mem_map]
  constructor
  · rintro ⟨e, he, hsame⟩
    rwa [← h.distinct e (h.closed c hc e he) d hd hsame]
  · intro hmem
    exact ⟨d, hmem, rfl⟩

theorem derivesFrom_trans
    (h : Coherent next classes) (hc : c ∈ classes) (hd : d ∈ classes) (he : e ∈ classes)
    (hcd : c.derivesFrom d = true) (hde : d.derivesFrom e = true) :
    c.derivesFrom e = true := by
  rw [derivesFrom_iff_mem_lineage h hc hd] at hcd
  rw [derivesFrom_iff_mem_lineage h hd he] at hde
  rw [derivesFrom_iff_mem_lineage h hc he]
  exact mem_lineage_trans hcd hde

theorem derivesFrom_antisymm
    (h : Coherent next classes) (hc : c ∈ classes) (hd : d ∈ classes)
    (hcd : c.derivesFrom d = true) (hdc : d.derivesFrom c = true) :
    c = d := by
  rw [derivesFrom_iff_mem_lineage h hc hd] at hcd
  rw [derivesFrom_iff_mem_lineage h hd hc] at hdc
  exact eq_of_mem_lineage hcd hdc

theorem object_mem (h : Coherent next classes) :
    object ∈ classes :=
  h.builtins object List.mem_cons_self

theorem same_object_iff (h : Coherent next classes) (hc : c ∈ classes) :
    c.same object = true ↔ c = object := by
  rw [same_iff]
  exact ⟨h.distinct c hc object (object_mem h), congrArg Class.id⟩

/-- The builtin class of all objects extends nothing, so only the classes with it at the top derive
from it. -/
theorem derivesFrom_object_iff (h : Coherent next classes) (hc : c ∈ classes) :
    c.derivesFrom object = true ↔ c.topmost = object := by
  rw [derivesFrom_iff_mem_lineage h hc (object_mem h)]
  constructor
  · intro hmem
    exact (eq_topmost_of_mem_lineage hmem rfl).symm
  · intro htop
    rw [← htop]
    exact c.topmost_mem_lineage

end Order

end Class

namespace Value

/-- A value whose class, if it has one, is among the given classes. -/
def IsOf (classes : List Class) (v : Value) : Prop :=
  ∀ own ∈ v.class?, own ∈ classes

theorem isInstanceOf_object (v : Value) :
    v.isInstanceOf .object = v.isClassed := by
  simp [isInstanceOf, Class.same]

theorem isInstanceOf_object_of_isInstanceOf {v : Value} {c : Class} (h : v.isInstanceOf c = true) :
    v.isInstanceOf .object = true := by
  rw [isInstanceOf_object]
  exact (Bool.and_eq_true_iff.mp h).1

/-- The kinds of values that have a class. -/
theorem isClassed_iff (v : Value) :
    v.isClassed = true ↔
      (∃ id items, v = array id items) ∨
      (∃ id cls entries, v = object id cls entries) ∨
      (∃ id name, v = function id name) ∨
      (∃ id instant, v = date id instant) ∨
      (∃ id source, v = regexp id source) := by
  cases v <;> simp [isClassed]

/-- An instance of a class is one of every class that the class derives from. -/
theorem isInstanceOf_of_derivesFrom
    {next : Nat} {classes : List Class} (h : Class.Coherent next classes)
    {c d : Class} (hc : c ∈ classes) (hd : d ∈ classes) (hderives : c.derivesFrom d = true)
    {v : Value} (hv : v.IsOf classes) (hinstance : v.isInstanceOf c = true) :
    v.isInstanceOf d = true := by
  rw [isInstanceOf, Bool.and_eq_true, Bool.or_eq_true, Option.any_eq_true] at hinstance ⊢
  obtain ⟨hclassed, ⟨own, hown, hfrom⟩ | hobject⟩ := hinstance
  · exact ⟨hclassed, Or.inl ⟨own, hown,
      Class.derivesFrom_trans h (hv own hown) hc hd hfrom hderives⟩⟩
  · -- Above the class of all objects there is only this class itself.
    obtain rfl := (Class.same_object_iff h hc).mp hobject
    have hmem := (Class.derivesFrom_iff_mem_lineage h hc hd).mp hderives
    rw [List.mem_singleton.mp hmem]
    exact ⟨hclassed, Or.inr rfl⟩

end Value

/-- Where every instance of a class that a call may be about is one of another class, the checker of
the other class passes what the checker of the class passes. -/
theorem Slot.instanceOf_passes_of_imp
    {c d : Class} {call : Call}
    (himp : call.query.value.isInstanceOf c = true → call.query.value.isInstanceOf d = true)
    {required : Bool}
    (hpass : (checker (.instanceOf c) required).invoke .standard call = .pass) :
    (checker (.instanceOf d) required).invoke .standard call = .pass := by
  have hview (cls : Class) :
      (checker (.instanceOf cls) required).invoke .standard call =
        Checker.guarded .standard false required (Rule.testInstanceOf cls) call := rfl
  rw [hview, Checker.guarded] at hpass ⊢
  simp only [Rule.testInstanceOf] at hpass ⊢
  by_cases hinstance : call.query.value.isInstanceOf c = true
  · rw [if_pos hinstance] at hpass
    rw [if_pos (himp hinstance)]
    exact hpass
  · grind

namespace Class

/-- Derivation among declared classes is a partial order: its search ends for any two classes, and
two classes that derive from each other have one identity.  Names decide nothing: classes with the
same identities in their lineages give the same answer.  An instance of a class is one of every
class that the class derives from, and checkers of instances pass accordingly.  A value is an
instance of some class just when it is one of the builtin class of all objects, that is, when it is
an array, an object, a function, a date or a regular expression. -/
theorem derivation_orders_classes
    {next : Nat} {classes : List Class} (h : Declared next classes) :
    (∀ c d : Class, ∃ bound, ∀ steps ≥ bound, walk? d steps (some c) = some (c.derivesFrom d)) ∧
    (∀ c ∈ classes, c.derivesFrom c = true) ∧
    (∀ c ∈ classes, ∀ d ∈ classes, ∀ e ∈ classes,
      c.derivesFrom d = true → d.derivesFrom e = true → c.derivesFrom e = true) ∧
    (∀ c ∈ classes, ∀ d ∈ classes,
      c.derivesFrom d = true → d.derivesFrom c = true → c.same d = true) ∧
    (∀ c d c' d' : Class, c'.identities = c.identities → d'.id = d.id →
      c'.derivesFrom d' = c.derivesFrom d) ∧
    (∀ c ∈ classes, ∀ d ∈ classes, c.derivesFrom d = true →
      (∀ v : Value, v.IsOf classes → v.isInstanceOf c = true → v.isInstanceOf d = true) ∧
      ∀ (call : Call) (required : Bool), (call.props.property call.name).IsOf classes →
        (Slot.checker (.instanceOf c) required).invoke .standard call = .pass →
        (Slot.checker (.instanceOf d) required).invoke .standard call = .pass) ∧
    ∀ v : Value,
      ((∃ c : Class, v.isInstanceOf c = true) ↔ v.isInstanceOf .object = true) ∧
      (v.isInstanceOf .object = true ↔
        (∃ id items, v = .array id items) ∨
        (∃ id cls entries, v = .object id cls entries) ∨
        (∃ id name, v = .function id name) ∨
        (∃ id instant, v = .date id instant) ∨
        (∃ id source, v = .regexp id source)) := by
  have hcoherent := h.coherent
  refine ⟨?_, ?_, ?_, ?_, ?_, ?_, ?_⟩
  · intro c d
    exact ⟨c.lineage.length, fun steps hsteps => walk?_eq d hsteps⟩
  · intro c _
    exact derivesFrom_refl c
  · intro c hc d hd e he
    exact derivesFrom_trans hcoherent hc hd he
  · intro c hc d hd hcd hdc
    rw [derivesFrom_antisymm hcoherent hc hd hcd hdc]
    exact same_iff.mpr rfl
  · intro c d c' d' hidentities hid
    rw [Bool.eq_iff_iff, derivesFrom_iff_mem_identities, derivesFrom_iff_mem_identities,
      hidentities, hid]
  · intro c hc d hd hderives
    refine ⟨fun v hv => Value.isInstanceOf_of_derivesFrom hcoherent hc hd hderives hv, ?_⟩
    intro call required hv
    exact Slot.instanceOf_passes_of_imp
      (Value.isInstanceOf_of_derivesFrom hcoherent hc hd hderives hv)
  · intro v
    refine ⟨⟨fun ⟨c, hc⟩ => Value.isInstanceOf_object_of_isInstanceOf hc, fun hv => ⟨_, hv⟩⟩, ?_⟩
    rw [Value.isInstanceOf_object, Value.isClassed_iff]

/-- A dog is an animal, an animal of the same name is another, and what extends the class of arrays
passes as an array. -/
theorem derivation_orders_classes_of_namesakes :
    let animal : Class := .base (.declared 3) (some "Animal")
    let dog : Class := .extend (.declared 4) "Dog" animal
    let namesake : Class := .base (.declared 9) (some "Animal")
    let stack : Class := .extend (.declared 10) "Stack" .array
    let classes : List Class := stack :: namesake :: dog :: animal :: builtins
    let rex : Value := .object 20 (some dog) []
    let call : Call := Call.mk (.object 21 none [("pet", rex)]) "pet" none "prop" none .batch
    Declared 11 classes ∧
      walk? animal 2 (some dog) = some true ∧
      dog.derivesFrom namesake = false ∧
      rex.isInstanceOf animal = true ∧
      (Slot.checker (.instanceOf animal) true).invoke .standard call = .pass ∧
      (Value.object 22 (some stack) []).isInstanceOf .array = true := by
  intro animal dog namesake stack classes rex call
  have hclasses : Declared 11 classes :=
    (((((Declared.start 3).root (some "Animal")).subclass "Dog" List.mem_cons_self).elsewhere
      (by decide : 5 ≤ 9)).root (some "Animal")).subclass "Stack" (by decide)
  obtain ⟨-, -, -, -, hnames, hupward, -⟩ := derivation_orders_classes hclasses
  have hdog : dog ∈ classes := by decide
  have hanimal : animal ∈ classes := by decide
  obtain ⟨hinstance, hpass⟩ := hupward dog hdog animal hanimal (by decide)
  have hrex : rex.IsOf classes := by
    intro own hown
    obtain rfl := Option.some.inj hown
    exact hdog
  refine ⟨hclasses, by decide, by decide, hinstance rex hrex (by decide), ?_, by decide⟩
  exact hpass call true hrex (by decide +kernel)

/-- The class of an object answers like the object, except where the builtin class of all objects
is asked about: every object is an instance of it, but only the classes with it at the top of their
lineage derive from it. -/
theorem instance_agrees_except_at_object
    {next : Nat} {classes : List Class} (h : Declared next classes)
    {c d : Class} (hc : c ∈ classes) (hd : d ∈ classes) (identity : Nat) :
    let v := ((Fresh.object (some c) []).run identity).1
    (v.isInstanceOf d = true ↔ c.derivesFrom d = true ∨ d = object) ∧
    (v.isInstanceOf d = c.derivesFrom d ↔ (d = object → c.topmost = object)) := by
  intro v
  have hcoherent := h.coherent
  have hv : v.isInstanceOf d = (c.derivesFrom d || d.same object) := rfl
  rw [hv]
  refine ⟨?_, ?_⟩
  · rw [Bool.or_eq_true, same_object_iff hcoherent hd]
  · by_cases hobject : d = object
    · rw [hobject, ← derivesFrom_object_iff hcoherent hc]
      have hsame : object.same object = true := same_iff.mpr rfl
      cases c.derivesFrom object <;> simp [hsame]
    · have hsame : d.same object = false := by
        rw [← Bool.not_eq_true, same_object_iff hcoherent hd]
        exact hobject
      simp [hsame, hobject]

/-- A dog is an instance of the class of all objects, from which neither its class nor the class of
animals derives; a row is one by derivation. -/
theorem instance_agrees_except_at_object_of_dog :
    let animal : Class := .base (.declared 0) (some "Animal")
    let dog : Class := .extend (.declared 1) "Dog" animal
    let row : Class := .extend (.declared 2) "Row" .object
    let classes : List Class := row :: dog :: animal :: builtins
    let new (c : Class) : Value := ((Fresh.object (some c) []).run 3).1
    Declared 3 classes ∧
      (new dog).isInstanceOf animal = dog.derivesFrom animal ∧
      (new row).isInstanceOf .object = row.derivesFrom .object ∧
      (new animal).isInstanceOf .object = true ∧ animal.derivesFrom .object = false ∧
      (new dog).isInstanceOf .object ≠ dog.derivesFrom .object := by
  intro animal dog row classes new
  have hclasses : Declared 3 classes :=
    (((Declared.start 0).root (some "Animal")).subclass "Dog" List.mem_cons_self).subclass "Row"
      (by decide)
  have hagrees {c d : Class} (hc : c ∈ classes) (hd : d ∈ classes) :=
    instance_agrees_except_at_object hclasses hc hd 3
  refine ⟨hclasses, ?_, ?_, ?_, by decide, ?_⟩
  · exact (hagrees (by decide) (by decide)).2.mpr (by decide)
  · exact (hagrees (by decide) (by decide)).2.mpr (by decide)
  · exact (hagrees (by decide) (by decide)).1.mpr (by decide)
  · rw [ne_eq, (hagrees (by decide) (by decide)).2]
    decide

end Class
end ShapeCheck
