import Mathlib.Data.List.Forall2
import Mathlib.Tactic.SplitIfs
import ShapeCheck.Proofs.Path
import ShapeCheck.Value.Render

/-!
# Symbols as text

The JSON form that shows symbols is the plain JSON form of a value in which text stands for every
symbol.  What is replaced is never looked into, so an object that declares itself a symbol loses its
properties; around the replaced values arrays keep their items in place, and objects keep the
properties that have a form.

* `Value.toJsonItems_eq_map` and `Value.toJsonMembers_eq_filterMap`: forms of items and properties.
* `Value.withSymbolText`: text in place of the outermost symbols.
* `Value.holds_toJson`: what stands at the end of a path has its form at the end of the same path.
* `Value.symbols_replaced_throughout`: the form that shows symbols, and where it has what.
-/

namespace ShapeCheck

namespace Value

section Forms

variable {symbolsAsText : Bool}

theorem toJsonItems_eq_map (items : List Value) :
    toJsonItems symbolsAsText items =
      items.map fun item => (item.toJson symbolsAsText).getD .null := by
  induction items with
  | nil => rfl
  | cons item rest ih => rw [toJsonItems, ih, List.map_cons]

theorem toJsonMembers_eq_filterMap (entries : List (String × Value)) :
    toJsonMembers symbolsAsText entries =
      entries.filterMap fun entry =>
        (entry.2.toJson symbolsAsText).map fun form => (entry.1, form) := by
  induction entries with
  | nil =>
      rfl
  | cons entry rest ih =>
      obtain ⟨key, item⟩ := entry
      rw [toJsonMembers, ih, List.filterMap_cons]
      cases item.toJson symbolsAsText <;> rfl

/-- Symbols stand as their string conversion. -/
theorem toJson_true_of_symbol {v : Value} (h : v.preciseType = .symbol) :
    v.toJson true = some (.str v.display) := by
  rw [toJson.eq_def, if_pos (by simp [h])]

theorem toJson_array (id : Identity) (items : List Value) :
    (array id items).toJson symbolsAsText = some (.arr (toJsonItems symbolsAsText items)) := by
  have harray : (array id items).preciseType = .array := rfl
  rw [toJson, if_neg (by simp [harray])]

theorem toJson_false_object
    (id : Identity) (cls : Option Class) (entries : List (String × Value)) :
    (object id cls entries).toJson false = some (.obj (toJsonMembers false entries)) := by
  rw [toJson, if_neg (by simp)]

theorem toJson_true_object
    {id : Identity} {cls : Option Class} {entries : List (String × Value)}
    (h : (object id cls entries).preciseType ≠ .symbol) :
    (object id cls entries).toJson true = some (.obj (toJsonMembers true entries)) := by
  rw [toJson, if_neg (by simp [h])]

end Forms

/-! ### Text in place of symbols -/

mutual

/-- The value with text in place of the outermost values that count as symbols, at every depth. -/
def withSymbolText (v : Value) : Value :=
  if v.preciseType = .symbol then
    .string v.display
  else
    match v with
    | array id items => array id (withSymbolTextItems items)
    | object id cls entries => object id cls (withSymbolTextMembers entries)
    | v => v

def withSymbolTextItems : List Value → List Value
  | [] => []
  | item :: rest => withSymbolText item :: withSymbolTextItems rest

def withSymbolTextMembers : List (String × Value) → List (String × Value)
  | [] => []
  | (key, item) :: rest => (key, withSymbolText item) :: withSymbolTextMembers rest

end

theorem withSymbolText_of_symbol {v : Value} (h : v.preciseType = .symbol) :
    v.withSymbolText = .string v.display := by
  rw [withSymbolText.eq_def, if_pos h]

theorem withSymbolText_array (id : Identity) (items : List Value) :
    (array id items).withSymbolText = array id (withSymbolTextItems items) := by
  have harray : (array id items).preciseType = .array := rfl
  rw [withSymbolText, if_neg (by simp [harray])]

theorem withSymbolText_object
    {id : Identity} {cls : Option Class} {entries : List (String × Value)}
    (h : (object id cls entries).preciseType ≠ .symbol) :
    (object id cls entries).withSymbolText = object id cls (withSymbolTextMembers entries) := by
  rw [withSymbolText, if_neg h]

mutual

/-- To show symbols is to put text in their place first. -/
theorem toJson_true_eq (v : Value) :
    v.toJson true = v.withSymbolText.toJson false := by
  by_cases h : v.preciseType = .symbol
  · rw [toJson_true_of_symbol h, withSymbolText_of_symbol h]
    rfl
  · cases v with
    | array id items =>
        rw [withSymbolText_array, toJson_array, toJson_array, toJsonItems_true_eq items]
    | object id cls entries =>
        rw [withSymbolText_object h, toJson_true_object h, toJson_false_object,
          toJsonMembers_true_eq entries]
    | symbol id description => exact absurd rfl h
    | _ => simp [toJson, withSymbolText, h]

theorem toJsonItems_true_eq : ∀ items : List Value,
    toJsonItems true items = toJsonItems false (withSymbolTextItems items)
  | [] => rfl
  | item :: rest => by
      rw [withSymbolTextItems, toJsonItems, toJsonItems, toJson_true_eq item,
        toJsonItems_true_eq rest]

theorem toJsonMembers_true_eq : ∀ entries : List (String × Value),
    toJsonMembers true entries = toJsonMembers false (withSymbolTextMembers entries)
  | [] => rfl
  | (key, item) :: rest => by
      rw [withSymbolTextMembers, toJsonMembers, toJsonMembers, toJson_true_eq item,
        toJsonMembers_true_eq rest]

end

/-! ### What is left out -/

/-- Whether a value has no form even where symbols are shown. -/
def isOmitted : Value → Bool
  | undefined | function _ _ => true
  | _ => false

theorem toJson_true_eq_none_iff {v : Value} :
    v.toJson true = none ↔ v.isOmitted = true := by
  by_cases h : v.preciseType = .symbol
  · rw [toJson_true_of_symbol h]
    refine iff_of_false (Option.some_ne_none _) ?_
    cases v with
    | undefined | function => cases h
    | _ => exact Bool.false_ne_true
  · cases v with
    | symbol id description => exact absurd rfl h
    | _ => simp [toJson, isOmitted, h]

theorem exists_toJson_true {v : Value} (h : v.isOmitted = false) :
    ∃ form, v.toJson true = some form := by
  rw [← Option.ne_none_iff_exists', ne_eq, toJson_true_eq_none_iff, h]
  exact Bool.false_ne_true

/-- An array has a form for every item, in its place. -/
theorem forall₂_toJsonItems (items : List Value) :
    List.Forall₂
      (fun item form => if item.isOmitted then form = .null else item.toJson true = some form)
      items (toJsonItems true items) := by
  induction items with
  | nil =>
      exact .nil
  | cons item rest ih =>
      refine .cons ?_ ih
      split_ifs with homitted
      · rw [toJson_true_eq_none_iff.mpr homitted]
        rfl
      · obtain ⟨form, hform⟩ := exists_toJson_true (Bool.eq_false_iff.mpr homitted)
        rw [hform]
        rfl

/-- An object has a form for every property that is not left out, in their order. -/
theorem forall₂_toJsonMembers (entries : List (String × Value)) :
    List.Forall₂
      (fun entry member => member.1 = entry.1 ∧ entry.2.toJson true = some member.2)
      (entries.filter fun entry => !entry.2.isOmitted) (toJsonMembers true entries) := by
  induction entries with
  | nil =>
      exact .nil
  | cons entry rest ih =>
      obtain ⟨key, item⟩ := entry
      rw [toJsonMembers]
      cases homitted : item.isOmitted with
      | true =>
          rw [toJson_true_eq_none_iff.mpr homitted, List.filter_cons_of_neg (by simp [homitted])]
          exact ih
      | false =>
          obtain ⟨form, hform⟩ := exists_toJson_true homitted
          rw [hform, List.filter_cons_of_pos (by simp [homitted])]
          exact .cons ⟨rfl, hform⟩ ih

end Value

/-! ### Places -/

/-- A value stands in another one at the end of a path that leads through no symbol. -/
inductive Value.Holds : Value → List Step → Value → Prop
  | here (v : Value) :
      Holds v [] v
  | item
      {id : Identity} {items : List Value} {index : Nat} {item w : Value} {path : List Step}
      (hitem : items[index]? = some item) (h : Holds item path w) :
      Holds (.array id items) (.item index :: path) w
  | member
      {id : Identity} {cls : Option Class} {entries : List (String × Value)}
      {key : String} {item w : Value} {path : List Step}
      (hsymbol : (Value.object id cls entries).preciseType ≠ .symbol)
      (hmember : (key, item) ∈ entries) (h : Holds item path w) :
      Holds (.object id cls entries) (.member key :: path) w

/-- A document stands in another one at the end of a path. -/
inductive Json.Holds : Json → List Step → Json → Prop
  | here (form : Json) :
      Holds form [] form
  | item
      {items : List Json} {index : Nat} {item form : Json} {path : List Step}
      (hitem : items[index]? = some item) (h : Holds item path form) :
      Holds (.arr items) (.item index :: path) form
  | member
      {members : List (String × Json)} {key : String} {item form : Json} {path : List Step}
      (hmember : (key, item) ∈ members) (h : Holds item path form) :
      Holds (.obj members) (.member key :: path) form

namespace Value

/-- What has a form has it in the same place. -/
theorem holds_toJson
    {v w : Value} {path : List Step} {form : Json}
    (h : v.Holds path w) (hform : w.toJson true = some form) :
    ∃ whole, v.toJson true = some whole ∧ whole.Holds path form := by
  induction h with
  | here v =>
      exact ⟨form, hform, .here form⟩
  | item hitem h ih =>
      obtain ⟨inner, hinner, hholds⟩ := ih hform
      refine ⟨_, toJson_array _ _, .item ?_ hholds⟩
      rw [toJsonItems_eq_map, List.getElem?_map, hitem, Option.map_some, hinner, Option.getD_some]
  | member hsymbol hmember h ih =>
      obtain ⟨inner, hinner, hholds⟩ := ih hform
      refine ⟨_, toJson_true_object hsymbol, .member ?_ hholds⟩
      rw [toJsonMembers_eq_filterMap, List.mem_filterMap]
      exact ⟨_, hmember, by rw [hinner, Option.map_some]⟩

/-- To show symbols is to put text in their place first.  Then only undefined and functions have no
form; outside of what is replaced, every array has null for these and every other item in its place,
and every object has lost the properties with these and has kept all others in their order. -/
theorem symbols_replaced_throughout (v : Value) :
    v.toJson true = v.withSymbolText.toJson false ∧
    (v.toJson true = none ↔ v.isOmitted = true) ∧
    (∀ path id items, v.Holds path (array id items) →
      ∃ whole forms, v.toJson true = some whole ∧ whole.Holds path (.arr forms) ∧
        List.Forall₂
          (fun item form => if item.isOmitted then form = .null else item.toJson true = some form)
          items forms) ∧
    (∀ path id cls entries, v.Holds path (object id cls entries) →
      (object id cls entries).preciseType ≠ .symbol →
      ∃ whole members, v.toJson true = some whole ∧ whole.Holds path (.obj members) ∧
        List.Forall₂
          (fun entry member => member.1 = entry.1 ∧ entry.2.toJson true = some member.2)
          (entries.filter fun entry => !entry.2.isOmitted) members) := by
  refine ⟨toJson_true_eq v, toJson_true_eq_none_iff, ?_, ?_⟩
  · intro path id items h
    obtain ⟨whole, hwhole, hholds⟩ := holds_toJson h (toJson_array id items)
    exact ⟨whole, _, hwhole, hholds, forall₂_toJsonItems items⟩
  · intro path id cls entries h hsymbol
    obtain ⟨whole, hwhole, hholds⟩ := holds_toJson h (toJson_true_object hsymbol)
    exact ⟨whole, _, hwhole, hholds, forall₂_toJsonMembers entries⟩

/-- An array inside an object keeps three items: a symbol and an object that declares itself one
become text, and a function becomes null.  The object loses the property that is undefined. -/
theorem symbols_replaced_throughout_in_list :
    let marked : Value := .object 3 none [("@@toStringTag", .string "Symbol"), ("k", .null)]
    let items : List Value := [.symbol 2 (some "s"), .function 4 none, marked]
    let entries : List (String × Value) := [("gone", .undefined), ("list", .array 1 items)]
    let v : Value := .object 0 none entries
    v.Holds [] v ∧ v.Holds [.member "list"] (.array 1 items) ∧ v.preciseType ≠ .symbol ∧
      (∃ whole forms, v.toJson true = some whole ∧ whole.Holds [.member "list"] (.arr forms) ∧
        forms.length = 3) ∧
      ∃ whole members, v.toJson true = some whole ∧ whole.Holds [] (.obj members) ∧
        Keyed.keys members = ["list"] := by
  intro marked items entries v
  have hsymbol : v.preciseType ≠ .symbol := by decide
  have hlist : v.Holds [.member "list"] (.array 1 items) :=
    .member hsymbol (by simp [entries]) (.here _)
  obtain ⟨-, -, harrays, hobjects⟩ := symbols_replaced_throughout v
  refine ⟨.here v, hlist, hsymbol, ?_, ?_⟩
  · obtain ⟨whole, forms, hwhole, hholds, hforms⟩ := harrays _ _ _ hlist
    exact ⟨whole, forms, hwhole, hholds, hforms.length_eq.symm⟩
  · obtain ⟨whole, members, hwhole, hholds, hmembers⟩ := hobjects _ _ _ _ (.here v) hsymbol
    refine ⟨whole, members, hwhole, hholds, ?_⟩
    rcases hmembers with _ | ⟨⟨hkey, -⟩, _ | -⟩
    exact congrArg (fun key => [key]) hkey

end Value
end ShapeCheck
