import ShapeCheck.Checker.Call

/-!
# Reading properties

How the properties of arrays and objects are read back by the keys under which checkers look for
them.

* `arrayIndex?_toString`: the decimal text of an index stands for that index.
* `Value.property_toString`: under that text an array holds the item at the index.
* `Value.forall_ownKeys_iff`: looking up each own key of an object again reaches its entries, and
  each of them under its own key.
* `Value.isNullish_of_property`: only a container has properties that are present.
-/

namespace ShapeCheck

namespace Keyed

universe u

variable {α : Type u}

/-- What is found under a key stands among the entries. -/
theorem mem_of_get?_eq_some
    {entries : List (String × α)} {key : String} {a : α}
    (h : get? entries key = some a) :
    (key, a) ∈ entries := by
  induction entries with
  | nil =>
      cases h
  | cons entry rest ih =>
      obtain ⟨k, b⟩ := entry
      by_cases hk : k = key
      · rw [get?, if_pos hk, Option.some.injEq] at h
        rw [hk, h]
        exact List.mem_cons_self
      · rw [get?, if_neg hk] at h
        exact List.mem_cons_of_mem _ (ih h)

/-- Each entry is found under its key when the keys are distinct. -/
theorem get?_eq_some_of_mem
    {entries : List (String × α)} {key : String} {a : α}
    (hnodup : (keys entries).Nodup) (h : (key, a) ∈ entries) :
    get? entries key = some a := by
  induction entries with
  | nil =>
      cases h
  | cons entry rest ih =>
      obtain ⟨k, b⟩ := entry
      rw [keys_cons, List.nodup_cons] at hnodup
      rcases List.mem_cons.mp h with heq | hrest
      · obtain ⟨rfl, rfl⟩ := Prod.mk.inj heq
        rw [get?, if_pos rfl]
      · have hk : k ≠ key := by
          rintro rfl
          exact hnodup.1 (List.mem_map.mpr ⟨_, hrest, rfl⟩)
        rw [get?, if_neg hk]
        exact ih hnodup.2 hrest

/-- The entries of a map: of those under one key, the first.  In a map that has been written, these
are all entries. -/
def bindings : List (String × α) → List (String × α)
  | [] => []
  | entry :: rest => entry :: (bindings rest).filter fun later => later.1 ≠ entry.1

/-- What is found under a key is the entry with this key. -/
theorem mem_bindings_iff
    {entries : List (String × α)} {key : String} {a : α} :
    (key, a) ∈ bindings entries ↔ get? entries key = some a := by
  induction entries with
  | nil =>
      simp [bindings, get?]
  | cons entry rest ih =>
      obtain ⟨k, b⟩ := entry
      rw [bindings, List.mem_cons, List.mem_filter, ih, get?]
      by_cases hk : k = key
      · simp [hk, eq_comm]
      · simp [hk, Ne.symm hk]

/-- A read finds something under the keys of a map, and nowhere else. -/
theorem get?_isSome_iff {entries : List (String × α)} {key : String} :
    (get? entries key).isSome = true ↔ key ∈ keys entries := by
  induction entries with
  | nil =>
      simp [get?]
  | cons entry rest ih =>
      by_cases h : entry.1 = key
      · simp [get?, h]
      · have h' : key ≠ entry.1 := fun e => h e.symm
        simp [get?, h, h', ih]

/-- Where the keys are distinct, every entry counts. -/
theorem bindings_of_nodup
    {entries : List (String × α)} (hnodup : (keys entries).Nodup) :
    bindings entries = entries := by
  induction entries with
  | nil =>
      rfl
  | cons entry rest ih =>
      rw [keys_cons, List.nodup_cons] at hnodup
      rw [bindings, ih hnodup.2, List.filter_eq_self.mpr]
      intro later hlater
      refine decide_eq_true fun hsame => hnodup.1 ?_
      exact hsame ▸ List.mem_map_of_mem hlater

/-- A map over the values is seen under every key. -/
theorem get?_map
    {β : Type u} (f : α → β) (entries : List (String × α)) (key : String) :
    get? (entries.map fun entry => (entry.1, f entry.2)) key = (get? entries key).map f := by
  induction entries with
  | nil =>
      rfl
  | cons entry rest ih =>
      by_cases hk : entry.1 = key
      · simp [get?, hk]
      · simp [get?, hk, ih]

@[simp] theorem keys_map
    {β : Type u} (f : α → β) (entries : List (String × α)) :
    keys (entries.map fun entry => (entry.1, f entry.2)) = keys entries := by
  simp [keys]

end Keyed

/-- A text of digits stands for the number that it writes. -/
theorem arrayIndex?_of_digits
    {key : String}
    (hne : key.toList ≠ [])
    (hdigits : ∀ c ∈ key.toList, c.isDigit = true) :
    arrayIndex? key = some (Nat.ofDigitChars 10 key.toList 0) := by
  unfold arrayIndex?
  split
  · next rest h =>
      have hplus : '+'.isDigit = true := hdigits '+' (h ▸ List.mem_cons_self)
      exact absurd hplus (by decide)
  · have hall : key.toList.all Char.isDigit = true := List.all_eq_true.mpr hdigits
    simp [hne, hall, Nat.ofDigitChars_eq_foldl]

/-- The decimal text of an index stands for that index. -/
theorem arrayIndex?_toString (index : Nat) :
    arrayIndex? (toString index) = some index := by
  rw [Nat.toString_eq_repr, arrayIndex?_of_digits]
  · rw [Nat.toList_repr, Nat.ofDigitChars_toDigits]
    · decide
    · decide
  · rw [Nat.toList_repr]
    exact Nat.toDigits_ne_nil
  · intro c hc
    rw [Nat.toList_repr] at hc
    exact Nat.isDigit_of_mem_toDigits (by decide) (by decide) hc

namespace Value

/-- Under the decimal text of an index an array holds the item at that index. -/
theorem property_toString
    (id : Identity) (items : List Value) (index : Nat) :
    (array id items).property (toString index) = items[index]?.getD undefined := by
  rw [property, property?, arrayIndex?_toString, Option.bind_some]

/-- Nothing that is present can be read from null or undefined. -/
theorem isNullish_of_property
    {v : Value} {key : String}
    (h : (v.property key).isNullish = false) :
    v.isNullish = false := by
  cases v with
  | undefined => cases h
  | null => cases h
  | _ => rfl

/-- A value with items is an array. -/
theorem eq_array_of_items?
    {v : Value} {items : List Value} (h : v.items? = some items) :
    ∃ id, v = array id items := by
  cases v with
  | array id items' =>
      obtain rfl : items' = items := Option.some.inj h
      exact ⟨id, rfl⟩
  | _ => cases h

/-- The own properties of an object with their names; no other value has any. -/
def properties : Value → List (String × Value)
  | object _ _ entries => Keyed.bindings entries
  | _ => []

/-- Looking up each own key again reaches the own properties, each under its own name. -/
theorem forall_ownKeys_iff {v : Value} {P : String → Value → Prop} :
    (∀ key ∈ v.ownKeys, P key (v.property key)) ↔ ∀ p ∈ v.properties, P p.1 p.2 := by
  cases v with
  | object id cls entries =>
      have hkeys : (object id cls entries).ownKeys = Keyed.keys entries := rfl
      have hproperties : (object id cls entries).properties = Keyed.bindings entries := rfl
      rw [hkeys, hproperties]
      constructor
      · rintro h ⟨key, x⟩ hmem
        have hfound := Keyed.mem_bindings_iff.mp hmem
        have hkey := h key (Keyed.get?_isSome_iff.mp (Option.isSome_of_eq_some hfound))
        rwa [property_object, hfound] at hkey
      · intro h key hkey
        obtain ⟨x, hfound⟩ := Option.isSome_iff_exists.mp (Keyed.get?_isSome_iff.mpr hkey)
        rw [property_object, hfound]
        exact h (key, x) (Keyed.mem_bindings_iff.mpr hfound)
  | _ => simp [ownKeys, properties, entries?]

end Value

namespace Query

@[simp] theorem item_value (q : Query) (index : Nat) :
    (q.item index).query.value = q.value.property (toString index) := by
  rfl

/-- The question about an index of an array is about the item there. -/
theorem item_value_of_items?
    {q : Query} {items : List Value} (hitems : q.value.items? = some items) (index : Nat) :
    (q.item index).query.value = items[index]?.getD .undefined := by
  obtain ⟨id, harray⟩ := Value.eq_array_of_items? hitems
  rw [item_value, harray, Value.property_toString]

@[simp] theorem member_value (q : Query) (key : String) :
    (q.member key).query.value = q.value.property key := by
  rfl

@[simp] theorem forward_value (q : Query) :
    q.forward.query.value = q.value := by
  rfl

end Query
end ShapeCheck
