/-!
# Insertion-ordered maps

A map from text keys is a list of entries in the order in which the keys were first written.
Writing a key again replaces its value in place, so a key keeps its first position and carries its
last value.  Object properties and checker fields are both kept this way.

Main statements: `keys_insert` says what a write does to the keys, `get?_insert` what it does to
a read, `nodup_keys_ofList` that no key occurs twice.
-/

namespace ShapeCheck
namespace Keyed

universe u

variable {α : Type u}

/-- Writes `value` under `key`: in place when the key is present, at the end otherwise. -/
def insert : List (String × α) → String → α → List (String × α)
  | [], key, value => [(key, value)]
  | (k, v) :: rest, key, value =>
      if k = key then (key, value) :: rest else (k, v) :: insert rest key value

/-- The value under `key`. -/
def get? : List (String × α) → String → Option α
  | [], _ => none
  | (k, v) :: rest, key => if k = key then some v else get? rest key

/-- Whether some value stands under `key`. -/
def contains (entries : List (String × α)) (key : String) : Bool :=
  (get? entries key).isSome

/-- The keys in order. -/
def keys (entries : List (String × α)) : List String :=
  entries.map Prod.fst

/-- The map that results from writing the given entries one after the other. -/
def ofList (entries : List (String × α)) : List (String × α) :=
  entries.foldl (fun written entry => insert written entry.1 entry.2) []

@[simp] theorem keys_nil :
    keys ([] : List (String × α)) = [] := by
  rfl

@[simp] theorem keys_cons
    (entry : String × α) (rest : List (String × α)) :
    keys (entry :: rest) = entry.1 :: keys rest := by
  rfl

/-- A new key goes to the end, a known one stays where it is. -/
theorem keys_insert
    (entries : List (String × α)) (key : String) (value : α) :
    keys (insert entries key value) =
      if key ∈ keys entries then keys entries else keys entries ++ [key] := by
  induction entries with
  | nil =>
      simp [insert]
  | cons entry rest ih =>
      by_cases h : entry.1 = key
      · simp [insert, h]
      · have h' : key ≠ entry.1 := fun e => h e.symm
        by_cases hmem : key ∈ keys rest <;> simp [insert, h, h', ih, hmem]

/-- A write is seen under its own key and nowhere else. -/
theorem get?_insert
    (entries : List (String × α)) (key other : String) (value : α) :
    get? (insert entries key value) other =
      if other = key then some value else get? entries other := by
  induction entries with
  | nil =>
      by_cases h : other = key
      · simp [insert, get?, h]
      · have h' : key ≠ other := fun e => h e.symm
        simp [insert, get?, h, h']
  | cons entry rest ih =>
      by_cases h : entry.1 = key
      · by_cases ho : other = key
        · simp [insert, get?, h, ho]
        · have h' : key ≠ other := fun e => ho e.symm
          simp [insert, get?, h, ho, h']
      · by_cases ho : entry.1 = other
        · subst ho
          simp [insert, get?, h]
        · simp [insert, get?, h, ho, ih]

/-- A write keeps the keys distinct. -/
theorem nodup_keys_insert
    {entries : List (String × α)} (key : String) (value : α)
    (h : (keys entries).Nodup) :
    (keys (insert entries key value)).Nodup := by
  rw [keys_insert]
  split
  · exact h
  · next hmem =>
      exact List.nodup_append.mpr
        ⟨h, by simp, fun a ha b hb e => hmem (by simp_all)⟩

/-- No key of a written map occurs twice. -/
theorem nodup_keys_ofList
    (entries : List (String × α)) :
    (keys (ofList entries)).Nodup := by
  suffices h : ∀ written : List (String × α), (keys written).Nodup →
      (keys (entries.foldl (fun w entry => insert w entry.1 entry.2) written)).Nodup from
    h [] (by simp)
  induction entries with
  | nil =>
      intro written h
      exact h
  | cons entry rest ih =>
      intro written h
      exact ih _ (nodup_keys_insert entry.1 entry.2 h)

end Keyed
end ShapeCheck
