import Mathlib.Data.Finset.Card
import Mathlib.Data.List.Induction
import ShapeCheck.Proofs.Entries
import ShapeCheck.Proofs.Reading
import ShapeCheck.Value.Fresh

/-!
# Maps in the order of their first writes

The properties of an object and the named slots of a batch are written one after the other into a
map that is empty at first.  What is left of the writes is a map: each key stands where it was first
written, and carries what was written last under it.  Whoever walks along the keys and looks each of
them up again meets every entry once.

* `Keyed.IsMapOf`: a map is what is left of some writes.
* `Keyed.IsMapOf.insert` and `Keyed.isMapOf_ofList`: one more write, and all of them.
* `Fresh.properties_object`: nothing that has been written into an object is hidden.
* `Batch.value_run_eq_ok_iff_of_isMapOf`: what a batch over a written map reports.
* `Batch.last_slots_decide_in_order_of_first_writes`: both together, for every way of writing.
-/

namespace ShapeCheck

namespace Keyed

universe u

variable {α : Type u}

/-- The value that is written last under a key. -/
def lastWritten? (writes : List (String × α)) (key : String) : Option α :=
  writes.reverse.lookup key

/-- A map is what is left of some writes: its keys stand in the order in which they were first
written, and each read gives the value that was written last. -/
structure IsMapOf (writes entries : List (String × α)) : Prop where
  inOrder : (keys entries).Pairwise fun a b => (keys writes).idxOf a < (keys writes).idxOf b
  get?_eq : ∀ key, get? entries key = lastWritten? writes key

section Writes

variable {writes entries : List (String × α)}

@[simp] theorem keys_append (first second : List (String × α)) :
    keys (first ++ second) = keys first ++ keys second :=
  List.map_append

/-- The last of the writes is seen under its own key, and hides the ones before it there. -/
theorem lastWritten?_append_singleton
    (writes : List (String × α)) (key other : String) (value : α) :
    lastWritten? (writes ++ [(key, value)]) other =
      if other = key then some value else lastWritten? writes other := by
  by_cases h : other = key
  · simp [lastWritten?, h]
  · simp [lastWritten?, List.lookup_cons, h, beq_eq_false_iff_ne.mpr h]

theorem lastWritten?_isSome_iff {key : String} :
    (lastWritten? writes key).isSome = true ↔ key ∈ keys writes := by
  simp [lastWritten?, keys, List.lookup_isSome_iff]

/-- One more write is the next of all writes. -/
theorem ofList_append_singleton (writes : List (String × α)) (key : String) (value : α) :
    ofList (writes ++ [(key, value)]) = insert (ofList writes) key value := by
  simp [ofList]

namespace IsMapOf

/-- The keys of a map are those that were written. -/
theorem mem_keys_iff (h : IsMapOf writes entries) (key : String) :
    key ∈ keys entries ↔ key ∈ keys writes := by
  rw [← get?_isSome_iff, h.get?_eq, lastWritten?_isSome_iff]

theorem nodup (h : IsMapOf writes entries) :
    (keys entries).Nodup := by
  refine h.inOrder.imp fun {a b} hlt heq => ?_
  rw [heq] at hlt
  exact Nat.lt_irrefl _ hlt

/-- Each entry is found again under its key. -/
theorem get?_of_mem
    (h : IsMapOf writes entries) {entry : String × α} (hentry : entry ∈ entries) :
    get? entries entry.1 = some entry.2 :=
  get?_eq_some_of_mem h.nodup hentry

theorem lastWritten?_of_mem
    (h : IsMapOf writes entries) {entry : String × α} (hentry : entry ∈ entries) :
    lastWritten? writes entry.1 = some entry.2 := by
  rw [← h.get?_eq]
  exact h.get?_of_mem hentry

/-- There are as many entries as different keys. -/
theorem length_eq (h : IsMapOf writes entries) :
    entries.length = (keys writes).toFinset.card := by
  have hkeys : (keys entries).toFinset = (keys writes).toFinset := by
    ext key
    rw [List.mem_toFinset, List.mem_toFinset, h.mem_keys_iff]
  rw [← hkeys, List.toFinset_card_of_nodup h.nodup, keys, List.length_map]

theorem nil : IsMapOf ([] : List (String × α)) [] where
  inOrder := .nil
  get?_eq _ := rfl

/-- A write leaves the places of the keys as they are, and a new key comes behind all of them. -/
theorem insert (h : IsMapOf writes entries) (key : String) (value : α) :
    IsMapOf (writes ++ [(key, value)]) (Keyed.insert entries key value) where
  inOrder := by
    have hkeys : keys (writes ++ [(key, value)]) = keys writes ++ [key] :=
      keys_append writes [(key, value)]
    have hplace {a : String} (ha : a ∈ keys entries) :
        (keys writes ++ [key]).idxOf a = (keys writes).idxOf a :=
      List.idxOf_append_of_mem ((h.mem_keys_iff a).mp ha)
    have hold : (keys entries).Pairwise fun a b =>
        (keys writes ++ [key]).idxOf a < (keys writes ++ [key]).idxOf b := by
      refine h.inOrder.imp_of_mem fun ha hb hlt => ?_
      rwa [hplace ha, hplace hb]
    rw [keys_insert, hkeys]
    split
    · exact hold
    · next hnew =>
        rw [h.mem_keys_iff] at hnew
        refine List.pairwise_append.mpr ⟨hold, List.pairwise_singleton _ _, ?_⟩
        intro a ha b hb
        obtain rfl := List.mem_singleton.mp hb
        have hlt : (keys writes).idxOf a < (keys writes).length :=
          List.idxOf_lt_length_iff.mpr ((h.mem_keys_iff a).mp ha)
        rw [hplace ha, List.idxOf_append_of_notMem hnew]
        exact Nat.lt_add_right _ hlt
  get?_eq other := by
    rw [get?_insert, lastWritten?_append_singleton, h.get?_eq]

end IsMapOf

/-- Writing one entry after the other leaves a map behind. -/
theorem isMapOf_ofList (writes : List (String × α)) :
    IsMapOf writes (ofList writes) := by
  -- The write that was made last is the outermost, so the induction is from the end of the list.
  induction writes using List.reverseRecOn with
  | nil =>
      exact .nil
  | append_singleton writes entry ih =>
      rw [ofList_append_singleton]
      exact ih.insert entry.1 entry.2

end Writes

/-- To walk along the entries of a map is to walk along its keys and look each of them up. -/
theorem filterMap_eq_filterMap_keys
    {β : Type u} {entries : List (String × α)} (hnodup : (keys entries).Nodup)
    (f : String × α → Option β) :
    entries.filterMap f =
      (keys entries).filterMap fun key => (get? entries key).bind fun a => f (key, a) := by
  rw [keys, List.filterMap_map]
  refine List.filterMap_congr fun entry hentry => ?_
  rw [Function.comp_apply, get?_eq_some_of_mem hnodup hentry]
  rfl

end Keyed

namespace Fresh

/-- Every entry of an object that has been written is one of its properties. -/
theorem properties_object
    (cls : Option Class) (writes : List (String × Value)) (next : Nat) :
    (object cls writes next).1.properties = Keyed.ofList writes :=
  Keyed.bindings_of_nodup (Keyed.isMapOf_ofList writes).nodup

/-- The properties of a document are written in the order of its members. -/
theorem forall₂_ofJsonMembers (members : List (String × Json)) (next : Nat) :
    List.Forall₂
      (fun member write => write.1 = member.1 ∧ ∃ next', write.2 = (ofJson member.2 next').1)
      members (ofJsonMembers members next).1 := by
  induction members generalizing next with
  | nil =>
      exact .nil
  | cons member rest ih =>
      exact .cons ⟨rfl, next, rfl⟩ (ih _)

end Fresh

namespace Batch

open Keyed (lastWritten? IsMapOf keys)

variable {subject : Subject} {writes specs : List (String × Slot)}

/-- What the slot that is written last under a name contributes. -/
def contributedUnder (writes : List (String × Slot)) (subject : Subject) (name : String) :
    Option Failure :=
  (lastWritten? writes name).bind fun slot => contributed .standard subject (name, slot)

/-- The entries of a written map are the names with the slots that are written last under them. -/
theorem forall_mem_iff_forall_lastWritten
    (h : IsMapOf writes specs) {P : String × Slot → Prop} :
    (∀ entry ∈ specs, P entry) ↔
      ∀ name slot, lastWritten? writes name = some slot → P (name, slot) := by
  constructor
  · intro hall name slot hlast
    rw [← h.get?_eq] at hlast
    exact hall _ (Keyed.mem_of_get?_eq_some hlast)
  · rintro hlast ⟨name, slot⟩ hentry
    exact hlast name slot (h.lastWritten?_of_mem hentry)

/-- A batch over a written map reports at most one failure for each name, in the order in which the
names were first written, and the slot that was written last decides which. -/
theorem value_run_eq_ok_iff_of_isMapOf (h : IsMapOf writes specs) {report : Option Report} :
    (run specs subject).value = .ok report
      ↔
    (∀ name slot, lastWritten? writes name = some slot →
      ∃ found, (runEntry .standard subject (name, slot)).value = .ok found) ∧
    report = Report.ofFailures? ((keys specs).filterMap (contributedUnder writes subject)) := by
  have hfailures : specs.filterMap (contributed .standard subject) =
      (keys specs).filterMap (contributedUnder writes subject) := by
    rw [Keyed.filterMap_eq_filterMap_keys h.nodup]
    simp only [h.get?_eq]
    rfl
  have hentries :
      (∀ entry ∈ specs, ∃ found, (runEntry .standard subject entry).value = .ok found) ↔
        ∀ name slot, lastWritten? writes name = some slot →
          ∃ found, (runEntry .standard subject (name, slot)).value = .ok found :=
    forall_mem_iff_forall_lastWritten h
  rw [value_run_eq_ok_iff, ← hentries, ← hfailures]
  constructor
  · rintro ⟨failures, hrun, rfl⟩
    have hfound := exists_found_of_ok hrun
    rw [value_runEntries_eq_ok hfound, Except.ok.injEq] at hrun
    exact ⟨hfound, by rw [hrun]⟩
  · rintro ⟨hfound, rfl⟩
    exact ⟨_, value_runEntries_eq_ok hfound, rfl⟩

/-- A batch over a written map is aborted at the first name, in the order in which the names were
first written, whose last slot aborts it. -/
theorem value_run_eq_error_iff_of_isMapOf (h : IsMapOf writes specs) {abort : Abort} :
    (run specs subject).value = .error abort
      ↔
    ∃ before name after slot,
      keys specs = before ++ name :: after ∧
      (∀ earlier ∈ before, ∀ slot', lastWritten? writes earlier = some slot' →
        ∃ found, (runEntry .standard subject (earlier, slot')).value = .ok found) ∧
      lastWritten? writes name = some slot ∧
      (runEntry .standard subject (name, slot)).value = .error abort := by
  rw [value_run_eq_error_iff, value_runEntries_eq_error_iff]
  constructor
  · rintro ⟨before, ⟨name, slot⟩, after, rfl, hbefore, hentry⟩
    have hslot : lastWritten? writes name = some slot := by
      have hmem : (name, slot) ∈ before ++ (name, slot) :: after := by simp
      exact h.lastWritten?_of_mem hmem
    refine ⟨keys before, name, keys after, slot, by simp, ?_, hslot, hentry⟩
    intro earlier hearlier slot' hslot'
    obtain ⟨entry, hmem, rfl⟩ := List.mem_map.mp hearlier
    obtain rfl : entry.2 = slot' :=
      Option.some.inj ((h.lastWritten?_of_mem (List.mem_append_left _ hmem)).symm.trans hslot')
    exact hbefore entry hmem
  · rintro ⟨before, name, after, slot, hkeys, hbefore, hslot, hentry⟩
    obtain ⟨before', rest, rfl, rfl, hrest⟩ := List.map_eq_append_iff.mp hkeys
    obtain ⟨entry, after', rfl, rfl, rfl⟩ := List.map_eq_cons_iff.mp hrest
    obtain rfl : slot = entry.2 :=
      Option.some.inj (hslot.symm.trans (h.lastWritten?_of_mem (by simp)))
    refine ⟨before', entry, after', rfl, fun earlier hearlier => ?_, hentry⟩
    exact hbefore earlier.1 (List.mem_map_of_mem hearlier) earlier.2
      (h.lastWritten?_of_mem (List.mem_append_left _ hearlier))

/-- Objects and the named slots of a batch are maps in the order of insertion.  Whatever is written
into an empty map, one entry at a time, from a list or from the members of a document, the keys are
distinct and stand in the order in which they were first written, each read gives the value that was
written last, there are as many entries as different keys, and each entry is found again under its
key.  So a batch over slots that are written in this way reports at most one failure for each name,
in the order in which the names were first written, and the slot that was written last decides
which; it is aborted at the first name whose last slot aborts it. -/
theorem last_slots_decide_in_order_of_first_writes :
    (∀ (α : Type) (writes : List (String × α)),
      (∀ key value,
        Keyed.insert (Keyed.ofList writes) key value = Keyed.ofList (writes ++ [(key, value)])) ∧
      (keys (Keyed.ofList writes)).Nodup ∧
      (∀ key, key ∈ keys (Keyed.ofList writes) ↔ key ∈ keys writes) ∧
      (keys (Keyed.ofList writes)).Pairwise
        (fun a b => (keys writes).idxOf a < (keys writes).idxOf b) ∧
      (∀ key, Keyed.get? (Keyed.ofList writes) key = writes.reverse.lookup key) ∧
      (∀ key, Keyed.contains (Keyed.ofList writes) key = true ↔
        ∃ a, Keyed.get? (Keyed.ofList writes) key = some a) ∧
      (Keyed.ofList writes).length = (keys writes).toFinset.card ∧
      ∀ entry ∈ Keyed.ofList writes,
        Keyed.get? (Keyed.ofList writes) entry.1 = some entry.2) ∧
    (∀ cls writes next, ∃ id,
      (Fresh.object cls writes next).1 = .object id cls (Keyed.ofList writes)) ∧
    (∀ members next, ∃ id writes,
      (Fresh.ofJson (.obj members) next).1 = .object id none (Keyed.ofList writes) ∧
      List.Forall₂
        (fun member write =>
          write.1 = member.1 ∧ ∃ next', write.2 = (Fresh.ofJson member.2 next').1)
        members writes) ∧
    ∀ (writes : List (String × Slot)) (subject : Subject),
      (∀ report,
        (run (Keyed.ofList writes) subject).value = .ok report
          ↔
        (∀ name slot, lastWritten? writes name = some slot →
          ∃ found, (runEntry .standard subject (name, slot)).value = .ok found) ∧
        report = Report.ofFailures?
          ((keys (Keyed.ofList writes)).filterMap fun name =>
            (lastWritten? writes name).bind fun slot =>
              contributed .standard subject (name, slot))) ∧
      ∀ abort,
        (run (Keyed.ofList writes) subject).value = .error abort
          ↔
        ∃ before name after slot,
          keys (Keyed.ofList writes) = before ++ name :: after ∧
          (∀ earlier ∈ before, ∀ slot', lastWritten? writes earlier = some slot' →
            ∃ found, (runEntry .standard subject (earlier, slot')).value = .ok found) ∧
          lastWritten? writes name = some slot ∧
          (runEntry .standard subject (name, slot)).value = .error abort := by
  refine ⟨?_, ?_, ?_, ?_⟩
  · intro α writes
    have hmap := Keyed.isMapOf_ofList writes
    exact ⟨fun key value => (Keyed.ofList_append_singleton writes key value).symm, hmap.nodup,
      hmap.mem_keys_iff, hmap.inOrder, hmap.get?_eq, fun key => Option.isSome_iff_exists,
      hmap.length_eq, fun entry hentry => hmap.get?_of_mem hentry⟩
  · intro cls writes next
    exact ⟨next, rfl⟩
  · intro members next
    exact ⟨_, _, rfl, Fresh.forall₂_ofJsonMembers members next⟩
  · intro writes subject
    have hmap := Keyed.isMapOf_ofList writes
    exact ⟨fun report => value_run_eq_ok_iff_of_isMapOf hmap,
      fun abort => value_run_eq_error_iff_of_isMapOf hmap⟩

/-- A name that is written again keeps its place and loses its first slot: the text under it would
have passed, but what stands there at the end is no checker. -/
theorem last_slots_decide_in_order_of_first_writes_of_overwritten :
    let text : Slot := .checker (.primitive "string") true
    let number : Slot := .checker (.primitive "number") false
    let writes : List (String × Slot) := [("zeta", text), ("alpha", number), ("zeta", .value .null)]
    let subject : Subject :=
      ⟨.object 0 none [("alpha", .string "x"), ("zeta", .string "y")], "prop", some "C"⟩
    let wrong : Failure :=
      .expecting
        "Invalid prop `alpha` of type `string` supplied to `C`, expected `number`." "number"
    Keyed.get? (Keyed.ofList writes) "zeta" = some (.value .null) ∧
      (Keyed.ofList writes).length = 2 ∧
      (run (Keyed.ofList writes) subject).value =
        .ok (Report.ofFailures? [subject.invalidEntry "zeta" .object, wrong]) := by
  intro text number writes subject wrong
  obtain ⟨hmaps, -, -, hbatch⟩ := last_slots_decide_in_order_of_first_writes
  obtain ⟨-, -, -, -, hget, -, hlength, -⟩ := hmaps Slot writes
  have hfound (name : String) (slot : Slot) (hlast : lastWritten? writes name = some slot) :
      ∃ found, (runEntry .standard subject (name, slot)).value = .ok found := by
    have hmem : (name, slot) ∈ Keyed.ofList writes :=
      Keyed.mem_of_get?_eq_some ((hget name).trans hlast)
    have hspecs : Keyed.ofList writes = [("zeta", .value .null), ("alpha", number)] := rfl
    rw [hspecs, List.mem_cons, List.mem_singleton, Prod.mk.injEq, Prod.mk.injEq] at hmem
    obtain ⟨rfl, rfl⟩ | ⟨rfl, rfl⟩ := hmem
    · exact ⟨_, rfl⟩
    · exact ⟨_, rfl⟩
  refine ⟨hget "zeta", hlength, ((hbatch writes subject).1 _).mpr ⟨hfound, ?_⟩⟩
  decide +kernel

end Batch
end ShapeCheck
