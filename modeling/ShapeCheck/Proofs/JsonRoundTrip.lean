import Mathlib.Data.List.Forall2
import ShapeCheck.Proofs.NumberText
import ShapeCheck.Proofs.RoundingOfIntegers
import ShapeCheck.Proofs.SymbolsAsText
import ShapeCheck.Value.Fresh

/-!
# Documents and the values that they stand for

A document that is read as a value and written again keeps all but its numbers.  Each number is
rounded once, to the nearest number that a value can hold, and written as an integer where all
integers are numbers.  Read again, the document gives the same value, but for negative zeros, and it
is then written as it is.

* `Json.Held`: the documents that the library holds.
* `Json.Normalizes`: a document that differs from another one in how its numbers are written.
* `Value.SameNodes`: values that differ in the sign of zeros at most.
* `Json.normalizes_in_round_trip`: reading and writing, twice.
-/

namespace ShapeCheck

namespace Keyed

universe u

variable {α : Type u}

theorem keys_zip {names : List String} {values : List α} (h : names.length ≤ values.length) :
    keys (names.zip values) = names :=
  List.map_fst_zip h

/-- A new key is written at the end. -/
theorem insert_of_not_mem
    {entries : List (String × α)} {key : String} (value : α) (h : key ∉ keys entries) :
    insert entries key value = entries ++ [(key, value)] := by
  induction entries with
  | nil =>
      rfl
  | cons entry rest ih =>
      rw [keys_cons, List.mem_cons, not_or] at h
      rw [insert, if_neg (Ne.symm h.1), ih h.2, List.cons_append]

/-- Entries with distinct keys are kept as they are written. -/
theorem ofList_of_nodup {entries : List (String × α)} (h : (keys entries).Nodup) :
    ofList entries = entries := by
  suffices hwritten : ∀ written : List (String × α), (keys (written ++ entries)).Nodup →
      entries.foldl (fun w entry => insert w entry.1 entry.2) written = written ++ entries from
    hwritten [] h
  clear h
  induction entries with
  | nil =>
      intro written _
      exact (List.append_nil written).symm
  | cons entry rest ih =>
      intro written h
      have hnew : entry.1 ∉ keys written := by
        intro hmem
        rw [keys, List.map_append, List.map_cons] at h
        exact (List.nodup_append.mp h).2.2 _ hmem _ List.mem_cons_self rfl
      rw [List.foldl_cons, insert_of_not_mem _ hnew, ih _ (by simpa using h), List.append_assoc]
      rfl

end Keyed

namespace Binary64

/-- The number that a finite word stands for. -/
def toRat (x : Binary64) : ℚ :=
  if x.isNegative then -x.magnitude else x.magnitude

end Binary64

namespace Json

/-- A document as it is held: integers have at most sixty-four bits, fractional numbers are finite,
and no object has two members of one name. -/
inductive Held : Json → Prop
  | null :
      Held .null
  | bool (b : Bool) :
      Held (.bool b)
  | int {n : Int} (hlow : -2 ^ 63 ≤ n) (hhigh : n < 2 ^ 64) :
      Held (.int n)
  | float {x : Binary64} (hfinite : x.isFinite = true) :
      Held (.float x)
  | str (text : String) :
      Held (.str text)
  | arr {items : List Json} (hitems : ∀ item ∈ items, Held item) :
      Held (.arr items)
  | obj {members : List (String × Json)}
      (hkeys : (Keyed.keys members).Nodup) (hmembers : ∀ member ∈ members, Held member.2) :
      Held (.obj members)

/-- A number of a document rounds to a number: an integer to the nearest one of its sign, and a
fractional number to itself. -/
inductive RoundsTo : Json → Binary64 → Prop
  | int {n : Int} {x : Binary64}
      (hnearest : x.IsNearest n.natAbs) (hsign : x.isNegative = decide (n < 0)) :
      RoundsTo (.int n) x
  | float (x : Binary64) :
      RoundsTo (.float x) x

/-- How a number is written: as an integer where all integers are numbers, and otherwise as a
fractional number. -/
inductive WrittenAs (x : Binary64) : Json → Prop
  | int {n : Int} (hvalue : x.toRat = n) (hsafe : n.natAbs ≤ Value.maxSafeInteger) :
      WrittenAs x (.int n)
  | float (hbeyond : ∀ n : Int, x.toRat = n → Value.maxSafeInteger < n.natAbs) :
      WrittenAs x (.float x)

/-- A document differs from another one only in its numbers, each of which is rounded and then
written in the one way that there is for it. -/
inductive Normalizes : Json → Json → Prop
  | null :
      Normalizes .null .null
  | bool (b : Bool) :
      Normalizes (.bool b) (.bool b)
  | str (text : String) :
      Normalizes (.str text) (.str text)
  | number {doc form : Json} {x : Binary64}
      (hrounds : doc.RoundsTo x) (hfinite : x.isFinite = true) (hwritten : WrittenAs x form) :
      Normalizes doc form
  | arr {items items' : List Json} (hitems : List.Forall₂ Normalizes items items') :
      Normalizes (.arr items) (.arr items')
  | obj {members members' : List (String × Json)}
      (hkeys : Keyed.keys members' = Keyed.keys members)
      (hmembers : List.Forall₂ Normalizes (members.map Prod.snd) (members'.map Prod.snd)) :
      Normalizes (.obj members) (.obj members')

end Json

/-- Values that documents stand for are the same node by node: of one kind and with the same text,
the same number of items, and properties of the same names in the same order.  Numbers are the same
as well, except that a negative zero has become a positive one. -/
inductive Value.SameNodes : Value → Value → Prop
  | null :
      SameNodes .null .null
  | bool (b : Bool) :
      SameNodes (.bool b) (.bool b)
  | string (text : String) :
      SameNodes (.string text) (.string text)
  | number {x x' : Binary64}
      (hnumber : x'.sameValue (if x = .negZero then .zero else x) = true) :
      SameNodes (.number x) (.number x')
  | array (id id' : Identity) {items items' : List Value}
      (hitems : List.Forall₂ SameNodes items items') :
      SameNodes (.array id items) (.array id' items')
  | object (id id' : Identity) {entries entries' : List (String × Value)}
      (hkeys : Keyed.keys entries' = Keyed.keys entries)
      (hentries : List.Forall₂ SameNodes (entries.map Prod.snd) (entries'.map Prod.snd)) :
      SameNodes (.object id none entries) (.object id' none entries')

/-! ### Numbers -/

namespace Binary64

section Integers

variable {x : Binary64} {n : Int}

theorem magnitude_nonneg (x : Binary64) :
    0 ≤ x.magnitude := by
  rw [magnitude_eq]
  exact mul_nonneg (Nat.cast_nonneg _) leastPlace_pos.le

theorem toInt?_of_natAbs? (hfinite : x.isFinite = true) {m : Nat} (hm : x.natAbs? = some m) :
    x.toInt? = some (if x.isNegative then -(m : Int) else m) := by
  rw [toInt?, if_pos hfinite, hm]
  rfl

theorem magnitude_of_toRat (hvalue : x.toRat = n) :
    x.magnitude = n.natAbs := by
  rw [toRat] at hvalue
  rw [Nat.cast_natAbs, Int.cast_abs, ← hvalue]
  split_ifs
  · rw [abs_neg, abs_of_nonneg x.magnitude_nonneg]
  · rw [abs_of_nonneg x.magnitude_nonneg]

theorem nonpos_of_isNegative (hvalue : x.toRat = n) (hsign : x.isNegative = true) :
    n ≤ 0 := by
  have hnonneg := x.magnitude_nonneg
  rw [toRat, if_pos hsign] at hvalue
  exact_mod_cast (by linarith : (n : ℚ) ≤ 0)

theorem nonneg_of_isNegative_eq_false (hvalue : x.toRat = n) (hsign : ¬x.isNegative = true) :
    0 ≤ n := by
  have hnonneg := x.magnitude_nonneg
  rw [toRat, if_neg hsign] at hvalue
  exact_mod_cast (by linarith : (0 : ℚ) ≤ n)

/-- The integer that a finite number is. -/
theorem toInt?_eq_some_iff (hfinite : x.isFinite = true) :
    x.toInt? = some n ↔ x.toRat = n := by
  constructor
  · intro hn
    cases hm : x.natAbs? with
    | none =>
        rw [toInt?, if_pos hfinite, hm] at hn
        cases hn
    | some m =>
        rw [toInt?_of_natAbs? hfinite hm, Option.some_inj] at hn
        rw [toRat, natAbs?_eq_some_iff.mp hm, ← hn]
        split_ifs <;> simp
  · intro hvalue
    rw [toInt?_of_natAbs? hfinite (natAbs?_eq_some_iff.mpr (magnitude_of_toRat hvalue)),
      Option.some_inj]
    split_ifs with hsign
    · have hle := nonpos_of_isNegative hvalue hsign
      omega
    · have hge := nonneg_of_isNegative_eq_false hvalue hsign
      omega

/-- A number that is a small integer is read again as it is, except that zero loses its sign. -/
theorem ofInt_of_toRat (hvalue : x.toRat = n) (hsafe : n.natAbs < 2 ^ 53) :
    ofInt n = if x = .negZero then .zero else x := by
  have habs : (ofInt n).absBits = x.absBits := by
    rw [← magnitude_inj, magnitude_ofInt hsafe, magnitude_of_toRat hvalue]
  by_cases hn : n = 0
  · -- Only zero has two words, and the one with the sign is read as the other.
    subst hn
    have hzero : x.absBits = 0 := habs.symm
    split_ifs with hneg
    · rfl
    · refine ext_of_sign ?_ habs
      cases hsign : x.isNegative with
      | true => exact absurd (ext_of_sign hsign hzero) hneg
      | false => rfl
  · have hneg : x ≠ .negZero := by
      rintro rfl
      have hle := nonpos_of_isNegative hvalue rfl
      have hzero := magnitude_of_toRat hvalue
      rw [magnitude_of_isZero rfl] at hzero
      have hnat : n.natAbs = 0 := by exact_mod_cast hzero.symm
      exact hn (Int.natAbs_eq_zero.mp hnat)
    rw [if_neg hneg]
    refine ext_of_sign ?_ habs
    rw [isNegative_ofInt]
    cases hsign : x.isNegative with
    | true =>
        have hle := nonpos_of_isNegative hvalue hsign
        exact decide_eq_true (by omega)
    | false =>
        have hge := nonneg_of_isNegative_eq_false hvalue (Bool.eq_false_iff.mp hsign)
        exact decide_eq_false (by omega)

end Integers

end Binary64

namespace Value

section Numbers

variable {x : Binary64}

/-- A finite number is written in the one way that there is for it. -/
theorem writtenAs_numberToJson (hfinite : x.isFinite = true) :
    Json.WrittenAs x (numberToJson x) := by
  rw [numberToJson, if_pos hfinite]
  cases hn : x.toInt? with
  | none =>
      refine .float fun n hvalue => ?_
      rw [(Binary64.toInt?_eq_some_iff hfinite).mpr hvalue] at hn
      cases hn
  | some n =>
      have hvalue := (Binary64.toInt?_eq_some_iff hfinite).mp hn
      dsimp only
      split_ifs with hsafe
      · exact .int hvalue hsafe
      · refine .float fun m hm => ?_
        rw [hvalue] at hm
        have heq : n = m := by exact_mod_cast hm
        omega

/-- Read again, a written number is the number itself, except that zero loses its sign. -/
theorem ofJson_numberToJson (hfinite : x.isFinite = true) (next : Nat) :
    (Fresh.ofJson (numberToJson x) next).1 =
      .number (if x = .negZero then .zero else x) := by
  have hwritten := writtenAs_numberToJson hfinite
  generalize numberToJson x = form at hwritten
  cases hwritten with
  | int hvalue hsafe =>
      rw [maxSafeInteger] at hsafe
      exact congrArg number (Binary64.ofInt_of_toRat hvalue (by omega))
  | float hbeyond =>
      have hneg : x ≠ .negZero := by
        rintro rfl
        have hzero : Binary64.negZero.toRat = (0 : Int) := by
          rw [Binary64.toRat, Binary64.magnitude_of_isZero rfl]
          simp
        exact absurd (hbeyond 0 hzero) (by decide)
      rw [if_neg hneg]
      rfl

theorem numberToJson_of_isZero (h : x.isZero = true) :
    numberToJson x = .int 0 := by
  have hfinite : x.isFinite = true := by
    rw [Binary64.isZero, decide_eq_true_iff] at h
    rw [Binary64.isFinite, h]
    rfl
  have hn : x.natAbs? = some 0 := by
    rw [Binary64.natAbs?_eq_some_iff, Binary64.magnitude_of_isZero h, Nat.cast_zero]
  rw [numberToJson_of_integer hfinite hn, if_pos (Nat.zero_le _)]
  split_ifs <;> rfl

/-- The sign of zero makes no difference to how it is written. -/
theorem numberToJson_ite (x : Binary64) :
    numberToJson (if x = .negZero then .zero else x) = numberToJson x := by
  split_ifs with hneg
  · rw [hneg, numberToJson_of_isZero rfl, numberToJson_of_isZero rfl]
  · rfl

end Numbers

end Value

/-! ### Documents -/

/-- A document and the form in which it is written after it has been read as a value. -/
structure Json.Settles (doc form : Json) : Prop where
  normalizes : doc.Normalizes form
  written : ∀ next, (Fresh.ofJson doc next).1.toJson false = some form
  rewritten : ∀ next, (Fresh.ofJson form next).1.toJson false = some form
  sameNodes : ∀ next next',
    (Fresh.ofJson doc next).1.SameNodes (Fresh.ofJson form next').1

namespace Json

section Settles

theorem toJson_number (x : Binary64) :
    (Value.number x).toJson false = some (Value.numberToJson x) := by
  rw [Value.toJson, if_neg (by simp)]

theorem settles_number {doc : Json} {x : Binary64}
    (hrounds : doc.RoundsTo x) (hfinite : x.isFinite = true)
    (hread : ∀ next, (Fresh.ofJson doc next).1 = .number x) :
    doc.Settles (Value.numberToJson x) where
  normalizes := .number hrounds hfinite (Value.writtenAs_numberToJson hfinite)
  written next := by
    rw [hread, toJson_number]
  rewritten next := by
    rw [Value.ofJson_numberToJson hfinite, toJson_number, Value.numberToJson_ite]
  sameNodes next next' := by
    rw [hread, Value.ofJson_numberToJson hfinite]
    exact .number ((Binary64.sameValue_iff _ _).mpr (.inr rfl))

/-- Forms of all members of a list make up a list. -/
theorem exists_forall₂ {α β : Type} {R : α → β → Prop} {l : List α} (h : ∀ a ∈ l, ∃ b, R a b) :
    ∃ l', List.Forall₂ R l l' := by
  induction l with
  | nil =>
      exact ⟨[], .nil⟩
  | cons a rest ih =>
      obtain ⟨ha, hrest⟩ := List.forall_mem_cons.mp h
      obtain ⟨b, hb⟩ := ha
      obtain ⟨l', hl'⟩ := ih hrest
      exact ⟨b :: l', .cons hb hl'⟩

/-- Values that are written as forms, one by one. -/
abbrev AreWritten (values : List Value) (forms : List Json) : Prop :=
  List.Forall₂ (fun value form => value.toJson false = some form) values forms

theorem toJsonItems_of_areWritten {values : List Value} {forms : List Json}
    (h : AreWritten values forms) :
    Value.toJsonItems false values = forms := by
  induction h with
  | nil => rfl
  | cons hvalue hrest ih => rw [Value.toJsonItems, hvalue, ih, Option.getD_some]

theorem toJsonMembers_of_areWritten {values : List Value} {forms : List Json}
    (h : AreWritten values forms) (keys : List String) :
    Value.toJsonMembers false (keys.zip values) = keys.zip forms := by
  induction h generalizing keys with
  | nil =>
      rw [List.zip_nil_right, List.zip_nil_right]
      rfl
  | cons hvalue hrest ih =>
      cases keys with
      | nil =>
          rfl
      | cons key keys =>
          rw [List.zip_cons_cons, Value.toJsonMembers, hvalue, ih, List.zip_cons_cons]

theorem ofJsonItems_cons (item : Json) (rest : List Json) (next : Nat) :
    (Fresh.ofJsonItems (item :: rest) next).1 =
      (Fresh.ofJson item next).1 :: (Fresh.ofJsonItems rest (Fresh.ofJson item next).2).1 := by
  rfl

theorem ofJson_arr (items : List Json) (next : Nat) :
    ∃ id, (Fresh.ofJson (.arr items) next).1 = .array id (Fresh.ofJsonItems items next).1 :=
  ⟨_, rfl⟩

theorem length_ofJsonItems (items : List Json) (next : Nat) :
    (Fresh.ofJsonItems items next).1.length = items.length := by
  induction items generalizing next with
  | nil => rfl
  | cons item rest ih => rw [ofJsonItems_cons, List.length_cons, ih, List.length_cons]

theorem ofJsonMembers_eq (members : List (String × Json)) (next : Nat) :
    (Fresh.ofJsonMembers members next).1 =
      (Keyed.keys members).zip (Fresh.ofJsonItems (members.map Prod.snd) next).1 := by
  induction members generalizing next with
  | nil => rfl
  | cons member rest ih => exact congrArg _ (ih _)

/-- Members with distinct names become properties of these names. -/
theorem ofJson_obj {members : List (String × Json)} (hkeys : (Keyed.keys members).Nodup)
    (next : Nat) :
    ∃ id, (Fresh.ofJson (.obj members) next).1 =
      .object id none
        ((Keyed.keys members).zip (Fresh.ofJsonItems (members.map Prod.snd) next).1) := by
  have hread : ∃ id, (Fresh.ofJson (.obj members) next).1 =
      .object id none (Keyed.ofList (Fresh.ofJsonMembers members next).1) :=
    ⟨_, rfl⟩
  rw [ofJsonMembers_eq, Keyed.ofList_of_nodup] at hread
  · exact hread
  · rw [Keyed.keys_zip]
    · exact hkeys
    · rw [length_ofJsonItems, Keyed.keys, List.length_map, List.length_map]

/-- Items that settle one by one settle as a list. -/
theorem settle_items {items forms : List Json} (h : List.Forall₂ Settles items forms) :
    List.Forall₂ Normalizes items forms ∧
      (∀ next, AreWritten (Fresh.ofJsonItems items next).1 forms) ∧
      (∀ next, AreWritten (Fresh.ofJsonItems forms next).1 forms) ∧
      ∀ next next', List.Forall₂ Value.SameNodes
        (Fresh.ofJsonItems items next).1 (Fresh.ofJsonItems forms next').1 := by
  induction h with
  | nil =>
      exact ⟨.nil, fun _ => .nil, fun _ => .nil, fun _ _ => .nil⟩
  | cons hitem hrest ih =>
      -- The rest is read with other identities, so all that is shown is for any of them.
      obtain ⟨hnormalizes, hwritten, hrewritten, hsame⟩ := ih
      exact ⟨.cons hitem.normalizes hnormalizes,
        fun _ => .cons (hitem.written _) (hwritten _),
        fun _ => .cons (hitem.rewritten _) (hrewritten _),
        fun _ _ => .cons (hitem.sameNodes _ _) (hsame _ _)⟩

theorem settles_arr {items forms : List Json} (h : List.Forall₂ Settles items forms) :
    (Json.arr items).Settles (.arr forms) := by
  obtain ⟨hnormalizes, hwritten, hrewritten, hsame⟩ := settle_items h
  refine ⟨.arr hnormalizes, fun next => ?_, fun next => ?_, fun next next' => ?_⟩
  · obtain ⟨id, hread⟩ := ofJson_arr items next
    rw [hread, Value.toJson_array, toJsonItems_of_areWritten (hwritten next)]
  · obtain ⟨id, hread⟩ := ofJson_arr forms next
    rw [hread, Value.toJson_array, toJsonItems_of_areWritten (hrewritten next)]
  · obtain ⟨id, hread⟩ := ofJson_arr items next
    obtain ⟨id', hread'⟩ := ofJson_arr forms next'
    rw [hread, hread']
    exact .array id id' (hsame next next')

theorem settles_obj {members : List (String × Json)} {forms : List Json}
    (hkeys : (Keyed.keys members).Nodup)
    (h : List.Forall₂ Settles (members.map Prod.snd) forms) :
    (Json.obj members).Settles (.obj ((Keyed.keys members).zip forms)) := by
  obtain ⟨hnormalizes, hwritten, hrewritten, hsame⟩ := settle_items h
  have hlength : (Keyed.keys members).length = forms.length := by
    rw [← h.length_eq, Keyed.keys, List.length_map, List.length_map]
  have hnames : Keyed.keys ((Keyed.keys members).zip forms) = Keyed.keys members :=
    Keyed.keys_zip hlength.le
  have hforms : ((Keyed.keys members).zip forms).map Prod.snd = forms :=
    List.map_snd_zip hlength.ge
  have hkeys' : (Keyed.keys ((Keyed.keys members).zip forms)).Nodup := by rwa [hnames]
  have hread := ofJson_obj hkeys
  have hread' := ofJson_obj hkeys'
  rw [hnames, hforms] at hread'
  refine ⟨.obj hnames ?_, fun next => ?_, fun next => ?_, fun next next' => ?_⟩
  · rwa [hforms]
  · obtain ⟨id, hobject⟩ := hread next
    rw [hobject, Value.toJson_false_object, toJsonMembers_of_areWritten (hwritten next)]
  · obtain ⟨id, hobject⟩ := hread' next
    rw [hobject, Value.toJson_false_object, toJsonMembers_of_areWritten (hrewritten next)]
  · obtain ⟨id, hobject⟩ := hread next
    obtain ⟨id', hobject'⟩ := hread' next'
    have hvalues : (Fresh.ofJsonItems (members.map Prod.snd) next).1.length =
        (Keyed.keys members).length := by
      rw [length_ofJsonItems, Keyed.keys, List.length_map, List.length_map]
    have hvalues' : (Fresh.ofJsonItems forms next').1.length = (Keyed.keys members).length := by
      rw [length_ofJsonItems, hlength]
    rw [hobject, hobject']
    refine .object id id' ?_ ?_
    · rw [Keyed.keys_zip hvalues.ge, Keyed.keys_zip hvalues'.ge]
    · rw [List.map_snd_zip hvalues.le, List.map_snd_zip hvalues'.le]
      exact hsame next next'

/-- Every document settles after it has been read and written once. -/
theorem exists_settles {doc : Json} (h : doc.Held) :
    ∃ form, doc.Settles form := by
  induction h with
  | null =>
      exact ⟨.null, .null, fun _ => rfl, fun _ => rfl, fun _ _ => .null⟩
  | bool b =>
      exact ⟨.bool b, .bool b, fun _ => rfl, fun _ => rfl, fun _ _ => .bool b⟩
  | str text =>
      exact ⟨.str text, .str text, fun _ => rfl, fun _ => rfl, fun _ _ => .string text⟩
  | @int n hlow hhigh =>
      obtain ⟨hfinite, hnearest⟩ := Binary64.isNearest_ofInt (k := n) (by omega)
      have hrounds : (Json.int n).RoundsTo (.ofInt n) :=
        .int hnearest (Binary64.isNegative_ofInt n)
      exact ⟨_, settles_number hrounds hfinite fun _ => rfl⟩
  | float hfinite =>
      exact ⟨_, settles_number (.float _) hfinite fun _ => rfl⟩
  | arr hitems ih =>
      obtain ⟨forms, hforms⟩ := exists_forall₂ ih
      exact ⟨_, settles_arr hforms⟩
  | obj hkeys hmembers ih =>
      obtain ⟨forms, hforms⟩ := exists_forall₂ (List.forall_mem_map.mpr ih)
      exact ⟨_, settles_obj hkeys hforms⟩

/-- A document that is read as a value and written again has changed in its numbers only, each of
which is rounded and written in the one way that there is for it.  Read from this form the value is
the same, except that zeros have lost their sign, and it is written as this form again. -/
theorem normalizes_in_round_trip {doc : Json} (h : doc.Held) (next next' : Nat) :
    ∃ form,
      (Fresh.ofJson doc next).1.toJson false = some form ∧
      doc.Normalizes form ∧
      (Fresh.ofJson doc next).1.SameNodes (Fresh.ofJson form next').1 ∧
      (Fresh.ofJson form next').1.toJson false = some form := by
  obtain ⟨form, hsettles⟩ := exists_settles h
  exact ⟨form, hsettles.written next, hsettles.normalizes, hsettles.sameNodes next next',
    hsettles.rewritten next'⟩

/-- An integer beyond those that are all numbers, and a negative zero. -/
theorem normalizes_in_round_trip_of_large :
    let doc : Json :=
      .obj [("n", .arr [.int 9007199254740993, .float .negZero]), ("t", .str "9007199254740993")]
    doc.Held ∧
      ∃ form,
        (Fresh.ofJson doc 0).1.toJson false = some form ∧ doc.Normalizes form ∧
        (Fresh.ofJson doc 0).1.SameNodes (Fresh.ofJson form 7).1 ∧
        (Fresh.ofJson form 7).1.toJson false = some form := by
  intro doc
  have hheld : doc.Held := by
    refine .obj (by decide) ?_
    simp only [List.forall_mem_cons]
    refine ⟨.arr ?_, .str _, by simp⟩
    simp only [List.forall_mem_cons]
    exact ⟨.int (by decide) (by decide), .float rfl, by simp⟩
  exact ⟨hheld, normalizes_in_round_trip hheld 0 7⟩

example :
    (Fresh.ofJson (.arr [.int 9007199254740993, .float .negZero, .int 7]) 0).1.stringify false =
      "[9007199254740992.0,0,7]" := by
  decide +kernel

end Settles

end Json

end ShapeCheck
