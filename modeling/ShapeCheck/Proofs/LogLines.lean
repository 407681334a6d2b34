import Mathlib.Data.List.Nodup
import Mathlib.Tactic.SplitIfs
import ShapeCheck.Log.Entry
import ShapeCheck.Proofs.Scanning

/-!
# What a log line says

A log line is one line, and a reader of JSON gets back from it all that was logged: the event, the
severity and every field, in the order of keys.

The scanner is followed along the line first, from character to string to member.  The tokens that
it finishes then make up an object with the members that were written.

* `scans_stringText`: a text between quotes is one token, which holds the text.
* `read_line`: what the reader gets from a line.
* `StablySorted.unique`: a list has only one stable order.
* `line_faithful`: lines are free of control characters, read back, and tell entries apart.
-/

namespace ShapeCheck

theorem Event.name_injective : Function.Injective Event.name := by
  intro e e' h
  cases e <;> cases e' <;> first | rfl | exact absurd h (by decide)

theorem Severity.name_injective : Function.Injective Severity.name := by
  intro s t h
  have hparse := parse_name s
  rw [h, parse_name] at hparse
  exact (Option.some.inj hparse).symm

namespace LogEntry

open Json

section Characters

variable {c : Char}

theorem isControl_eq_false_iff :
    isControl c = false ↔ 0x20 ≤ c.toNat ∧ (c.toNat < 0x7f ∨ 0xa0 ≤ c.toNat) := by
  simp only [isControl, Bool.or_eq_false_iff, Bool.and_eq_false_iff, decide_eq_false_iff_not]
  omega

theorem toNat_lt_of_isControl (h : isControl c = true) :
    c.toNat < 0xa0 := by
  simp only [isControl, Bool.or_eq_true, Bool.and_eq_true, decide_eq_true_eq] at h
  omega

end Characters

/-- The three ways in which a character is written: by a letter after a backslash, by its number
when it is any other control character, and as it stands. -/
theorem escapedChar_cases (c : Char) :
    (∃ letter, letter ≠ 'u' ∧ isControl letter = false ∧ shortEscape? letter = some c ∧
        escapedChar c = ['\\', letter]) ∨
      (isControl c = true ∧ escapedChar c = '\\' :: 'u' :: Text.hexQuad c.toNat) ∨
      (c ≠ '"' ∧ c ≠ '\\' ∧ isControl c = false ∧ escapedChar c = [c]) := by
  unfold escapedChar
  split_ifs with hquote hbackslash hline hreturn htab hcontrol
  · exact .inl ⟨'"', by decide, by decide, by subst hquote; rfl, rfl⟩
  · exact .inl ⟨'\\', by decide, by decide, by subst hbackslash; rfl, rfl⟩
  · exact .inl ⟨'n', by decide, by decide, by subst hline; rfl, rfl⟩
  · exact .inl ⟨'r', by decide, by decide, by subst hreturn; rfl, rfl⟩
  · exact .inl ⟨'t', by decide, by decide, by subst htab; rfl, rfl⟩
  · exact .inr (.inl ⟨hcontrol, rfl⟩)
  · exact .inr (.inr ⟨hquote, hbackslash, Bool.not_eq_true _ ▸ hcontrol, rfl⟩)

section Strings

/-- The string at hand after the given characters, the last one first; none of them is half of a
pair. -/
def partialString (reversed : List Char) : PartialString :=
  ⟨reversed, none, true⟩

theorem pushUnit_partialString {c : Char} (hc : c.toNat < 0xd800) (reversed : List Char) :
    (partialString reversed).pushUnit c.toNat = partialString (c :: reversed) := by
  have hhigh : ¬ (0xd800 ≤ c.toNat ∧ c.toNat < 0xdc00) := by omega
  have hlow : ¬ (0xdc00 ≤ c.toNat ∧ c.toNat < 0xe000) := by omega
  rw [PartialString.pushUnit, if_neg hhigh, if_neg hlow, Char.ofNat_toNat]
  rfl

/-- An escape of two characters. -/
theorem scans_shortEscape {c d : Char} (hu : c ≠ 'u') (hc : shortEscape? c = some d)
    (reversed : List Char) :
    Scans ['\\', c] [] (.string (partialString reversed))
      (.string (partialString (d :: reversed))) := by
  have hescape :
      read? (.escape (partialString reversed)) c =
        some ([], .string (partialString (d :: reversed))) := by
    rw [read?, if_neg hu, hc]
    rfl
  exact Scans.skip rfl (Scans.single hescape)

/-- Whatever a character is, reading how it is written gives it back. -/
theorem scans_escapedChar (c : Char) (reversed : List Char) :
    Scans (escapedChar c) [] (.string (partialString reversed))
      (.string (partialString (c :: reversed))) := by
  rcases escapedChar_cases c with
    ⟨letter, hu, -, hletter, heq⟩ | ⟨hcontrol, heq⟩ | ⟨hquote, hbackslash, hplain, heq⟩
  · rw [heq]
    exact scans_shortEscape hu hletter reversed
  · have hlow : c.toNat < 0xa0 := toNat_lt_of_isControl hcontrol
    have hdigits := scans_hexQuad (partialString reversed) (n := c.toNat) (by omega)
    rw [pushUnit_partialString (by omega)] at hdigits
    rw [heq]
    exact Scans.skip rfl (Scans.skip rfl hdigits)
  · have hread :
        read? (.string (partialString reversed)) c =
          some ([], .string (partialString (c :: reversed))) := by
      have hhigh : ¬ c.toNat < 0x20 := Nat.not_lt.mpr (isControl_eq_false_iff.mp hplain).1
      rw [read?, if_neg hquote, if_neg hbackslash, if_neg hhigh]
      rfl
    rw [heq]
    exact Scans.single hread

/-- Text between quotes reads back. -/
theorem scans_flatMap_escapedChar (text reversed : List Char) :
    Scans (text.flatMap escapedChar) [] (.string (partialString reversed))
      (.string (partialString (text.reverse ++ reversed))) := by
  induction text generalizing reversed with
  | nil =>
      exact Scans.nil _
  | cons c rest ih =>
      rw [List.flatMap_cons, List.reverse_cons, List.append_assoc]
      exact (scans_escapedChar c reversed).append (ih (c :: reversed))

/-- A text between quotes is one token, which holds the text. -/
theorem scans_stringText (text : String) :
    Scans (stringText text) [.str (some text)] .nothing .nothing := by
  have hquote :
      read? (.string (partialString (text.toList.reverse ++ []))) '"' =
        some ([.str (some text)], .nothing) := by
    simp [read?, partialString, PartialString.text?]
  exact
    Scans.skip rfl
      ((scans_flatMap_escapedChar text.toList []).append (Scans.single hquote))

end Strings

section Members

/-- The tokens of one member. -/
def memberTokens (field : String × String) : List Token :=
  [.str (some field.1), .colon, .str (some field.2)]

/-- A member as the reader sees it. -/
def writtenField (field : String × String) : Option String × Written :=
  (some field.1, .str (some field.2))

theorem scans_memberText (field : String × String) :
    Scans (memberText field) (memberTokens field) .nothing .nothing := by
  have hcolon : Scans [':'] [.colon] .nothing .nothing := Scans.single rfl
  exact (scans_stringText field.1).append (hcolon.append (scans_stringText field.2))

theorem scans_intercalate_memberText (fields : List (String × String)) :
    Scans (List.intercalate [','] (fields.map memberText))
      (List.intercalate [.comma] (fields.map memberTokens)) .nothing .nothing := by
  induction fields with
  | nil =>
      exact Scans.nil _
  | cons first rest ih =>
      cases rest with
      | nil =>
          simpa using scans_memberText first
      | cons second rest =>
          rw [List.map_cons, List.map_cons, List.map_cons, List.map_cons,
            List.intercalate_cons_cons, List.intercalate_cons_cons]
          exact ((scans_memberText first).append (Scans.single rfl)).append ih

/-- Where a key is due, the reader takes a whole member. -/
theorem foldlM_memberTokens
    {due : Due} (hdue : due = .firstKey ∨ due = .key) (field : String × String)
    (reversed : List (Option String × Written)) (frames : List Frame) :
    (memberTokens field).foldlM Reading.step? ⟨.members reversed :: frames, due⟩ =
      some ⟨.members (writtenField field :: reversed) :: frames, .separator⟩ := by
  obtain rfl | rfl := hdue <;> rfl

/-- It goes on from member to member. -/
theorem foldlM_intercalate_memberTokens
    (first : String × String) (rest : List (String × String))
    {due : Due} (hdue : due = .firstKey ∨ due = .key)
    (reversed : List (Option String × Written)) (frames : List Frame) :
    (List.intercalate [.comma] ((first :: rest).map memberTokens)).foldlM Reading.step?
        ⟨.members reversed :: frames, due⟩ =
      some ⟨.members (((first :: rest).map writtenField).reverse ++ reversed) :: frames,
        .separator⟩ := by
  induction rest generalizing first due reversed with
  | nil =>
      simpa using foldlM_memberTokens hdue first reversed frames
  | cons second rest ih =>
      have hcomma :
          [Token.comma].foldlM Reading.step?
              ⟨.members (writtenField first :: reversed) :: frames, .separator⟩ =
            some ⟨.members (writtenField first :: reversed) :: frames, .key⟩ := rfl
      have hrest := ih second (.inr rfl) (writtenField first :: reversed)
      rw [List.map_cons] at hrest
      rw [List.map_cons, List.map_cons, List.intercalate_cons_cons, List.append_assoc,
        foldlM_append_of_eq_some (foldlM_memberTokens hdue first reversed frames),
        foldlM_append_of_eq_some hcomma, hrest]
      simp

end Members

section Lines

/-- The tokens of a line. -/
def lineTokens (entry : LogEntry) : List Token :=
  .openObject :: (List.intercalate [.comma] (entry.members.map memberTokens) ++ [.closeObject])

theorem scans_line (entry : LogEntry) :
    Scans (entry.chars ++ ['\n']) entry.lineTokens .nothing .nothing := by
  have hopen : Scans ['\x7b'] [.openObject] .nothing .nothing := Scans.single rfl
  have hclose : Scans ['\x7d'] [.closeObject] .nothing .nothing := Scans.single rfl
  have hgap : Scans ['\n'] [] .nothing .nothing := Scans.single rfl
  have hmembers := scans_intercalate_memberText entry.members
  simpa [chars, lineTokens] using hopen.append (hmembers.append (hclose.append hgap))

/-- The tokens of a line make up one object. -/
theorem foldlM_lineTokens (entry : LogEntry) :
    entry.lineTokens.foldlM Reading.step? ⟨[], .value⟩ =
      some ⟨[], .nothing (.obj (entry.members.map writtenField))⟩ := by
  have hopen :
      [Token.openObject].foldlM Reading.step? ⟨[], .value⟩ =
        some ⟨[.members []], .firstKey⟩ := rfl
  have hmembers :
      (List.intercalate [.comma] (entry.members.map memberTokens)).foldlM Reading.step?
          ⟨[.members []], .firstKey⟩ =
        some ⟨[.members ((entry.members.map writtenField).reverse ++ [])], .separator⟩ :=
    foldlM_intercalate_memberTokens _ _ (.inl rfl) [] []
  have hclose (reversed : List (Option String × Written)) :
      [Token.closeObject].foldlM Reading.step? ⟨[.members reversed], .separator⟩ =
        some ⟨[], .nothing (.obj reversed.reverse)⟩ := rfl
  rw [lineTokens, ← List.singleton_append, foldlM_append_of_eq_some hopen,
    foldlM_append_of_eq_some hmembers, List.append_nil, hclose, List.reverse_reverse]

/-- What the reader gets from a line: an object with the members in the order in which they are
written. -/
theorem read_line (entry : LogEntry) :
    Json.read entry.line = some (.obj (entry.members.map writtenField)) := by
  rw [Json.read, line, String.toList_ofList, (scans_line entry).tokens?_eq, Option.bind_eq_bind,
    Option.bind_some, foldlM_lineTokens]
  rfl

end Lines

section ControlCharacters

theorem isControl_hexDigit {n : Nat} (h : n < 16) :
    isControl (Text.hexDigit n) = false := by
  have : ∀ m : Fin 16, isControl (Text.hexDigit m.val) = false := by decide
  exact this ⟨n, h⟩

/-- A character is written without control characters, whatever it is. -/
theorem isControl_of_mem_escapedChar (c : Char) :
    ∀ d ∈ escapedChar c, isControl d = false := by
  rcases escapedChar_cases c with
    ⟨letter, -, hletter, -, heq⟩ | ⟨-, heq⟩ | ⟨-, -, hplain, heq⟩
  · rw [heq]
    simpa using ⟨by decide, hletter⟩
  · have hdigit (m : Nat) : isControl (Text.hexDigit (m % 16)) = false :=
      isControl_hexDigit (Nat.mod_lt m (by decide))
    rw [heq]
    simp only [Text.hexQuad, List.forall_mem_cons]
    exact ⟨by decide, by decide, hdigit _, hdigit _, hdigit _, hdigit _, by simp⟩
  · rw [heq]
    simpa using hplain

theorem isControl_of_mem_stringText (text : String) :
    ∀ d ∈ stringText text, isControl d = false := by
  have hquote : isControl '"' = false := by decide
  simp only [stringText, List.forall_mem_cons, List.forall_mem_append, List.mem_flatMap]
  refine ⟨hquote, ?_, hquote, by simp⟩
  rintro d ⟨c, -, hd⟩
  exact isControl_of_mem_escapedChar c d hd

theorem isControl_of_mem_memberText (field : String × String) :
    ∀ d ∈ memberText field, isControl d = false := by
  simp only [memberText, List.forall_mem_append, List.forall_mem_cons]
  exact ⟨isControl_of_mem_stringText _, by decide, isControl_of_mem_stringText _⟩

theorem isControl_of_mem_intercalate_memberText (fields : List (String × String)) :
    ∀ d ∈ List.intercalate [','] (fields.map memberText), isControl d = false := by
  induction fields with
  | nil =>
      simp
  | cons first rest ih =>
      cases rest with
      | nil =>
          simpa using isControl_of_mem_memberText first
      | cons second rest =>
          rw [List.map_cons, List.map_cons, List.intercalate_cons_cons]
          simp only [List.forall_mem_append, List.forall_mem_cons]
          exact ⟨⟨isControl_of_mem_memberText first, by decide, by simp⟩, ih⟩

/-- The only control character of a line is the line break at its end. -/
theorem isControl_of_mem_chars (entry : LogEntry) :
    ∀ d ∈ entry.chars, isControl d = false := by
  simp only [chars, List.forall_mem_cons, List.forall_mem_append]
  exact ⟨by decide, isControl_of_mem_intercalate_memberText _, by decide, by simp⟩

end ControlCharacters

section StableOrder

variable {fields sorted other : List (String × String)}

/-- The second list holds the fields in ascending order of keys, and those with one key in the order
that they have. -/
structure StablySorted (fields sorted : List (String × String)) : Prop where
  perm : sorted.Perm fields
  ascending : sorted.Pairwise fun a b => a.1 ≤ b.1
  stable : ∀ key, sorted.filter (·.1 = key) = fields.filter (·.1 = key)

/-- The first of an ascending list has the least key. -/
theorem key_le_of_mem
    {a b : String × String} (h : (a :: sorted).Pairwise fun a b => a.1 ≤ b.1)
    (hb : b ∈ a :: sorted) :
    a.1 ≤ b.1 := by
  obtain rfl | hb := List.mem_cons.mp hb
  · exact String.le_refl _
  · exact List.rel_of_pairwise_cons h hb

/-- Ascending lists are equal when they have the same fields, in the same order, under each key. -/
theorem eq_of_ascending
    (hsorted : sorted.Pairwise fun a b => a.1 ≤ b.1)
    (hother : other.Pairwise fun a b => a.1 ≤ b.1)
    (h : ∀ key, sorted.filter (·.1 = key) = other.filter (·.1 = key)) :
    sorted = other := by
  induction sorted generalizing other with
  | nil =>
      cases other with
      | nil => rfl
      | cons b rest => simpa using h b.1
  | cons a rest ih =>
      cases other with
      | nil => simpa using h a.1
      | cons b rest' =>
          have hb : b ∈ a :: rest := by
            have hmem : b ∈ (b :: rest').filter (·.1 = b.1) := by simp
            rw [← h b.1] at hmem
            exact (List.mem_filter.mp hmem).1
          have ha : a ∈ b :: rest' := by
            have hmem : a ∈ (a :: rest).filter (·.1 = a.1) := by simp
            rw [h a.1] at hmem
            exact (List.mem_filter.mp hmem).1
          have hkey : a.1 = b.1 :=
            String.le_antisymm (key_le_of_mem hsorted hb) (key_le_of_mem hother ha)
          -- The least key is that of both heads, so each is the first field under it.
          obtain rfl : a = b := by
            have hheads := h a.1
            simp only [List.filter_cons, hkey, decide_true, if_true] at hheads
            exact (List.cons.inj hheads).1
          have hrest : ∀ key, rest.filter (·.1 = key) = rest'.filter (·.1 = key) := by
            intro key
            have hkeys := h key
            simp only [List.filter_cons] at hkeys
            split at hkeys
            · exact (List.cons.inj hkeys).2
            · exact hkeys
          rw [ih hsorted.of_cons hother.of_cons hrest]

/-- A list of fields has only one stable order. -/
theorem StablySorted.unique
    (h : StablySorted fields sorted) (h' : StablySorted fields other) :
    sorted = other :=
  eq_of_ascending h.ascending h'.ascending fun key => (h.stable key).trans (h'.stable key).symm

theorem key_le_trans (a b c : String × String)
    (hab : decide (a.1 ≤ b.1) = true) (hbc : decide (b.1 ≤ c.1) = true) :
    decide (a.1 ≤ c.1) = true :=
  decide_eq_true (String.le_trans (of_decide_eq_true hab) (of_decide_eq_true hbc))

theorem key_le_total (a b : String × String) :
    (decide (a.1 ≤ b.1) || decide (b.1 ≤ a.1)) = true := by
  simpa using String.le_total a.1 b.1

/-- Fields that are put in another order by a stable sort keep their order under each key. -/
theorem filter_key_mergeSort (fields : List (String × String)) (key : String) :
    (fields.mergeSort fun a b => a.1 ≤ b.1).filter (·.1 = key) = fields.filter (·.1 = key) := by
  have hascending :
      (fields.filter (·.1 = key)).Pairwise fun a b => decide (a.1 ≤ b.1) = true := by
    refine List.pairwise_filter.mpr (List.pairwise_of_forall fun a b ha hb => ?_)
    have hkeys : a.1 = b.1 := (of_decide_eq_true ha).trans (of_decide_eq_true hb).symm
    exact decide_eq_true (hkeys ▸ String.le_refl _)
  have hsublist :=
    (List.sublist_mergeSort key_le_trans key_le_total hascending List.filter_sublist).filter
      (·.1 = key)
  rw [List.filter_filter] at hsublist
  simp only [Bool.and_self] at hsublist
  have hperm := (List.mergeSort_perm fields fun a b => a.1 ≤ b.1).filter (·.1 = key)
  exact (hsublist.eq_of_length hperm.length_eq.symm).symm

/-- The fields of an entry are written in their stable order. -/
theorem stablySorted_sortedFields (entry : LogEntry) :
    StablySorted entry.fields entry.sortedFields where
  perm := List.mergeSort_perm _ _
  ascending :=
    (List.pairwise_mergeSort key_le_trans key_le_total entry.fields).imp of_decide_eq_true
  stable := filter_key_mergeSort entry.fields

/-- Fields with keys of their own are written in one order, however they are given. -/
theorem sortedFields_eq_of_perm
    {entry entry' : LogEntry} (hperm : entry.fields.Perm entry'.fields)
    (hkeys : (entry.fields.map Prod.fst).Nodup) :
    entry.sortedFields = entry'.sortedFields := by
  have h := stablySorted_sortedFields entry
  have h' := stablySorted_sortedFields entry'
  refine
    List.Perm.eq_of_pairwise ?_ h.ascending h'.ascending
      (h.perm.trans (hperm.trans h'.perm.symm))
  intro a b ha hb hab hba
  exact
    List.inj_on_of_nodup_map hkeys (h.perm.subset ha)
      (hperm.symm.subset (h'.perm.subset hb)) (String.le_antisymm hab hba)

end StableOrder

theorem writtenField_injective : Function.Injective writtenField := by
  intro field field' h
  simp only [writtenField, Prod.mk.injEq, Option.some.injEq, Written.str.injEq] at h
  exact Prod.ext h.1 h.2

/-- A line tells all its members. -/
theorem line_inj {entry entry' : LogEntry} :
    entry.line = entry'.line ↔ entry.members = entry'.members := by
  constructor
  · intro h
    have hread := read_line entry'
    rw [← h, read_line, Option.some.injEq, Written.obj.injEq] at hread
    exact List.map_injective_iff.mpr writtenField_injective hread
  · intro h
    rw [line, line, chars, chars, h]

theorem members_inj {entry entry' : LogEntry} :
    entry.members = entry'.members ↔
      entry.event = entry'.event ∧ entry.severity = entry'.severity ∧
        entry.sortedFields = entry'.sortedFields := by
  simp [members, Event.name_injective.eq_iff, Severity.name_injective.eq_iff]

/-- Log lines are faithful.

* A line has no control character but the line break at its end.
* A reader of JSON gets the event, the severity and then exactly the fields from it, in their stable
  order; so nothing in a field can forge or hide another one.
* Two entries have one line if and only if they have the event, the severity and the fields in
  stable order in common.
* Fields with keys of their own make one line, in whatever order they are given. -/
theorem line_faithful :
    (∀ entry : LogEntry,
      ∃ body, entry.line.toList = body ++ ['\n'] ∧
        ∀ c ∈ body, ¬ c.toNat ≤ 0x1f ∧ ¬ (0x7f ≤ c.toNat ∧ c.toNat ≤ 0x9f)) ∧
    (∀ entry : LogEntry,
      ∃ sorted, StablySorted entry.fields sorted ∧
        Json.read entry.line =
          some (.obj
            ((("event", entry.event.name) :: ("severity", entry.severity.name) :: sorted).map
              writtenField))) ∧
    (∀ (entry entry' : LogEntry) (sorted sorted' : List (String × String)),
      StablySorted entry.fields sorted → StablySorted entry'.fields sorted' →
        (entry.line = entry'.line ↔
          entry.event = entry'.event ∧ entry.severity = entry'.severity ∧ sorted = sorted')) ∧
    ∀ (severity : Severity) (event : Event) (fields fields' : List (String × String)),
      (fields.map Prod.fst).Nodup → fields.Perm fields' →
        line ⟨severity, event, fields⟩ = line ⟨severity, event, fields'⟩ := by
  refine ⟨fun entry => ?_, fun entry => ?_, fun entry entry' sorted sorted' h h' => ?_,
    fun severity event fields fields' hkeys hperm => ?_⟩
  · refine ⟨entry.chars, String.toList_ofList, fun c hc => ?_⟩
    have hplain := isControl_eq_false_iff.mp (isControl_of_mem_chars entry c hc)
    omega
  · exact ⟨entry.sortedFields, stablySorted_sortedFields entry, read_line entry⟩
  · rw [line_inj, members_inj, h.unique (stablySorted_sortedFields entry),
      h'.unique (stablySorted_sortedFields entry')]
  · exact line_inj.mpr (members_inj.mpr ⟨rfl, rfl, sortedFields_eq_of_perm hperm hkeys⟩)

/-- A value that looks like a further member does not pass for one, and of two fields either may be
given first. -/
theorem line_faithful_of_forged_member :
    let forged := ("name", "a\",\"name\":\"b")
    let hidden := ("\\u0000", "\x00\x7f\n")
    line ⟨.warn, .typeSpecInvalid, [forged, hidden]⟩ =
        line ⟨.warn, .typeSpecInvalid, [hidden, forged]⟩ ∧
      line ⟨.warn, .typeSpecInvalid, [hidden, forged]⟩ ≠
        line ⟨.warn, .typeSpecInvalid, [hidden, ("name", "a"), ("name", "b")]⟩ := by
  intro forged hidden
  have hsorted : StablySorted [hidden, forged] [hidden, forged] :=
    ⟨.refl _, by decide, fun _ => rfl⟩
  have hplain :
      StablySorted [hidden, ("name", "a"), ("name", "b")]
        [hidden, ("name", "a"), ("name", "b")] :=
    ⟨.refl _, by decide, fun _ => rfl⟩
  obtain ⟨-, -, hline, hperm⟩ := line_faithful
  refine ⟨hperm _ _ _ _ (by decide) (.swap _ _ _), fun h => ?_⟩
  have hfields := ((hline _ _ _ _ hsorted hplain).mp h).2.2
  exact absurd hfields (by decide)

end LogEntry
end ShapeCheck
