import ShapeCheck.Proofs.Locality
import ShapeCheck.Proofs.Magnitude

/-!
# Values that cannot be told apart

What the comparison of values amounts to, and that checkers respect it.  A reference stands for its
contents, so two values that compare alike are equal, or both are words without a number; and such
words look alike to every rule of the library's.

* `Value.sameValue_iff_badge`: to compare two values is to compare what each is known by.
* `Slot.invoke_inside_of_indistinct`: a tree answers alike on values that cannot be told apart.
* `Batch.sameValue_congruence`: the comparison is an equivalence that batches respect.
-/

namespace ShapeCheck

namespace Value

/-! ### The comparison -/

/-- What a value is known by: a reference by its identity, and a word without a number by one that
stands for all of them. -/
inductive Badge where
  | undefined
  | null
  | bool (b : Bool)
  | number (x : Binary64)
  | bigint (n : Int)
  | string (text : String)
  | symbol (id : Identity)
  | array (id : Identity)
  | object (id : Identity)
  | function (id : Identity)
  | date (id : Identity)
  | regexp (id : Identity)

def badge : Value → Badge
  | undefined => .undefined
  | null => .null
  | bool b => .bool b
  | number x => .number (if x.isNaN then .nan else x)
  | bigint n => .bigint n
  | string text => .string text
  | symbol id _ => .symbol id
  | array id _ => .array id
  | object id _ _ => .object id
  | function id _ => .function id
  | date id _ => .date id
  | regexp id _ => .regexp id

theorem number_sameValue_iff (x y : Binary64) :
    x.sameValue y = true ↔
      (if x.isNaN then Binary64.nan else x) = if y.isNaN then Binary64.nan else y := by
  have hnan : Binary64.nan.isNaN = true := by decide
  rw [Binary64.sameValue_iff]
  constructor
  · rintro (⟨hx, hy⟩ | rfl)
    · rw [if_pos hx, if_pos hy]
    · rfl
  · intro h
    split at h <;> split at h
    case isTrue.isTrue hx hy => exact .inl ⟨hx, hy⟩
    case isTrue.isFalse hx hy => exact absurd (h ▸ hnan) hy
    case isFalse.isTrue hx hy => exact absurd (h ▸ hnan) hx
    case isFalse.isFalse => exact .inr h

/-- To compare two values is to compare what each is known by. -/
theorem sameValue_iff_badge (v w : Value) :
    v.sameValue w = true ↔ v.badge = w.badge := by
  cases v <;> cases w <;> simp [sameValue, badge, number_sameValue_iff]

theorem sameValue_symm {v w : Value} (h : v.sameValue w = true) :
    w.sameValue v = true := by
  rw [sameValue_iff_badge] at h ⊢
  exact h.symm

theorem sameValue_trans {u v w : Value}
    (h : u.sameValue v = true) (h' : v.sameValue w = true) :
    u.sameValue w = true := by
  rw [sameValue_iff_badge] at h h' ⊢
  exact h.trans h'

/-- What one of two such values compares alike with, the other one does too. -/
theorem sameValue_congr {v w : Value} (h : v.sameValue w = true) (u : Value) :
    w.sameValue u = v.sameValue u :=
  Bool.eq_iff_iff.mpr ⟨sameValue_trans h, sameValue_trans (sameValue_symm h)⟩

/-- The identity of a reference. -/
def identity? : Value → Option Identity
  | symbol id _ | array id _ | object id _ _ | function id _ | date id _ | regexp id _ => some id
  | undefined | null | bool _ | number _ | bigint _ | string _ => none

/-- Two values are equal, or both are words without a number. -/
inductive Indistinct : Value → Value → Prop
  | refl (v : Value) :
      Indistinct v v
  | nan {x y : Binary64} (hx : x.isNaN = true) (hy : y.isNaN = true) :
      Indistinct (number x) (number y)

/-- Values that compare alike are indistinct, once a reference stands for its contents. -/
theorem indistinct_of_sameValue
    {v w : Value} (h : v.sameValue w = true)
    (hshared : ∀ id, v.identity? = some id → w.identity? = some id → v = w) :
    v.Indistinct w := by
  fun_cases sameValue v w
  case case1 | case2 =>
    exact .refl _
  case case3 | case5 | case6 =>
    obtain rfl := eq_of_beq h
    exact .refl _
  case case4 x y =>
    obtain ⟨hx, hy⟩ | rfl := (Binary64.sameValue_iff x y).mp h
    · exact .nan hx hy
    · exact .refl _
  case case7 | case8 | case9 | case10 | case11 | case12 =>
    obtain rfl := eq_of_beq h
    rw [hshared _ rfl rfl]
    exact .refl _
  case case13 =>
    simp_all [sameValue]

end Value

namespace Value

/-! ### Words without a number in messages -/

variable {x y : Binary64}

@[simp] theorem propType_number (x : Binary64) :
    (number x).propType = .number := by
  have hname : (Tag.number.name == Tag.symbol.name) = false := by decide
  simp [propType, typeOf, isSymbol, isMarkedSymbol, property?, hname]

@[simp] theorem preciseType_number (x : Binary64) :
    (number x).preciseType = .number :=
  propType_number x

theorem display_of_isNaN (hx : x.isNaN = true) :
    (number x).display = "NaN" := by
  rw [display, Binary64.display, if_pos hx]

theorem sameValue_of_isNaN (hx : x.isNaN = true) (hy : y.isNaN = true) :
    (number x).sameValue (number y) = true :=
  (Binary64.sameValue_iff x y).mpr (.inl ⟨hx, hy⟩)

end Value

namespace Rule

variable {q : Query} {container : Value} {x y : Binary64}

/-- To a rule of the library's one word without a number is like another; only a choice of checkers
asks on about it. -/
theorem test_inside_of_isNaN
    (hx : x.isNaN = true) (hy : y.isNaN = true)
    (hvalue : q.value = .number x) (hvalue' : container.property q.name = .number y)
    {rule : Rule} {required : Bool}
    (hrule : (Slot.checker rule required).isNoRule = true)
    (hslots : ∀ child ∈ rule.slots,
      child.invoke .standard (q.forward.inside container) = child.invoke .standard q.forward) :
    rule.test .standard (q.inside container) = rule.test .standard q := by
  cases rule with
  | inert | any =>
      rfl
  | primitive type =>
      simp [test_eq_testPrimitive, testPrimitive, Wording.wrongType, hvalue, hvalue']
  | instanceOf cls =>
      simp [test_eq_testInstanceOf, testInstanceOf, Wording.notAnInstance, hvalue, hvalue',
        Value.isInstanceOf, Value.isClassed, Value.className]
  | oneOf allowed =>
      have hsame : (Value.number y).sameValue = (Value.number x).sameValue :=
        funext (Value.sameValue_congr (Value.sameValue_of_isNaN hx hy))
      simp [test_eq_testOneOf, testOneOf, Wording.notAllowed, hvalue, hvalue', hsame,
        Value.display_of_isNaN hx, Value.display_of_isNaN hy]
  | arrayOf item =>
      simp [test_arrayOf, Wording.notAnArray, Wording.invalidNotation, hvalue, hvalue',
        Value.items?]
  | objectOf item =>
      simp [test_objectOf, Wording.notAMap, Wording.invalidNotation, hvalue, hvalue']
  | oneOfType alternatives =>
      rw [test_eq_testOneOfType]
      exact testAlternatives_inside (List.forall_mem_map.mpr hslots) 0 []
  | shape fields =>
      simp [test_shape, Wording.notAnObject, hvalue, hvalue']
  | exact fields =>
      simp [test_exact, Wording.notAnObject, hvalue, hvalue']
  | custom label test =>
      cases hrule

end Rule

namespace Slot

/-- A tree without rules of the user's answers alike on any two words without a number. -/
theorem invoke_inside_of_isNaN
    {s : Slot} (hfree : s.isRuleFree = true)
    {x y : Binary64} (hx : x.isNaN = true) (hy : y.isNaN = true)
    (call : Call) (container : Value)
    (hvalue : call.query.value = .number x)
    (hvalue' : container.property call.name = .number y) :
    s.invoke .standard (call.inside container) = s.invoke .standard call := by
  induction s using Slot.induction generalizing call with
  | checker rule required ih =>
      obtain ⟨hrule, hchildren⟩ := every_checker hfree
      have hpresent : call.query.value.isNullish = false := by
        rw [hvalue]
        rfl
      have hpresent' : (container.property call.name).isNullish = false := by
        rw [hvalue']
        rfl
      have hslots : ∀ child ∈ rule.slots,
          child.invoke .standard (call.query.forward.inside container) =
            child.invoke .standard call.query.forward :=
        fun child hchild =>
          ih child hchild (hchildren child hchild) call.query.forward hvalue hvalue'
      apply invoke_checker_inside
      · exact Value.isNullish_of_property hpresent
      · exact Value.isNullish_of_property hpresent'
      · rw [hpresent, hpresent']
      · intro habsent
        rw [hpresent] at habsent
        cases habsent
      · intro _
        exact Rule.test_inside_of_isNaN hx hy hvalue hvalue' hrule hslots
  | factory f =>
      rfl
  | list items =>
      rfl
  | value v =>
      rfl

/-- A tree without rules of the user's answers alike on values that cannot be told apart. -/
theorem invoke_inside_of_indistinct
    {s : Slot} (hfree : s.isRuleFree = true) {call : Call} {container : Value}
    (hprops : call.props.isNullish = false) (hcontainer : container.isNullish = false)
    (h : call.query.value.Indistinct (container.property call.name)) :
    s.invoke .standard (call.inside container) = s.invoke .standard call := by
  generalize hvalue : call.query.value = v at h
  generalize hvalue' : container.property call.name = w at h
  cases h with
  | refl v => exact invoke_inside hfree call container hprops hcontainer (hvalue'.trans hvalue.symm)
  | nan hx hy => exact invoke_inside_of_isNaN hfree hx hy call container hvalue hvalue'

end Slot

namespace Value

/-! ### Replacing a value -/

/-- The container with another value under a key, as a container of its own.  An object takes it
under the key and an array at the index that the key stands for; nothing else has properties. -/
def replaced (v : Value) (id : Identity) (key : String) (w : Value) : Value :=
  match v with
  | object _ cls entries => object id cls (Keyed.insert entries key w)
  | array _ items =>
      match arrayIndex? key with
      | some index => array id (items.set index w)
      | none => array id items
  | v => v

section Replaced

variable (v : Value) (id : Identity) (key : String) (w : Value)

@[simp] theorem isNullish_replaced :
    (v.replaced id key w).isNullish = v.isNullish := by
  cases v with
  | array _ items =>
      rw [replaced]
      split <;> rfl
  | _ => rfl

/-- A replaced value is read only where the one before it was; two keys of an array may stand for
one index. -/
theorem property_replaced (other : String) :
    (v.replaced id key w).property other = v.property other ∨
      ((v.replaced id key w).property other = w ∧ v.property other = v.property key) := by
  cases v with
  | object id' cls entries =>
      by_cases hkey : other = key
      · subst hkey
        exact .inr ⟨by simp [replaced, Keyed.get?_insert], rfl⟩
      · exact .inl (by simp [replaced, Keyed.get?_insert, hkey])
  | array id' items =>
      rw [replaced]
      cases hindex : arrayIndex? key with
      | none => exact .inl rfl
      | some index =>
          cases hother : arrayIndex? other with
          | none => exact .inl (by simp [property, property?, hother])
          | some index' =>
              have hread (id : Identity) (items : List Value) :
                  (array id items).property other = items[index']?.getD undefined := by
                rw [property, property?, hother, Option.bind_some]
              rw [hread, hread]
              obtain hne | rfl := ne_or_eq index index'
              · exact .inl (by rw [List.getElem?_set_ne hne])
              · by_cases hlt : index < items.length
                · refine .inr ⟨by rw [List.getElem?_set_self hlt]; rfl, ?_⟩
                  rw [property, property?, hindex, Option.bind_some]
                · exact .inl (by rw [List.set_eq_of_length_le (Nat.not_lt.mp hlt)])
  | _ => exact .inl rfl

end Replaced

/-- A container with an indistinct value in place of another one reads alike under every key. -/
theorem indistinct_property_replaced
    {v w : Value} {key : String} (h : (v.property key).Indistinct w)
    (id : Identity) (other : String) :
    (v.property other).Indistinct ((v.replaced id key w).property other) := by
  rcases property_replaced v id key w other with hsame | ⟨hnew, hold⟩
  · rw [hsame]
    exact .refl _
  · rw [hnew, hold]
    exact h

end Value

namespace Batch

/-- Batches over two containers that read alike under the names of the entries report and log the
same. -/
theorem run_congr_of_indistinct
    {values values' : Value} {location : String} {component : Option String}
    {specs : List (String × Slot)} (hfree : ∀ entry ∈ specs, entry.2.isRuleFree = true)
    (hvalues : values.isNullish = false) (hvalues' : values'.isNullish = false)
    (hreads : ∀ entry ∈ specs,
      (values.property entry.1).Indistinct (values'.property entry.1)) :
    run specs ⟨values', location, component⟩ = run specs ⟨values, location, component⟩ := by
  refine run_of_invoke_eq (by rfl) (by rfl) fun entry hentry => ?_
  let call := Subject.call ⟨values, location, component⟩ entry.1
  have hprops : call.props.isNullish = false := hvalues
  have hread : call.query.value.Indistinct (values'.property call.name) := hreads entry hentry
  exact Slot.invoke_inside_of_indistinct (hfree entry hentry) hprops hvalues' hread

/-- The comparison of values is an equivalence, and batches of trees without rules of the user's
respect it: a value may be replaced by one that compares alike, messages and log included, as long
as references with one identity have the same contents.  All words without a number compare alike;
other numbers compare by value and sign, so the two zeros differ, and a choice can tell them
apart. -/
theorem sameValue_congruence :
    (Equivalence fun v w : Value => v.sameValue w = true) ∧
    (∀ (specs : List (String × Slot)) (values w : Value) (name : String) (id : Identity)
      (location : String) (component : Option String),
      (∀ entry ∈ specs, entry.2.isRuleFree = true) →
      (values.property name).sameValue w = true →
      (∀ id, (values.property name).identity? = some id → w.identity? = some id →
        values.property name = w) →
      run specs ⟨values.replaced id name w, location, component⟩ =
        run specs ⟨values, location, component⟩) ∧
    (∀ x y : Binary64,
      (Value.number x).sameValue (.number y) = true ↔
        (x.isNaN = true ∧ y.isNaN = true) ∨
          (x.isNaN = false ∧ y.isNaN = false ∧ x.scaled = y.scaled ∧
            x.isNegative = y.isNegative)) ∧
    ∃ (specs : List (String × Slot)) (name : String),
      (∀ entry ∈ specs, entry.2.isRuleFree = true) ∧
      (run specs ⟨.object 0 none [(name, .number .negZero)], "prop", none⟩).value ≠
        (run specs ⟨.object 0 none [(name, .number .zero)], "prop", none⟩).value := by
  refine ⟨⟨Value.sameValue_refl, Value.sameValue_symm, Value.sameValue_trans⟩, ?_,
    fun _ _ => Binary64.sameValue_iff_numeric, ?_⟩
  · intro specs values w name id location component hfree hsame hshared
    have hindistinct := Value.indistinct_of_sameValue hsame hshared
    cases hvalues : values.isNullish with
    | true =>
        -- Null and undefined have no properties to replace.
        cases values with
        | undefined | null => rfl
        | _ => cases hvalues
    | false =>
        exact run_congr_of_indistinct hfree hvalues (by rw [Value.isNullish_replaced, hvalues])
          fun entry _ => Value.indistinct_property_replaced hindistinct id entry.1
  · refine ⟨[("n", .checker (.oneOf [.number .zero]) true)], "n", by decide, ?_⟩
    decide +kernel

/-- A word without a number, replaced by another one with the other sign, is refused with the same
message. -/
theorem sameValue_congruence_of_nan :
    let other : Binary64 := ⟨0xfff0000000000001⟩
    let specs : List (String × Slot) := [("n", .checker (.oneOf [.number .zero]) true)]
    let values : Value := .object 0 none [("n", .number .nan), ("m", .null)]
    run specs ⟨values.replaced 1 "n" (.number other), "prop", none⟩ =
        run specs ⟨values, "prop", none⟩ ∧
      (run specs ⟨values, "prop", none⟩).value =
        .ok (Report.ofFailures? [.plain
          "Invalid prop `n` of value `NaN` supplied to `<<anonymous>>`, expected one of [0]."]) := by
  intro other specs values
  have hnan : (values.property "n").sameValue (.number other) = true := by decide +kernel
  refine ⟨?_, by decide +kernel⟩
  refine sameValue_congruence.2.1 specs values (.number other) "n" 1 "prop" none (by decide) hnan ?_
  intro id hid
  cases hid

end Batch

end ShapeCheck
