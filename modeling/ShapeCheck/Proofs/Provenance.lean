import ShapeCheck.Proofs.Acceptance
import ShapeCheck.Proofs.Path

/-!
# Where failures come from

A failure of a tree of built-in checkers is the failure of a single checker in it.  A path leads to
this checker and to the value that it refuses, everything that is looked at before the path passes,
and the failure names the value by the text of the path.

On a value that is there, a rule either refuses the value itself or hands up the failure of one of
its slots.  Whether a value is there is the checker's question and never the rule's, so neither a
refusal nor a step of a path concerns null or undefined.

* `Rule.refusesOrEnters_of_test`: one step, for each rule.
* `Slot.exists_path_of_fail`: the path, the checker at its end and the checker's own failure.
* `Checker.FailsItself.invoke`: a checker's own failure is what it answers.
* `Batch.failure_provenance`: the same for the failure that an entry contributes to a batch.
-/

namespace ShapeCheck

/-- A step from a rule and a value to one of the rule's slots: items by index, properties and fields
by key.  What comes before the step in the order in which the container is gone through is accepted.
A choice of checkers is not entered. -/
inductive Rule.Enters : Rule → Value → Step → Slot → Prop
  | item
      {item : Slot} {v : Value} {items : List Value} {index : Nat}
      (hitems : v.items? = some items)
      (hindex : index < items.length)
      (hbefore : ∀ x ∈ items.take index, item.accepts x = true) :
      Enters (.arrayOf item) v (.item index) item
  | member
      {item : Slot} {v : Value} {before after : List String} {key : String}
      (hobject : v.propType = .object)
      (hsplit : v.ownKeys = before ++ key :: after)
      (hbefore : ∀ k ∈ before, item.accepts (v.property k) = true) :
      Enters (.objectOf item) v (.member key) item
  | shape
      {fields before after : List (String × Slot)} {key : String} {slot : Slot} {v : Value}
      (hobject : v.propType = .object)
      (hsplit : fields = before ++ (key, slot) :: after)
      (hbefore : ∀ field ∈ before,
        field.2.isCallable = true ∧ field.2.accepts (v.property field.1) = true) :
      Enters (.shape fields) v (.member key) slot
  | exact
      {fields : List (String × Slot)} {before after : List String} {key : String} {slot : Slot}
      {v : Value}
      (hobject : v.propType = .object)
      (hsplit : Rule.exactKeys v.ownKeys (Keyed.keys fields) = before ++ key :: after)
      (hbefore : ∀ k ∈ before, ∃ declared,
        Keyed.get? fields k = some declared ∧
        declared.isCallable = true ∧ declared.accepts (v.property k) = true)
      (hslot : Keyed.get? fields key = some slot) :
      Enters (.exact fields) v (.member key) slot

/-- A path through a tree and a value to a checker.  It goes on only from a value that is there. -/
inductive Slot.Leads : Slot → Value → List Step → Checker → Prop
  | here (rule : Rule) (required : Bool) (v : Value) :
      Leads (.checker rule required) v [] ⟨rule, required⟩
  | step
      {rule : Rule} {required : Bool} {v : Value} {step : Step} {slot : Slot}
      {path : List Step} {c : Checker}
      (hpresent : v.isNullish = false)
      (henters : rule.Enters v step slot)
      (hnext : Leads slot (v.property step.key) path c) :
      Leads (.checker rule required) v (step :: path) c

/-- The failure of a rule on a value that is there and that is not the failure of a checker inside
the rule. -/
inductive Rule.Refuses : Rule → Query → Failure → Prop
  | primitive
      {type : String} {q : Query} (htype : q.value.propType.name ≠ type) :
      Refuses (.primitive type) q (Wording.wrongType q type)
  | arrayOfNotation
      {item : Slot} {q : Query} (hcallable : item.isCallable = false) :
      Refuses (.arrayOf item) q (Wording.invalidNotation q .arrayOf)
  | notAnArray
      {item : Slot} {q : Query}
      (hcallable : item.isCallable = true) (hitems : q.value.items? = none) :
      Refuses (.arrayOf item) q (Wording.notAnArray q)
  | objectOfNotation
      {item : Slot} {q : Query} (hcallable : item.isCallable = false) :
      Refuses (.objectOf item) q (Wording.invalidNotation q .objectOf)
  | notAMap
      {item : Slot} {q : Query}
      (hcallable : item.isCallable = true) (hobject : q.value.propType ≠ .object) :
      Refuses (.objectOf item) q (Wording.notAMap q)
  | notAnInstance
      {cls : Class} {q : Query} (hinstance : q.value.isInstanceOf cls = false) :
      Refuses (.instanceOf cls) q (Wording.notAnInstance q cls)
  | notAllowed
      {allowed : List Value} {q : Query} (hallowed : allowed.any q.value.sameValue = false) :
      Refuses (.oneOf allowed) q (Wording.notAllowed q allowed)
  | noAlternative
      {alternatives : List Slot} {q : Query}
      (hrejected : ∀ a ∈ alternatives, a.accepts q.value = false) :
      Refuses (.oneOfType alternatives) q
        (Wording.noAlternative q
          (alternatives.flatMap fun a => (a.invoke .standard q.forward).expectedTypes))
  | shapeNotAnObject
      {fields : List (String × Slot)} {q : Query} (hobject : q.value.propType ≠ .object) :
      Refuses (.shape fields) q (Wording.notAnObject q)
  | shapeField
      {fields before after : List (String × Slot)} {key : String} {slot : Slot} {q : Query}
      (hobject : q.value.propType = .object)
      (hsplit : fields = before ++ (key, slot) :: after)
      (hbefore : ∀ field ∈ before,
        field.2.isCallable = true ∧ field.2.accepts (q.value.property field.1) = true)
      (hcallable : slot.isCallable = false) :
      Refuses (.shape fields) q (Wording.invalidField q key slot.preciseType)
  | exactNotAnObject
      {fields : List (String × Slot)} {q : Query} (hobject : q.value.propType ≠ .object) :
      Refuses (.exact fields) q (Wording.notAnObject q)
  | exactField
      {fields : List (String × Slot)} {before after : List String} {key : String} {slot : Slot}
      {q : Query}
      (hobject : q.value.propType = .object)
      (hsplit : Rule.exactKeys q.value.ownKeys (Keyed.keys fields) = before ++ key :: after)
      (hbefore : ∀ k ∈ before, ∃ declared,
        Keyed.get? fields k = some declared ∧
        declared.isCallable = true ∧ declared.accepts (q.value.property k) = true)
      (hslot : Keyed.get? fields key = some slot)
      (hcallable : slot.isCallable = false) :
      Refuses (.exact fields) q (Wording.invalidField q key slot.preciseType)
  | undeclaredKey
      {fields : List (String × Slot)} {before after : List String} {key : String} {q : Query}
      (hobject : q.value.propType = .object)
      (hsplit : Rule.exactKeys q.value.ownKeys (Keyed.keys fields) = before ++ key :: after)
      (hbefore : ∀ k ∈ before, ∃ declared,
        Keyed.get? fields k = some declared ∧
        declared.isCallable = true ∧ declared.accepts (q.value.property k) = true)
      (hslot : Keyed.get? fields key = none) :
      Refuses (.exact fields) q (Wording.undeclaredKey q key (Keyed.keys fields))

/-- The failure of a checker on the value in question that is not the failure of a checker inside
it: a required value is not there, or one that is there is refused. -/
inductive Checker.FailsItself : Checker → Query → Failure → Prop
  | missing
      {rule : Rule} {q : Query}
      (hrule : rule.isInert = false) (habsent : q.value.isNullish = true) :
      FailsItself ⟨rule, true⟩ q (Wording.missing q)
  | refused
      {rule : Rule} {required : Bool} {q : Query} {failure : Failure}
      (hpresent : q.value.isNullish = false) (hrefuses : rule.Refuses q failure) :
      FailsItself ⟨rule, required⟩ q failure

/-- A failure on the value in question comes from a checker at the end of a path. -/
def Slot.FailsAlong (s : Slot) (q : Query) (failure : Failure) : Prop :=
  ∃ path c, s.Leads q.value path c ∧ c.FailsItself (q.along path) failure

/-- Every failure of a slot on a call in a batch comes from the end of a path. -/
def Slot.IsTraceable (s : Slot) : Prop :=
  ∀ (call : Call) (failure : Failure),
    call.caller = .batch → call.props.isNullish = false →
    s.invoke .standard call = .fail failure → s.FailsAlong call.query failure

/-- A failure of a rule is its own refusal or the failure of a slot that it enters. -/
def Rule.RefusesOrEnters (rule : Rule) (q : Query) (failure : Failure) : Prop :=
  rule.Refuses q failure ∨
    ∃ step slot, rule.Enters q.value step slot ∧
      slot.invoke .standard (q.child step.key step.text) = .fail failure

/-- The numbers before a number in the range. -/
theorem range_eq_append_cons
    {n i : Nat} {before after : List Nat}
    (h : List.range n = before ++ i :: after) :
    i < n ∧ ∀ j < i, j ∈ before := by
  have hlength : before.length < n := by
    have heq := congrArg List.length h
    rw [List.length_range, List.length_append, List.length_cons] at heq
    omega
  have hi : i = before.length := by
    have heq := congrArg (·[before.length]?) h
    simpa [List.getElem?_range, hlength] using heq.symm
  have hbefore : List.range i = before := by
    have heq := congrArg (List.take before.length) h
    rwa [List.take_range, List.take_left, Nat.min_eq_left (by omega), ← hi] at heq
  refine ⟨by omega, ?_⟩
  intro j hj
  rw [← hbefore]
  exact List.mem_range.mpr hj

/-- A test of one condition fails just where the condition does not hold. -/
theorem Outcome.ite_eq_fail_iff
    {p : Prop} [Decidable p] {failure found : Failure} :
    (if p then Outcome.pass else .fail failure) = .fail found ↔ ¬p ∧ failure = found := by
  by_cases h : p <;> simp [h]

/-- A slot that decides fails on what it rejects, also where the question is passed on as it is. -/
theorem Slot.Decides.isFailure
    {s : Slot} {guards : Guards} (hdecides : s.Decides guards)
    {q : Query} (hq : q.value.isNullish = false) (hrejected : s.accepts q.value = false) :
    (s.invoke guards q.forward).isFailure = true := by
  obtain ⟨hverdict, hpass⟩ := hdecides q.forward rfl (Value.isNullish_of_property hq)
  rw [Query.forward_value, hrejected] at hpass
  cases h : s.invoke guards q.forward with
  | fail failure => rfl
  | pass => simp [h] at hpass
  | fault | panicked =>
      rw [h] at hverdict
      cases hverdict

namespace Rule

variable {q : Query} {failure : Failure}

theorem refusesOrEnters_arrayOf
    {item : Slot}
    (hdecides : item.isCallable = true → item.Decides .standard)
    (hq : q.value.isNullish = false)
    (htest : (arrayOf item).test .standard q = .fail failure) :
    (arrayOf item).RefusesOrEnters q failure := by
  rw [test_arrayOf] at htest
  cases hcallable : item.isCallable with
  | false =>
      rw [hcallable] at htest
      obtain rfl := Outcome.fail.inj htest
      exact Or.inl (.arrayOfNotation hcallable)
  | true =>
      rw [if_pos hcallable] at htest
      cases hitems : q.value.items? with
      | none =>
          rw [hitems] at htest
          obtain rfl := Outcome.fail.inj htest
          exact Or.inl (.notAnArray hcallable hitems)
      | some items =>
          rw [hitems] at htest
          have hverdict : ∀ index ∈ List.range items.length,
              (item.invoke .standard (q.item index)).isVerdict = true :=
            fun index _ => (hdecides hcallable (q.item index) rfl hq).1
          -- Built-in checkers overlook nothing, so the first index that does not pass fails.
          have hrun := (noneFails_eq_allPass_of_isVerdict hverdict).symm.trans htest
          obtain ⟨before, index, after, hsplit, hbefore, hindex⟩ :=
            (allPass_eq_iff (by simp) _).mp hrun
          obtain ⟨hlt, hmem⟩ := range_eq_append_cons hsplit
          refine Or.inr ⟨.item index, item, .item hitems hlt ?_, hindex⟩
          intro x hx
          obtain ⟨j, hj, rfl⟩ := List.mem_take_iff_getElem.mp hx
          have hpass := hbefore j (hmem j (by omega))
          have haccepts := (hdecides hcallable (q.item j) rfl hq).2.mp hpass
          rwa [Query.item_value_of_items? hitems,
            List.getElem?_eq_getElem (by omega)] at haccepts

theorem refusesOrEnters_objectOf
    {item : Slot}
    (hdecides : item.isCallable = true → item.Decides .standard)
    (hq : q.value.isNullish = false)
    (htest : (objectOf item).test .standard q = .fail failure) :
    (objectOf item).RefusesOrEnters q failure := by
  rw [test_objectOf] at htest
  cases hcallable : item.isCallable with
  | false =>
      rw [hcallable] at htest
      obtain rfl := Outcome.fail.inj htest
      exact Or.inl (.objectOfNotation hcallable)
  | true =>
      rw [if_pos hcallable] at htest
      by_cases hobject : q.value.propType = .object
      · rw [if_pos hobject] at htest
        have hverdict : ∀ key ∈ q.value.ownKeys,
            (item.invoke .standard (q.member key)).isVerdict = true :=
          fun key _ => (hdecides hcallable (q.member key) rfl hq).1
        have hrun := (noneFails_eq_allPass_of_isVerdict hverdict).symm.trans htest
        obtain ⟨before, key, after, hsplit, hbefore, hkey⟩ :=
          (allPass_eq_iff (by simp) _).mp hrun
        refine Or.inr ⟨.member key, item, .member hobject hsplit ?_, hkey⟩
        intro k hk
        exact (hdecides hcallable (q.member k) rfl hq).2.mp (hbefore k hk)
      · rw [if_neg hobject] at htest
        obtain rfl := Outcome.fail.inj htest
        exact Or.inl (.notAMap hcallable hobject)

theorem refusesOrEnters_shape
    {fields : List (String × Slot)}
    (hdecides : ∀ field ∈ fields, field.2.isCallable = true → field.2.Decides .standard)
    (hq : q.value.isNullish = false)
    (htest : (shape fields).test .standard q = .fail failure) :
    (shape fields).RefusesOrEnters q failure := by
  rw [test_shape] at htest
  by_cases hobject : q.value.propType = .object
  · rw [if_pos hobject] at htest
    obtain ⟨before, ⟨key, slot⟩, after, hsplit, hpass, hfield⟩ :=
      (allPass_eq_iff (by simp) _).mp htest
    have hbefore : ∀ field ∈ before,
        field.2.isCallable = true ∧ field.2.accepts (q.value.property field.1) = true := by
      intro field hmem
      have hfields : field ∈ fields := by
        rw [hsplit]
        exact List.mem_append_left _ hmem
      exact (testField_decides (hdecides field hfields) hq field.1).2.mp (hpass field hmem)
    cases hcallable : slot.isCallable with
    | false =>
        rw [testField_of_not_isCallable hcallable] at hfield
        obtain rfl := Outcome.fail.inj hfield
        exact Or.inl (.shapeField hobject hsplit hbefore hcallable)
    | true =>
        rw [testField_of_isCallable hcallable] at hfield
        exact Or.inr ⟨.member key, slot, .shape hobject hsplit hbefore, hfield⟩
  · rw [if_neg hobject] at htest
    obtain rfl := Outcome.fail.inj htest
    exact Or.inl (.shapeNotAnObject hobject)

theorem refusesOrEnters_exact
    {fields : List (String × Slot)}
    (hdecides : ∀ field ∈ fields, field.2.isCallable = true → field.2.Decides .standard)
    (hq : q.value.isNullish = false)
    (htest : (exact fields).test .standard q = .fail failure) :
    (exact fields).RefusesOrEnters q failure := by
  rw [test_exact] at htest
  by_cases hobject : q.value.propType = .object
  · rw [if_pos hobject] at htest
    obtain ⟨before, key, after, hsplit, hpass, hkey⟩ :=
      (allPass_eq_iff (by simp) _).mp htest
    have hbefore : ∀ k ∈ before, ∃ declared,
        Keyed.get? fields k = some declared ∧
        declared.isCallable = true ∧ declared.accepts (q.value.property k) = true := by
      intro k hk
      exact (testKey_decides hdecides hq k).2.mp (hpass k hk)
    rw [testKey] at hkey
    cases hget : Keyed.get? fields key with
    | none =>
        rw [hget] at hkey
        obtain rfl := Outcome.fail.inj hkey
        exact Or.inl (.undeclaredKey hobject hsplit hbefore hget)
    | some slot =>
        rw [hget] at hkey
        change testField q key (slot.view .standard) = .fail failure at hkey
        cases hcallable : slot.isCallable with
        | false =>
            rw [testField_of_not_isCallable hcallable] at hkey
            obtain rfl := Outcome.fail.inj hkey
            exact Or.inl (.exactField hobject hsplit hbefore hget hcallable)
        | true =>
            rw [testField_of_isCallable hcallable] at hkey
            exact Or.inr ⟨.member key, slot, .exact hobject hsplit hbefore hget, hkey⟩
  · rw [if_neg hobject] at htest
    obtain rfl := Outcome.fail.inj htest
    exact Or.inl (.exactNotAnObject hobject)

/-- A choice fails by refusing the value itself and in no other way, since its failing alternatives
are not entered. -/
theorem test_oneOfType_eq_fail_iff
    {alternatives : List Slot}
    (hdecides : ∀ a ∈ alternatives, a.Decides .standard)
    (hq : q.value.isNullish = false) :
    (oneOfType alternatives).test .standard q = .fail failure
      ↔
    (oneOfType alternatives).Refuses q failure := by
  obtain ⟨-, hpass⟩ := decides_oneOfType hdecides q hq
  rw [accepts, someAccepts_eq_true_iff] at hpass
  constructor
  · intro htest
    have hrejected : ∀ a ∈ alternatives, a.accepts q.value = false := by
      intro a ha
      by_contra haccepts
      rw [hpass.mpr ⟨a, ha, Bool.of_not_eq_false haccepts⟩] at htest
      cases htest
    rcases test_oneOfType_cases .standard alternatives q with
      ⟨-, hfail⟩ | ⟨before, a, after, -, -, ha, hanswer⟩
    · rw [hfail] at htest
      obtain rfl := Outcome.fail.inj htest
      exact .noAlternative hrejected
    · rw [hanswer] at htest
      exact absurd htest (Outcome.ofAlternative_ne_fail ha)
  · intro hrefuses
    cases hrefuses with
    | noAlternative hrejected =>
        rcases test_oneOfType_cases .standard alternatives q with
          ⟨-, hfail⟩ | ⟨before, a, after, rfl, -, ha, -⟩
        · exact hfail
        · have hfails := (hdecides a (by simp)).isFailure hq (hrejected a (by simp))
          rw [hfails] at ha
          cases ha

/-- A failing test of a rule that the library builds, one step into the rule. -/
theorem refusesOrEnters_of_test
    {rule : Rule} {required : Bool} (hbuiltIn : (Slot.checker rule required).isBuiltIn = true)
    (hq : q.value.isNullish = false)
    (htest : rule.test .standard q = .fail failure) :
    rule.RefusesOrEnters q failure := by
  obtain ⟨hbuilt, hlibrary, hchildren⟩ := Slot.isBuiltIn_checker hbuiltIn
  have hdecides : ∀ child ∈ rule.slots, child.isCallable = true → child.Decides .standard :=
    fun child hchild => Slot.decides .standard (hchildren child hchild)
  cases rule with
  | inert | any =>
      cases htest
  | primitive type =>
      rw [test_eq_testPrimitive, testPrimitive, Outcome.ite_eq_fail_iff] at htest
      obtain ⟨htype, rfl⟩ := htest
      exact Or.inl (.primitive htype)
  | arrayOf item =>
      exact refusesOrEnters_arrayOf (hdecides item (by simp [slots])) hq htest
  | objectOf item =>
      exact refusesOrEnters_objectOf (hdecides item (by simp [slots])) hq htest
  | instanceOf cls =>
      rw [test_eq_testInstanceOf, testInstanceOf, Outcome.ite_eq_fail_iff, Bool.not_eq_true]
        at htest
      obtain ⟨hinstance, rfl⟩ := htest
      exact Or.inl (.notAnInstance hinstance)
  | oneOf allowed =>
      rw [test_eq_testOneOf, testOneOf, Outcome.ite_eq_fail_iff, Bool.not_eq_true] at htest
      obtain ⟨hallowed, rfl⟩ := htest
      exact Or.inl (.notAllowed hallowed)
  | oneOfType alternatives =>
      have hcallable := List.all_eq_true.mp hbuilt
      exact Or.inl
        ((test_oneOfType_eq_fail_iff (fun a ha => hdecides a ha (hcallable a ha)) hq).mp htest)
  | shape fields =>
      exact refusesOrEnters_shape
        (fun field hfield => hdecides field.2 (List.mem_map_of_mem hfield)) hq htest
  | exact fields =>
      exact refusesOrEnters_exact
        (fun field hfield => hdecides field.2 (List.mem_map_of_mem hfield)) hq htest
  | custom label test =>
      cases hlibrary

/-- What a rule refuses is what its test answers. -/
theorem Refuses.test_eq
    {rule : Rule} {required : Bool} (hbuiltIn : (Slot.checker rule required).isBuiltIn = true)
    (hq : q.value.isNullish = false) (h : rule.Refuses q failure) :
    rule.test .standard q = .fail failure := by
  obtain ⟨hbuilt, -, hchildren⟩ := Slot.isBuiltIn_checker hbuiltIn
  have hdecides : ∀ child ∈ rule.slots, child.isCallable = true → child.Decides .standard :=
    fun child hchild => Slot.decides .standard (hchildren child hchild)
  cases h with
  | primitive htype =>
      rw [test_eq_testPrimitive, testPrimitive, Outcome.ite_eq_fail_iff]
      exact ⟨htype, rfl⟩
  | arrayOfNotation hcallable =>
      rw [test_arrayOf, hcallable]
      rfl
  | notAnArray hcallable hitems =>
      rw [test_arrayOf, if_pos hcallable, hitems]
  | objectOfNotation hcallable =>
      rw [test_objectOf, hcallable]
      rfl
  | notAMap hcallable hobject =>
      rw [test_objectOf, if_pos hcallable, if_neg hobject]
  | notAnInstance hinstance =>
      rw [test_eq_testInstanceOf, testInstanceOf, Outcome.ite_eq_fail_iff, Bool.not_eq_true]
      exact ⟨hinstance, rfl⟩
  | notAllowed hallowed =>
      rw [test_eq_testOneOf, testOneOf, Outcome.ite_eq_fail_iff, Bool.not_eq_true]
      exact ⟨hallowed, rfl⟩
  | noAlternative hrejected =>
      have hcallable := List.all_eq_true.mp hbuilt
      exact (test_oneOfType_eq_fail_iff (fun a ha => hdecides a ha (hcallable a ha)) hq).mpr
        (.noAlternative hrejected)
  | shapeNotAnObject hobject =>
      rw [test_shape, if_neg hobject]
  | @shapeField fields before after key slot _ hobject hsplit hbefore hcallable =>
      rw [test_shape, if_pos hobject]
      refine (allPass_eq_iff (by simp) _).mpr
        ⟨before, (key, slot), after, hsplit, ?_, testField_of_not_isCallable hcallable q key⟩
      intro field hmem
      have hfields : field ∈ fields := by
        rw [hsplit]
        exact List.mem_append_left _ hmem
      exact (testField_decides (hdecides field.2 (List.mem_map_of_mem hfields)) hq field.1).2.mpr
        (hbefore field hmem)
  | exactNotAnObject hobject =>
      rw [test_exact, if_neg hobject]
  | @exactField fields before after key slot _ hobject hsplit hbefore hslot hcallable =>
      rw [test_exact, if_pos hobject]
      refine (allPass_eq_iff (by simp) _).mpr ⟨before, key, after, hsplit, ?_, ?_⟩
      · intro k hk
        exact (testKey_decides (fun field hfield => hdecides field.2 (List.mem_map_of_mem hfield))
          hq k).2.mpr (hbefore k hk)
      · rw [testKey, hslot]
        exact testField_of_not_isCallable hcallable q key
  | @undeclaredKey fields before after key _ hobject hsplit hbefore hslot =>
      rw [test_exact, if_pos hobject]
      refine (allPass_eq_iff (by simp) _).mpr ⟨before, key, after, hsplit, ?_, ?_⟩
      · intro k hk
        exact (testKey_decides (fun field hfield => hdecides field.2 (List.mem_map_of_mem hfield))
          hq k).2.mpr (hbefore k hk)
      · rw [testKey, hslot]

/-- A rule enters only its own slots. -/
theorem Enters.mem_slots
    {rule : Rule} {v : Value} {step : Step} {slot : Slot} (h : rule.Enters v step slot) :
    slot ∈ rule.slots := by
  cases h with
  | item | member =>
      simp [slots]
  | shape _ hsplit _ =>
      simp [slots, hsplit]
  | exact _ _ _ hslot =>
      exact List.mem_map_of_mem (Keyed.mem_of_get?_eq_some hslot)

end Rule

namespace Slot

/-- The failures of a tree that the library builds come from single checkers in it. -/
theorem exists_path_of_fail {s : Slot} (hbuiltIn : s.isBuiltIn = true) :
    s.IsTraceable := by
  induction s using Slot.induction with
  | checker rule required ih =>
      obtain ⟨-, -, hchildren⟩ := isBuiltIn_checker hbuiltIn
      intro call failure hcaller hprops hfail
      cases hvalue : call.query.value.isNullish with
      | true =>
          rw [invoke_checker_of_absent hcaller hprops hvalue] at hfail
          split at hfail
          · next hmissing =>
              obtain ⟨hinert, rfl⟩ := hmissing
              obtain rfl := Outcome.fail.inj hfail
              exact ⟨[], _, .here rule true _, .missing hinert hvalue⟩
          · cases hfail
      | false =>
          rw [invoke_checker_of_present hcaller hvalue] at hfail
          rcases Rule.refusesOrEnters_of_test hbuiltIn hvalue hfail with
            hrefuses | ⟨step, slot, henters, hslot⟩
          · exact ⟨[], _, .here rule required _, .refused hvalue hrefuses⟩
          · have hmem := henters.mem_slots
            obtain ⟨path, c, hleads, hfails⟩ :=
              ih slot hmem (hchildren slot hmem) _ failure rfl hvalue hslot
            exact ⟨step :: path, c, .step hvalue henters hleads, hfails⟩
  | factory f =>
      simp [isBuiltIn, every, isLibrary] at hbuiltIn
  | list items =>
      intro call failure _ _ hfail
      cases hfail
  | value v =>
      intro call failure _ _ hfail
      cases hfail

/-- A path through a tree that the library builds leads to a checker that the library builds. -/
theorem Leads.isBuiltIn
    {s : Slot} {v : Value} {path : List Step} {c : Checker}
    (h : s.Leads v path c) (hbuiltIn : s.isBuiltIn = true) :
    c.slot.isBuiltIn = true := by
  induction h with
  | here =>
      exact hbuiltIn
  | step hpresent henters hnext ih =>
      obtain ⟨-, -, hchildren⟩ := isBuiltIn_checker hbuiltIn
      exact ih (hchildren _ henters.mem_slots)

/-- At the end of a path there is a container to read from. -/
theorem Leads.props_isNullish
    {s : Slot} {q : Query} {path : List Step} {c : Checker}
    (h : s.Leads q.value path c) (hprops : q.props.isNullish = false) :
    (q.along path).props.isNullish = false := by
  induction path generalizing s q with
  | nil =>
      exact hprops
  | cons step rest ih =>
      cases h with
      | step hpresent henters hnext => exact ih hnext hpresent

end Slot

/-- A checker's own failure is what it answers. -/
theorem Checker.FailsItself.invoke
    {c : Checker} {call : Call} {failure : Failure}
    (h : c.FailsItself call.query failure) (hbuiltIn : c.slot.isBuiltIn = true)
    (hcaller : call.caller = .batch) (hprops : call.props.isNullish = false) :
    c.slot.invoke .standard call = .fail failure := by
  cases h with
  | missing hrule habsent =>
      exact (Slot.invoke_checker_of_absent hcaller hprops habsent _ _).trans (if_pos ⟨hrule, rfl⟩)
  | refused hpresent hrefuses =>
      exact (Slot.invoke_checker_of_present hcaller hpresent _ _).trans
        (hrefuses.test_eq hbuiltIn hpresent)

namespace Batch

/-- The failure that an entry with a built-in tree contributes to a batch comes from one checker in
the tree, at the end of a path.  It is this checker's own failure on the value that the path leads
to, under the name of the entry followed by the text of the path, and just what the checker answers
when it is asked about this value by itself.  Everything that is looked at before the path is
accepted. -/
theorem failure_provenance
    {c : Checker} (hbuiltIn : c.slot.isBuiltIn = true)
    {subject : Subject} (hvalues : subject.values.isNullish = false)
    {name : String} {failure : Failure}
    (hentry : (runEntry .standard subject (name, c.slot)).value = .ok (some failure)) :
    ∃ path d q,
      c.slot.Leads (subject.values.property name) path d ∧
      q.value = (subject.values.property name).readAlong path ∧
      q.fullName = name ++ pathText path ∧
      q.component = nameOr anonymousName subject.component ∧
      q.location = subject.location ∧
      d.FailsItself q failure ∧
      d.slot.invoke .standard q.forward = .fail failure := by
  have hverdict :=
    (Slot.decides .standard hbuiltIn rfl (subject.call name) rfl hvalues).1
  have hfail : c.slot.invoke .standard (subject.call name) = .fail failure := by
    rw [value_runEntry_of_isCallable rfl] at hentry
    cases h : c.slot.invoke .standard (subject.call name) with
    | pass =>
        rw [h] at hentry
        cases hentry
    | fail found =>
        rw [h] at hentry
        obtain rfl : found = failure := Option.some.inj (Except.ok.inj hentry)
        rfl
    | fault | panicked =>
        rw [h] at hverdict
        cases hverdict
  obtain ⟨path, d, hleads, hfails⟩ :=
    Slot.exists_path_of_fail hbuiltIn (subject.call name) failure rfl hvalues hfail
  have hcomponent : (subject.call name).query.component.isEmpty = false :=
    nameOr_isEmpty (by decide) _
  refine ⟨path, d, (subject.call name).query.along path, hleads, ?_, ?_, ?_, ?_, hfails, ?_⟩
  · exact Query.along_value _ path
  · exact Query.along_fullName _ path
  · exact Query.along_component hcomponent path
  · exact Query.along_location _ path
  · have hforward := Query.along_forward_query (subject.call name).query_forward_query path
    rw [← hforward] at hfails
    exact hfails.invoke (hleads.isBuiltIn hbuiltIn) rfl (hleads.props_isNullish hvalues)

/-- The failure of a row of a table names the row and the column. -/
theorem failure_provenance_of_row :
    let c : Checker :=
      ⟨.shape
        [("rows", .checker (.arrayOf
          (.checker (.exact [("id", .checker (.primitive "boolean") true)]) true)) false)],
        false⟩
    let subject : Subject :=
      ⟨.object 0 none
        [("table", .object 1 none
          [("rows", .array 2
            [.object 3 none [("id", .bool true)], .object 4 none [("id", .string "x")]])])],
        "prop", some "Page"⟩
    let failure : Failure :=
      .expecting
        "Invalid prop `table.rows[1].id` of type `string` supplied to `Page`, expected `boolean`."
        "boolean"
    c.slot.isBuiltIn = true ∧ subject.values.isNullish = false ∧
      (runEntry .standard subject ("table", c.slot)).value = .ok (some failure) ∧
      ∃ path d q,
        c.slot.Leads (subject.values.property "table") path d ∧
        q.value = (subject.values.property "table").readAlong path ∧
        q.fullName = "table" ++ pathText path ∧
        q.component = "Page" ∧ q.location = "prop" ∧
        d.FailsItself q failure ∧
        d.slot.invoke .standard q.forward = .fail failure := by
  intro c subject failure
  have hbuiltIn : c.slot.isBuiltIn = true := by decide
  have hvalues : subject.values.isNullish = false := rfl
  have hentry : (runEntry .standard subject ("table", c.slot)).value = .ok (some failure) := by
    decide +kernel
  exact ⟨hbuiltIn, hvalues, hentry, failure_provenance hbuiltIn hvalues hentry⟩

end Batch
end ShapeCheck
