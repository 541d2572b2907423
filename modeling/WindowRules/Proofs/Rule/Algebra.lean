import WindowRules.Proofs.Config.Overwriting
import WindowRules.Proofs.Rule.Extras
import WindowRules.Proofs.Rule.Strictness

/-!
# The algebra of editing a rule

A rule is edited by keys: a key is set to a value, or it is unset.  What a key addresses is a field,
or the extras with that very key (`SamePlace`); the initial class and the initial title have two
keys each.  The laws say how edits of one place and of different places go together, and what an
edit leaves alone (`Rule.EditAlgebra`).

## Edits in place

Whoever edits a rule holds one rule and is told what became of the edit.  `Rule.setInPlace` and
`Rule.unsetInPlace` are the edits in this form, with the checks and the changes in the order in
which they are made.  They are the plain functions (`Rule.run_setInPlace`, `Rule.run_unsetInPlace`):
what is told does not depend on the rule but on the key and the value alone, and the rule is changed
if the edit is accepted and is as it was if it is refused.  In this form two edits commute if the
rule at the end is the same *and* either edit is told the same, refused edits included.

## Why edits of different places commute

A rule is known by the values of its fields and its extras (`Rule.ext_get`).  An edit has a value
for one field at most, the one that its key addresses, and other fields keep theirs
(`Config.valueFor`).  So for each field at most one of two edits of different places has a value.
Extras are a list, and of lists this has to be shown (`setExtra_comm`).
-/

namespace WindowRules

open Config

/-! ## Places -/

/-- Two keys address the same: one field, or the extras with one key. -/
def SamePlace (k l : String) : Prop :=
  Directive.ofKey k = Directive.ofKey l ∧ (Directive.ofKey k = .extra → k = l)

instance (k l : String) : Decidable (SamePlace k l) := inferInstanceAs (Decidable (_ ∧ _))

theorem SamePlace.refl (k : String) : SamePlace k k := ⟨rfl, fun _ => rfl⟩

/-- The initial class is addressed by two keys. -/
example : SamePlace "match:initialClass" "match:initial_class" := by decide

theorem Criteria.set_set (c : Criteria) (f : MatchField) (o p : Option String) :
    (c.set f o).set f p = c.set f p := by cases f <;> rfl

theorem Actions.set_set (a : Actions) (f : ActionField) (o p : Option String) :
    (a.set f o).set f p = a.set f p := by cases f <;> rfl

theorem Actions.setToggle_setToggle (a : Actions) (t : Toggle) (o p : Option Bool) :
    (a.setToggle t o).setToggle t p = a.setToggle t p := by cases t <;> rfl

namespace Rule

variable {r q : Rule} {k l v w : String}

/-- The keys of the extras. -/
def extraKeys (r : Rule) : List String := r.extras.map (·.1)

/-- Two keys address extras that a rule does not have. -/
def BothNew (r : Rule) (k l : String) : Prop :=
  Directive.ofKey k = .extra ∧ Directive.ofKey l = .extra ∧ k ∉ r.extraKeys ∧ l ∉ r.extraKeys

/-- Two rules have the same in all places but the one that a key addresses. -/
structure SameBeside (key : String) (r q : Rule) : Prop where
  criteria : ∀ f, Directive.ofKey key ≠ .criterion f → q.criteria.get f = r.criteria.get f
  actions : ∀ f, Directive.ofKey key ≠ .action f → q.actions.get f = r.actions.get f
  toggles : ∀ t, Directive.ofKey key ≠ .toggle t → q.actions.getToggle t = r.actions.getToggle t
  name : Directive.ofKey key ≠ .name → q.name = r.name
  /-- No extra is another one, or elsewhere, if the key addresses a field. -/
  extras : Directive.ofKey key ≠ .extra → q.extras = r.extras
  /-- The extras with other keys are the same, in the same order. -/
  otherExtras : q.extras.filter (·.1 ≠ key) = r.extras.filter (·.1 ≠ key)

/-- A rule is known by its fields and extras. -/
theorem ext_get (hcriteria : ∀ f, r.criteria.get f = q.criteria.get f)
    (hactions : ∀ f, r.actions.get f = q.actions.get f)
    (htoggles : ∀ t, r.actions.getToggle t = q.actions.getToggle t) (hname : r.name = q.name)
    (hextras : r.extras = q.extras) : r = q := by
  obtain ⟨rname, rcriteria, ractions, rextras⟩ := r
  obtain ⟨qname, qcriteria, qactions, qextras⟩ := q
  obtain rfl : rname = qname := hname
  obtain rfl : rcriteria = qcriteria := Criteria.ext_get hcriteria
  obtain rfl : ractions = qactions := Actions.ext_get hactions htoggles
  obtain rfl : rextras = qextras := hextras
  rfl

/-! ## Edits in place -/

/-- Sets the field with a key in place, or refuses to. -/
def setInPlace (key value : String) : ExceptT FieldError (StateM Rule) Unit :=
  match Directive.ofKey key with
  | .criterion f => modify fun r => { r with criteria := r.criteria.set f (some value) }
  | .action f => modify fun r => { r with actions := r.actions.set f (some value) }
  | .toggle t => do
    let some on := readSwitch? value | throw (.notASwitch key value)
    modify fun r => { r with actions := r.actions.setToggle t (some on) }
  | .name => modify fun r => { r with name := some value }
  | .unknownMatch => throw (.unknownMatchKey key)
  | .extra => modify fun r => { r with extras := setExtra key value r.extras }

/-- Clears the field with a key in place, and tells whether there was anything. -/
def unsetInPlace (key : String) : StateM Rule Bool := do
  let r ← get
  match Directive.ofKey key with
  | .criterion f =>
    modify fun r => { r with criteria := r.criteria.set f none }
    return (r.criteria.get f).isSome
  | .action f =>
    modify fun r => { r with actions := r.actions.set f none }
    return (r.actions.get f).isSome
  | .toggle t =>
    modify fun r => { r with actions := r.actions.setToggle t none }
    return (r.actions.getToggle t).isSome
  | .name =>
    modify fun r => { r with name := none }
    return r.name.isSome
  | .unknownMatch => return false
  | .extra =>
    modify fun r => { r with extras := r.extras.filter (·.1 ≠ key) }
    return (← get).extras.length < r.extras.length

/-- What is told about setting a key to a value. -/
def verdict (key value : String) : Except FieldError Unit := (Rule.set {} key value).map fun _ => ()

/-- **An edit in place tells what the key and the value decide**, and changes the rule unless it is
refused. -/
theorem run_setInPlace (r : Rule) (key value : String) :
    (setInPlace key value).run.run r = (verdict key value, r.overwrite key value) := by
  unfold setInPlace verdict overwrite Rule.set
  cases Directive.ofKey key with
  | toggle t => cases readSwitch? value <;> rfl
  | _ => rfl

theorem run_unsetInPlace (r : Rule) (key : String) :
    (unsetInPlace key).run r = (r.has key, r.unset key) := by
  unfold unsetInPlace has unset
  cases hd : Directive.ofKey key with
  | extra =>
    have hshorter : decide ((r.extras.filter (·.1 ≠ key)).length < r.extras.length) =
        r.extras.any (·.1 = key) := by
      rw [Bool.eq_iff_iff, decide_eq_true_eq, List.length_filter_lt_length_iff_exists,
        List.any_eq_true]
      simp
    rw [← hshorter]
    rfl
  | _ => rfl

/-- What is told of an edit is the same for every rule. -/
theorem map_set (r : Rule) (key value : String) :
    (r.set key value).map (fun _ => ()) = verdict key value := by
  unfold verdict Rule.set
  cases Directive.ofKey key with
  | toggle t => cases readSwitch? value <;> rfl
  | _ => rfl

theorem verdict_of_set (h : r.set k v = .ok q) : verdict k v = .ok () := by
  rw [← map_set r, h]
  rfl

theorem verdict_of_set_error {e : FieldError} (h : r.set k v = .error e) :
    verdict k v = .error e := by
  rw [← map_set r, h]
  rfl

theorem overwrite_of_set (h : r.set k v = .ok q) : r.overwrite k v = q := by
  rw [overwrite, h]

theorem overwrite_of_set_error {e : FieldError} (h : r.set k v = .error e) :
    r.overwrite k v = r := by
  rw [overwrite, h]

/-! ## One place -/

/-- **Of two values for one place the later one counts.** -/
theorem set_set (hplace : SamePlace k l) (h : r.set k v = .ok q) (w : String) :
    q.set l w = r.set l w := by
  unfold Rule.set at h ⊢
  rw [← hplace.1]
  cases hd : Directive.ofKey k with
  | criterion f =>
    simp only [hd, Except.ok.injEq] at h
    simp only [← h, Criteria.set_set]
  | action f =>
    simp only [hd, Except.ok.injEq] at h
    simp only [← h, Actions.set_set]
  | toggle t =>
    cases hv : readSwitch? v with
    | none => simp [hd, hv] at h
    | some on =>
      simp only [hd, hv, Except.ok.injEq] at h
      simp only [← h, Actions.setToggle_setToggle]
  | name =>
    simp only [hd, Except.ok.injEq] at h
    simp only [← h]
  | unknownMatch => simp [hd] at h
  | extra =>
    simp only [hd, Except.ok.injEq] at h
    simp only [← h, ← hplace.2 hd, setExtra_setExtra]

/-- **What is set is there, and clearing it is clearing what was there before.** -/
theorem unset_set (hplace : SamePlace k l) (h : r.set k v = .ok q) :
    q.has l = true ∧ q.unset l = r.unset l := by
  unfold Rule.set at h
  unfold has unset
  rw [← hplace.1]
  cases hd : Directive.ofKey k with
  | criterion f =>
    simp only [hd, Except.ok.injEq] at h
    simp [← h, Criteria.set_set]
  | action f =>
    simp only [hd, Except.ok.injEq] at h
    simp [← h, Actions.set_set]
  | toggle t =>
    cases hv : readSwitch? v with
    | none => simp [hd, hv] at h
    | some on =>
      simp only [hd, hv, Except.ok.injEq] at h
      simp [← h, Actions.setToggle_setToggle]
  | name =>
    simp only [hd, Except.ok.injEq] at h
    simp [← h]
  | unknownMatch => simp [hd] at h
  | extra =>
    simp only [hd, Except.ok.injEq] at h
    have hmem := mem_map_fst_setExtra k v r.extras
    simp only [← h, ← hplace.2 hd, filter_setExtra]
    refine ⟨?_, trivial⟩
    simpa using hmem

/-- What was cleared is not there. -/
theorem has_unset (r : Rule) (key : String) : (r.unset key).has key = false := by
  unfold has unset
  cases hd : Directive.ofKey key with
  | extra => simp
  | _ => simp

/-- **Clearing changes a rule exactly if there is something to clear.** -/
theorem has_iff_unset_ne : r.has k = true ↔ r.unset k ≠ r := by
  constructor
  · intro hhas hsame
    rw [← hsame, has_unset] at hhas
    exact absurd hhas Bool.false_ne_true
  · intro hne
    by_contra hnot
    exact hne (unset_of_has_eq_false (Bool.eq_false_iff.mpr hnot))

/-! ## Extras -/

theorem extras_overwrite (r : Rule) (key value : String) : (r.overwrite key value).extras =
    if Directive.ofKey key = .extra then setExtra key value r.extras else r.extras := by
  unfold overwrite Rule.set
  cases Directive.ofKey key with
  | toggle t => cases readSwitch? value <;> rfl
  | _ => rfl

theorem extras_unset (r : Rule) (key : String) : (r.unset key).extras =
    if Directive.ofKey key = .extra then r.extras.filter (·.1 ≠ key) else r.extras := by
  unfold unset
  cases Directive.ofKey key <;> rfl

/-- **Keys of extras that are different stay different.** -/
theorem nodup_set (h : r.set k v = .ok q) (hr : r.extraKeys.Nodup) : q.extraKeys.Nodup := by
  rw [← overwrite_of_set h, extraKeys, extras_overwrite]
  split
  · exact nodup_setExtra hr v
  · exact hr

/-- **An extra is set where its key stands first**, or it is added at the end. -/
theorem extras_set (hk : Directive.ofKey k = .extra) (h : r.set k v = .ok q) :
    k ∉ r.extraKeys ∧ q.extras = r.extras ++ [(k, v)] ∨
      ∃ front old back, k ∉ front.map (·.1) ∧ r.extras = front ++ (k, old) :: back ∧
        q.extras = front ++ (k, v) :: back := by
  rw [← overwrite_of_set h, extras_overwrite, if_pos hk]
  by_cases hmem : k ∈ r.extraKeys
  · exact .inr (setExtra_of_mem hmem v)
  · exact .inl ⟨hmem, setExtra_of_notMem hmem v⟩

/-! ## Different places -/

/-- Two edits of different places do not both have a value for a field. -/
theorem valueFor_eq_none_of_not_samePlace (hplace : ¬ SamePlace k l) {d : Directive}
    (hd : d ≠ .extra) :
    valueFor d (k, v) = none ∨ valueFor d (l, w) = none := by
  by_contra hboth
  rw [not_or] at hboth
  obtain ⟨_, hfirst⟩ := Option.ne_none_iff_exists'.mp hboth.1
  obtain ⟨_, hsecond⟩ := Option.ne_none_iff_exists'.mp hboth.2
  have hk : Directive.ofKey k = d := (valueFor_eq_some_iff.mp hfirst).1
  have hl : Directive.ofKey l = d := (valueFor_eq_some_iff.mp hsecond).1
  exact hplace ⟨hk.trans hl.symm, fun hextra => absurd (hk.symm.trans hextra) hd⟩

theorem or_left_comm_of_eq_none {α : Type} {a b : Option α} (h : a = none ∨ b = none)
    (c : Option α) :
    b.or (a.or c) = a.or (b.or c) := by
  rcases h with rfl | rfl <;> rfl

/-- **Edits of different places commute**, unless both add an extra. -/
theorem overwrite_comm (hplace : ¬ SamePlace k l) (hnew : ¬ r.BothNew k l) (v w : String) :
    (r.overwrite k v).overwrite l w = (r.overwrite l w).overwrite k v := by
  refine ext_get (fun f => ?_) (fun f => ?_) (fun t => ?_) ?_ ?_
  · have hvalue := valueFor_eq_none_of_not_samePlace (v := v) (w := w) hplace
      (d := .criterion f) (by simp)
    rw [get_criteria_overwrite _ (l, w), get_criteria_overwrite _ (k, v),
      get_criteria_overwrite _ (k, v), get_criteria_overwrite _ (l, w)]
    exact or_left_comm_of_eq_none hvalue _
  · have hvalue :=
      valueFor_eq_none_of_not_samePlace (v := v) (w := w) hplace (d := .action f) (by simp)
    rw [get_actions_overwrite _ (l, w), get_actions_overwrite _ (k, v),
      get_actions_overwrite _ (k, v), get_actions_overwrite _ (l, w)]
    exact or_left_comm_of_eq_none hvalue _
  · have hvalue : switchFor t (k, v) = none ∨ switchFor t (l, w) = none := by
      have htoggle : Directive.toggle t ≠ .extra := by simp
      rcases valueFor_eq_none_of_not_samePlace (v := v) (w := w) hplace htoggle with h | h
      · exact .inl (by rw [switchFor, h, Option.bind_none])
      · exact .inr (by rw [switchFor, h, Option.bind_none])
    rw [getToggle_actions_overwrite _ (l, w), getToggle_actions_overwrite _ (k, v),
      getToggle_actions_overwrite _ (k, v), getToggle_actions_overwrite _ (l, w)]
    exact or_left_comm_of_eq_none hvalue _
  · have hvalue := valueFor_eq_none_of_not_samePlace (v := v) (w := w) hplace (d := .name) (by simp)
    rw [name_overwrite _ (l, w), name_overwrite _ (k, v), name_overwrite _ (k, v),
      name_overwrite _ (l, w)]
    exact or_left_comm_of_eq_none hvalue _
  · simp only [extras_overwrite]
    by_cases hk : Directive.ofKey k = .extra
    · by_cases hl : Directive.ofKey l = .extra
      · have hne : k ≠ l := fun h => hplace ⟨congrArg _ h, fun _ => h⟩
        have hmem : k ∈ r.extras.map (·.1) ∨ l ∈ r.extras.map (·.1) := by
          by_contra hnone
          rw [not_or] at hnone
          exact hnew ⟨hk, hl, hnone.1, hnone.2⟩
        simp only [if_pos hk, if_pos hl, setExtra_comm hne hmem]
      · simp only [if_neg hl]
    · simp only [if_neg hk]

/-- Two edits in place, one after the other, and what is made of what is told of each. -/
theorem run_setInPlace_setInPlace {α : Type} (r : Rule) (k l v w : String)
    (tell : Except FieldError Unit → Except FieldError Unit → α) :
    (do let a ← (setInPlace k v).run
        let b ← (setInPlace l w).run
        return tell a b).run r =
      (tell (verdict k v) (verdict l w), (r.overwrite k v).overwrite l w) := by
  have hruns : (do
      let a ← (setInPlace k v).run
      let b ← (setInPlace l w).run
      return tell a b).run r =
        let first := (setInPlace k v).run.run r
        let second := (setInPlace l w).run.run first.2
        (tell first.1 second.1, second.2) := rfl
  simp only [hruns, run_setInPlace]

/-- **New extras stand in the order in which they are set.** -/
theorem set_set_of_bothNew (hne : k ≠ l) (hnew : r.BothNew k l) (v w : String) :
    (r.set k v).bind (·.set l w) = .ok { r with extras := r.extras ++ [(k, v), (l, w)] } := by
  obtain ⟨hk, hl, hkeys, hlkeys⟩ := hnew
  have happended := setExtra_setExtra_of_notMem hne hkeys hlkeys v w
  simp only [Rule.set, hk, hl, Except.bind, happended]

/-- **Setting a key leaves alone what the key does not address.** -/
theorem sameBeside_set (h : r.set k v = .ok q) : SameBeside k r q := by
  rw [← overwrite_of_set h]
  refine ⟨fun f hf => ?_, fun f hf => ?_, fun t ht => ?_, fun hname => ?_, fun hextra => ?_, ?_⟩
  · rw [get_criteria_overwrite _ (k, v), valueFor_of_ne hf, Option.none_or]
  · rw [get_actions_overwrite _ (k, v), valueFor_of_ne hf, Option.none_or]
  · rw [getToggle_actions_overwrite _ (k, v), switchFor_of_ne ht, Option.none_or]
  · rw [name_overwrite _ (k, v), valueFor_of_ne hname, Option.none_or]
  · rw [extras_overwrite, if_neg hextra]
  · rw [extras_overwrite]
    split
    · exact filter_setExtra k v r.extras
    · rfl

/-- **So does clearing it.** -/
theorem sameBeside_unset (r : Rule) (key : String) : SameBeside key r (r.unset key) := by
  refine ⟨fun f hf => ?_, fun f hf => ?_, fun t ht => ?_, fun hname => ?_, fun hextra => ?_, ?_⟩
  · unfold unset
    cases hd : Directive.ofKey key with
    | criterion g => exact Criteria.get_set_of_ne _ (fun hfg : f = g => hf (hfg ▸ hd)) none
    | _ => rfl
  · unfold unset
    cases hd : Directive.ofKey key with
    | action g => exact Actions.get_set_of_ne _ (fun hfg : f = g => hf (hfg ▸ hd)) none
    | toggle t => exact Actions.get_setToggle ..
    | _ => rfl
  · unfold unset
    cases hd : Directive.ofKey key with
    | toggle u => exact Actions.getToggle_setToggle_of_ne _ (fun htu : t = u => ht (htu ▸ hd)) none
    | action g => exact Actions.getToggle_set ..
    | _ => rfl
  · unfold unset
    cases hd : Directive.ofKey key with
    | name => exact absurd hd hname
    | _ => rfl
  · rw [extras_unset, if_neg hextra]
  · rw [extras_unset]
    split
    · rw [List.filter_filter]
      simp
    · rfl

/-! ## All laws -/

/-- The laws of editing a rule. -/
structure EditAlgebra (r : Rule) : Prop where
  /-- Setting in place is setting, and what is refused leaves the rule as it was. -/
  accepted : ∀ k v q, r.set k v = .ok q → (setInPlace k v).run.run r = (.ok (), q)
  refused : ∀ k v e, r.set k v = .error e → (setInPlace k v).run.run r = (.error e, r)
  /-- Clearing in place is clearing, and tells whether there was something. -/
  cleared : ∀ k, (unsetInPlace k).run r = (r.has k, r.unset k)
  /-- What is set to one place and then to the same place again is as if set once. -/
  set_again : ∀ k l v w q, SamePlace k l → r.set k v = .ok q → q.set l w = r.set l w
  /-- What is set can be cleared, and nothing of it remains. -/
  unset_after :
    ∀ k l v q, SamePlace k l → r.set k v = .ok q → q.has l = true ∧ q.unset l = r.unset l
  /-- Keys of extras that are different stay different. -/
  nodup : ∀ k v q, r.set k v = .ok q → r.extraKeys.Nodup → q.extraKeys.Nodup
  /-- Clearing tells that there was something exactly if it changes the rule. -/
  has_iff : ∀ k, r.has k = true ↔ r.unset k ≠ r
  /-- Clearing again finds nothing and changes nothing. -/
  unset_again : ∀ k, (r.unset k).has k = false ∧ (r.unset k).unset k = r.unset k
  /-- Edits of different places commute: the rule is the same in the end, and each is told the
  same. -/
  set_comm : ∀ k l v w, ¬ SamePlace k l → ¬ r.BothNew k l →
    (do let a ← (setInPlace k v).run
        let b ← (setInPlace l w).run
        return (a, b)).run r =
      (do let b ← (setInPlace l w).run
          let a ← (setInPlace k v).run
          return (a, b)).run r
  /-- Two extras that are both new stand in the order in which they are set. -/
  set_new : ∀ k l v w, k ≠ l → r.BothNew k l →
    (r.set k v).bind (·.set l w) = .ok { r with extras := r.extras ++ [(k, v), (l, w)] }
  /-- What a key does not address is left alone. -/
  set_beside : ∀ k v q, r.set k v = .ok q → SameBeside k r q
  unset_beside : ∀ k, SameBeside k r (r.unset k)
  /-- Of several extras with a key the first one is set, and all others stay where they are. -/
  set_extra : ∀ k v q, Directive.ofKey k = .extra → r.set k v = .ok q →
    k ∉ r.extraKeys ∧ q.extras = r.extras ++ [(k, v)] ∨
      ∃ front old back, k ∉ front.map (·.1) ∧ r.extras = front ++ (k, old) :: back ∧
        q.extras = front ++ (k, v) :: back

/-- **The algebra of editing.**  Of every rule, extras with repeated keys included, the laws of
editing hold. -/
theorem editing_laws (r : Rule) : r.EditAlgebra where
  accepted k v q h := by rw [run_setInPlace, verdict_of_set h, overwrite_of_set h]
  refused k v e h := by rw [run_setInPlace, verdict_of_set_error h, overwrite_of_set_error h]
  cleared k := run_unsetInPlace r k
  set_again k l v w q hplace h := set_set hplace h w
  unset_after k l v q hplace h := unset_set hplace h
  nodup k v q h := nodup_set h
  has_iff k := has_iff_unset_ne
  unset_again k := ⟨has_unset r k, unset_of_has_eq_false (has_unset r k)⟩
  set_comm k l v w hplace hnew := by
    rw [run_setInPlace_setInPlace r k l v w Prod.mk, overwrite_comm hplace hnew]
    exact (run_setInPlace_setInPlace r l k w v fun b a => (a, b)).symm
  set_new k l v w hne hnew := set_set_of_bothNew hne hnew v w
  set_beside k v q h := sameBeside_set h
  unset_beside k := sameBeside_unset r k
  set_extra k v q hk h := extras_set hk h

end Rule

end WindowRules
