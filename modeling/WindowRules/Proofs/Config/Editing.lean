import WindowRules.Proofs.Config.WellFormed

/-!
# Edits that a config file can hold

Setting a field puts a value into a rule that no reader has looked at.  Plain values keep the values
of the rule plain; what an edit does to the keys of the extras depends on where the key comes from.
So the condition on those keys is left open here: a rule is *plain with* keys of some kind if its
values can stand in a file and the keys of its extras are of that kind (`Rule.PlainWith`), and
setting and clearing keep it so as long as a new extra has such a key (`Rule.PlainWith.set`,
`Rule.PlainWith.unset`).

Well-formed rules are those that are plain with the keys of a file
(`Rule.wellFormed_iff_plainWith`).
-/

namespace WindowRules

open Config

/-- A rule whose values can stand in a config file, and whose extras have keys of some kind. -/
structure Rule.PlainWith (K : String → Prop) (r : Rule) : Prop where
  criteria : ∀ f, ∀ v ∈ r.criteria.get f, PlainValue v
  name : ∀ v ∈ r.name, PlainValue v
  actions : ∀ f, ∀ v ∈ r.actions.get f, PlainValue v
  extras : ∀ e ∈ r.extras, K e.1 ∧ PlainValue e.2

theorem Rule.wellFormed_iff_plainWith {r : Rule} : r.WellFormed ↔ r.PlainWith PlainKey :=
  ⟨fun h => ⟨h.criteria, h.name, h.actions, h.extras⟩,
    fun h => ⟨h.criteria, h.name, h.actions, h.extras⟩⟩

theorem mem_setExtra {key value : String} {es : List (String × String)} {e : String × String}
    (h : e ∈ setExtra key value es) : e = (key, value) ∨ e ∈ es := by
  induction es with
  | nil => exact .inl (List.mem_singleton.mp h)
  | cons d es ih =>
    rw [setExtra] at h
    split at h
    · rcases List.mem_cons.mp h with h | h
      · exact .inl h
      · exact .inr (List.mem_cons_of_mem d h)
    · rcases List.mem_cons.mp h with h | h
      · exact .inr (h ▸ List.mem_cons_self)
      · exact (ih h).imp_right (List.mem_cons_of_mem d)

namespace Rule.PlainWith

variable {K : String → Prop} {r : Rule} (hr : r.PlainWith K)
include hr

/-- Keys of another kind, if all extras have such keys. -/
theorem of_keys {K' : String → Prop} (h : ∀ e ∈ r.extras, K e.1 → K' e.1) : r.PlainWith K' where
  criteria := hr.criteria
  name := hr.name
  actions := hr.actions
  extras e he := ⟨h e he (hr.extras e he).1, (hr.extras e he).2⟩

/-- A pattern that is replaced by a plain one, or cleared. -/
theorem setCriterion (f : MatchField) {o : Option String} (ho : ∀ v ∈ o, PlainValue v) :
    Rule.PlainWith K { r with criteria := r.criteria.set f o } where
  criteria g := by
    by_cases hgf : g = f
    · rw [hgf, Criteria.get_set_self]
      exact ho
    · rw [Criteria.get_set_of_ne _ hgf]
      exact hr.criteria g
  name := hr.name
  actions := hr.actions
  extras := hr.extras

/-- An action that is replaced by a plain one, or cleared. -/
theorem setAction (f : ActionField) {o : Option String} (ho : ∀ v ∈ o, PlainValue v) :
    Rule.PlainWith K { r with actions := r.actions.set f o } where
  criteria := hr.criteria
  name := hr.name
  actions g := by
    by_cases hgf : g = f
    · rw [hgf, Actions.get_set_self]
      exact ho
    · rw [Actions.get_set_of_ne _ hgf]
      exact hr.actions g
  extras := hr.extras

/-- A toggle has no text. -/
theorem setToggle (t : Toggle) (o : Option Bool) :
    Rule.PlainWith K { r with actions := r.actions.setToggle t o } where
  criteria := hr.criteria
  name := hr.name
  actions f := by
    rw [Actions.get_setToggle]
    exact hr.actions f
  extras := hr.extras

/-- A name that is replaced by a plain one, or cleared. -/
theorem setName {o : Option String} (ho : ∀ v ∈ o, PlainValue v) :
    Rule.PlainWith K { r with name := o } where
  criteria := hr.criteria
  name := ho
  actions := hr.actions
  extras := hr.extras

/-- Other extras. -/
theorem setExtras {es : List (String × String)} (hes : ∀ e ∈ es, K e.1 ∧ PlainValue e.2) :
    Rule.PlainWith K { r with extras := es } where
  criteria := hr.criteria
  name := hr.name
  actions := hr.actions
  extras := hes

/-- **Setting a field to a plain value keeps a rule plain**, if the key of an extra is of the right
kind. -/
theorem set {key value : String} (hk : Directive.ofKey key = .extra → K key)
    (hv : PlainValue value) {q : Rule} (h : r.set key value = .ok q) : q.PlainWith K := by
  have hplain : ∀ v ∈ some value, PlainValue v := fun v hmem => Option.mem_some.mp hmem ▸ hv
  unfold Rule.set at h
  split at h
  · exact Except.ok.inj h ▸ hr.setCriterion _ hplain
  · exact Except.ok.inj h ▸ hr.setAction _ hplain
  · split at h
    · exact Except.ok.inj h ▸ hr.setToggle _ _
    · exact absurd h nofun
  · exact Except.ok.inj h ▸ hr.setName hplain
  · exact absurd h nofun
  · next hextra =>
    refine Except.ok.inj h ▸ hr.setExtras fun e he => ?_
    rcases mem_setExtra he with rfl | he
    · exact ⟨hk hextra, hv⟩
    · exact hr.extras e he

/-- **Clearing a field keeps a rule plain.** -/
theorem unset (key : String) : (r.unset key).PlainWith K := by
  have hnone : ∀ v ∈ (none : Option String), PlainValue v := fun v hmem => absurd hmem nofun
  unfold Rule.unset
  split
  · exact hr.setCriterion _ hnone
  · exact hr.setAction _ hnone
  · exact hr.setToggle _ none
  · exact hr.setName hnone
  · exact hr
  · exact hr.setExtras fun e he => hr.extras e (List.mem_of_mem_filter he)

end Rule.PlainWith

end WindowRules
