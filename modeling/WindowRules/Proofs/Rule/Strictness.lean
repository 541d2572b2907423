import WindowRules.Proofs.Config.WellFormed

/-!
# Which edits of a field are refused

Setting a field is refused for two reasons only, and both can be seen from the key and the value,
whatever the rule holds: the key looks like that of a match field and is none, or it is the key of a
toggle and the value is neither on nor off (`Rule.set_eq_error_iff`).  Clearing a field is never
refused, and where nothing is to be cleared it changes nothing (`Rule.unset_of_has_eq_false`).
-/

namespace WindowRules

/-! ## Keys -/

/-- The keys of match fields, the second spellings included. -/
def matchKeys : List String :=
  ["match:class", "match:title", "match:initialClass", "match:initial_class", "match:initialTitle",
    "match:initial_title", "match:tag"]

/-- The words for on and off. -/
def switchWords : List String := ["true", "yes", "1", "false", "no", "0"]

theorem MatchField.ofKey?_eq_none_iff {key : String} : ofKey? key = none ↔ key ∉ matchKeys := by
  constructor
  · intro hnone hmem
    simp only [matchKeys, List.mem_cons, List.not_mem_nil, or_false] at hmem
    rcases hmem with rfl | rfl | rfl | rfl | rfl | rfl | rfl <;> exact absurd hnone (by decide)
  · intro hmem
    unfold ofKey?
    split
    case h_8 => rfl
    all_goals exact absurd (by decide) hmem

theorem readSwitch?_eq_none_iff {value : String} :
    readSwitch? value = none ↔ value ∉ switchWords := by
  constructor
  · intro hnone hmem
    simp only [switchWords, List.mem_cons, List.not_mem_nil, or_false] at hmem
    rcases hmem with rfl | rfl | rfl | rfl | rfl | rfl <;> exact absurd hnone (by decide)
  · intro hmem
    unfold readSwitch?
    split
    case h_7 => rfl
    all_goals exact absurd (by decide) hmem

theorem Toggle.eq_key_of_ofKey? {key : String} {t : Toggle} (h : ofKey? key = some t) :
    key = t.key := by
  unfold ofKey? at h
  split at h
  · obtain rfl := Option.some.inj h
    rfl
  · obtain rfl := Option.some.inj h
    rfl
  · exact absurd h nofun

namespace Directive

/-- What a key stands for that does not look like one of a match field. -/
theorem ofKey_ne_unknownMatch {key : String} (hmark : ¬ matchMark.toList <+: key.toList) :
    ofKey key ≠ .unknownMatch := by
  unfold ofKey
  rw [if_neg (mt List.isPrefixOf_iff_prefix.mp hmark)]
  repeat' split
  all_goals exact nofun

theorem ofKey_eq_unknownMatch_iff {key : String} :
    ofKey key = .unknownMatch ↔ matchMark.toList <+: key.toList ∧ key ∉ matchKeys := by
  rw [← MatchField.ofKey?_eq_none_iff]
  constructor
  · intro h
    refine ⟨Decidable.not_not.mp fun hmark => ofKey_ne_unknownMatch hmark h, ?_⟩
    unfold ofKey at h
    split at h
    · exact absurd h nofun
    · next hnone => exact hnone
  · rintro ⟨hmark, hnone⟩
    rw [ofKey, hnone]
    exact if_pos (List.isPrefixOf_iff_prefix.mpr hmark)

theorem ofKey_eq_toggle_iff {key : String} {t : Toggle} : ofKey key = .toggle t ↔ key = t.key := by
  constructor
  · intro h
    unfold ofKey at h
    repeat' split at h
    all_goals cases h
    next hkey => exact Toggle.eq_key_of_ofKey? hkey
  · rintro rfl
    exact ofKey_toggleKey t

end Directive

/-! ## Setting -/

/-- A key and a value that no field can be set by: the key looks like that of a match field and is
none, or it is that of a toggle and the value is neither on nor off. -/
def Unsettable (key value : String) : Prop :=
  Directive.matchMark.toList <+: key.toList ∧ key ∉ matchKeys ∨
    key ∈ ["float", "center"] ∧ value ∉ switchWords

namespace Rule

/-- **Setting is refused for the key and the value alone**, whatever the rule. -/
theorem set_eq_error_iff {r : Rule} {key value : String} :
    (∃ e, r.set key value = .error e) ↔ Unsettable key value := by
  have htoggle : key ∈ ["float", "center"] ↔ ∃ t, Directive.ofKey key = .toggle t := by
    simp only [Directive.ofKey_eq_toggle_iff, List.mem_cons, List.not_mem_nil, or_false]
    constructor
    · rintro (rfl | rfl)
      · exact ⟨.float, rfl⟩
      · exact ⟨.center, rfl⟩
    · rintro ⟨_ | _, rfl⟩
      · exact .inl rfl
      · exact .inr rfl
  rw [Unsettable, ← Directive.ofKey_eq_unknownMatch_iff, ← readSwitch?_eq_none_iff, htoggle, set]
  cases Directive.ofKey key with
  | toggle t =>
    cases readSwitch? value with
    | none => simp
    | some on => simp
  | _ => simp

end Rule

/-! ## Clearing -/

/-- Writing back what is there. -/
theorem Criteria.set_get (c : Criteria) (f : MatchField) : c.set f (c.get f) = c := by
  cases f <;> rfl

theorem Actions.set_get (a : Actions) (f : ActionField) : a.set f (a.get f) = a := by
  cases f <;> rfl

theorem Actions.setToggle_getToggle (a : Actions) (t : Toggle) :
    a.setToggle t (a.getToggle t) = a := by
  cases t <;> rfl

/-- **Clearing what is absent changes nothing.** -/
theorem Rule.unset_of_has_eq_false {r : Rule} {key : String} (h : r.has key = false) :
    r.unset key = r := by
  unfold has at h
  unfold unset
  cases hd : Directive.ofKey key with
  | criterion f =>
    simp only [hd, Option.isSome_eq_false_iff, Option.isNone_iff_eq_none] at h
    simp only [← h, Criteria.set_get]
  | action f =>
    simp only [hd, Option.isSome_eq_false_iff, Option.isNone_iff_eq_none] at h
    simp only [← h, Actions.set_get]
  | toggle t =>
    simp only [hd, Option.isSome_eq_false_iff, Option.isNone_iff_eq_none] at h
    simp only [← h, Actions.setToggle_getToggle]
  | name =>
    simp only [hd, Option.isSome_eq_false_iff, Option.isNone_iff_eq_none] at h
    simp only [← h]
  | unknownMatch => rfl
  | extra =>
    simp only [hd] at h
    have hkeys : ∀ e ∈ r.extras, decide (e.1 ≠ key) = true := by
      simpa using h
    simp only [List.filter_eq_self.mpr hkeys]

end WindowRules
