import WindowRules.Proofs.Cascade

/-!
# What the explanations of a cascade say

Every step of a cascade comes with a text that says what the step changes.  The text is made from
the actions that the rule sets and from those that were set before the step, and the step itself is
not looked at: merging and explaining go through the same fields in two different ways.  Here they
are held against each other.

A step goes from one record of actions to another.  `Actions.differences` compares two records field
by field and knows nothing of rules and of merging; what it finds between the actions before a step
and those after it is what the explanation has to tell, no more and no less
(`changes_eq_differences`).

## The state that is explained

The actions before a step are not part of the cascade.  They can be had from the steps: they are
what the earlier steps set, merged one after the other (`Cascade.before`).  The walk carries these
actions along, so an explanation could be made against the wrong ones, those after its own step or
those of some rule that does not match.  That it is not is an induction along the walk, from any
actions that are set already (`explanation_of_getElem?_stepsFrom`).

## No change, and no other text

A step without changes is explained by a text of its own.  No list of changes can be mistaken for
it, since every change has a colon behind its key (`intercalate_differences_ne`).
-/

namespace WindowRules

/-! ## Two records of actions -/

namespace Actions

/-- The values of all actions as text, in the order in which they are reported. -/
def valueTexts (a : Actions) : List (String × Option String) :=
  [("tag", a.tag), ("workspace", a.workspace), ("opacity", a.opacity), ("size", a.size),
    ("move", a.move), ("float", a.float.map switchText), ("center", a.center.map switchText)]

/-- How one value that is different is told. -/
def differenceText (key : String) (old new : Option String) : String :=
  key ++ ": " ++ old.getD "unset" ++ " → " ++ new.getD "unset"

/-- What there is to tell of one value. -/
def difference? (key : String) (old new : Option String) : Option String :=
  if old = new then none else some (differenceText key old new)

/-- What is different in two records of actions, in the order in which actions are reported. -/
def differences (a b : Actions) : List String :=
  (a.valueTexts.zip b.valueTexts).filterMap fun p => difference? p.1.1 p.1.2 p.2.2

theorem difference?_eq_none_iff {key : String} {old new : Option String} :
    difference? key old new = none ↔ old = new := by
  rw [difference?]
  split
  · next h => simp [h]
  · next h => simp [h]

theorem switchText_injective : Function.Injective switchText := by
  intro x y h
  have hread : readSwitch? (switchText x) = readSwitch? (switchText y) := congrArg readSwitch? h
  rw [readSwitch?_switchText, readSwitch?_switchText] at hread
  exact Option.some.inj hread

/-- The differences of the text actions, and then those of the toggles. -/
theorem differences_eq (a b : Actions) : differences a b =
    (ActionField.all.filterMap fun f => difference? f.key (a.get f) (b.get f)) ++
      Toggle.all.filterMap fun t =>
        difference? t.key ((a.getToggle t).map switchText) ((b.getToggle t).map switchText) := by
  have hzip : a.valueTexts.zip b.valueTexts =
      (ActionField.all.map fun f => ((f.key, a.get f), (f.key, b.get f))) ++
        Toggle.all.map fun t => ((t.key, (a.getToggle t).map switchText),
          (t.key, (b.getToggle t).map switchText)) := rfl
  rw [differences, hzip, List.filterMap_append, List.filterMap_map, List.filterMap_map]
  rfl

/-- **There is nothing to tell of two records exactly if they are the same.** -/
theorem differences_eq_nil_iff {a b : Actions} : differences a b = [] ↔ a = b := by
  rw [differences_eq, List.append_eq_nil_iff, List.filterMap_eq_nil_iff, List.filterMap_eq_nil_iff]
  constructor
  · rintro ⟨hfields, htoggles⟩
    refine ext_get (fun f => ?_) (fun t => ?_)
    · exact difference?_eq_none_iff.mp (hfields f (ActionField.mem_all f))
    · have htext := difference?_eq_none_iff.mp (htoggles t (Toggle.mem_all t))
      exact Option.map_injective switchText_injective htext
  · rintro rfl
    exact ⟨fun f _ => difference?_eq_none_iff.mpr rfl, fun t _ => difference?_eq_none_iff.mpr rfl⟩

theorem colon_mem_of_mem_differences {a b : Actions} {x : String} (hx : x ∈ differences a b) :
    ':' ∈ x.toList := by
  obtain ⟨p, -, hp⟩ := List.mem_filterMap.mp hx
  rw [difference?] at hp
  split at hp
  · exact absurd hp nofun
  · rw [← Option.some.inj hp]
    simp [differenceText]

end Actions

open Actions

/-! ## Explaining a step -/

/-- A text that begins with one of the texts it is put together from has all characters of that
one. -/
theorem mem_toList_intercalate_cons {c : Char} {x : String} (hc : c ∈ x.toList) (sep : String)
    (xs : List String) : c ∈ (sep.intercalate (x :: xs)).toList := by
  cases xs with
  | nil =>
    rw [String.intercalate_singleton]
    exact hc
  | cons y ys =>
    rw [String.intercalate_cons_cons, String.toList_append, String.toList_append, List.append_assoc]
    exact List.mem_append_left _ hc

/-- **No list of differences reads as the text for none.** -/
theorem intercalate_differences_ne {a b : Actions} (h : a ≠ b) :
    ", ".intercalate (differences a b) ≠ "no visible changes" := by
  have hne : differences a b ≠ [] := mt differences_eq_nil_iff.mp h
  obtain ⟨x, xs, hx⟩ := List.exists_cons_of_ne_nil hne
  have hcolon : ':' ∈ x.toList := colon_mem_of_mem_differences (hx ▸ List.mem_cons_self)
  intro heq
  have hmem : ':' ∈ (", ".intercalate (differences a b)).toList := by
    rw [hx]
    exact mem_toList_intercalate_cons hcolon ", " xs
  rw [heq] at hmem
  exact absurd hmem (by decide)

section Step

variable (prior delta : Actions)

/-- What is told of a text action is what a merge makes different in it. -/
theorem fieldChange_eq_difference? (f : ActionField) :
    (match delta.get f with
      | some new =>
        if prior.get f = some new then none else some (changeText f.key (prior.get f) new)
      | none => none) = difference? f.key (prior.get f) ((prior.merge delta).get f) := by
  rw [get_merge]
  cases delta.get f with
  | none => exact (difference?_eq_none_iff.mpr rfl).symm
  | some new => rfl

/-- What is told of a toggle is what a merge makes different in it. -/
theorem toggleChange_eq_difference? (t : Toggle) :
    (match delta.getToggle t with
      | some new =>
        if prior.getToggle t = some new then none
        else some (changeText t.key ((prior.getToggle t).map switchText) (switchText new))
      | none => none) = difference? t.key ((prior.getToggle t).map switchText)
        (((prior.merge delta).getToggle t).map switchText) := by
  rw [getToggle_merge]
  cases delta.getToggle t with
  | none => exact (difference?_eq_none_iff.mpr rfl).symm
  | some new =>
    have htext : (prior.getToggle t).map switchText = some (switchText new) ↔
        prior.getToggle t = some new :=
      (Option.map_injective switchText_injective).eq_iff (b := some new)
    rw [Option.some_or, Option.map_some, difference?]
    by_cases h : prior.getToggle t = some new
    · exact (if_pos h).trans (if_pos (htext.mpr h)).symm
    · exact (if_neg h).trans (if_neg (mt htext.mp h)).symm

/-- **Explaining and merging go by the same fields.**  The changes that are told are the differences
that the merge makes. -/
theorem changes_eq_differences :
    fieldChanges prior delta ++ toggleChanges prior delta =
      differences prior (prior.merge delta) := by
  have hfields : fieldChanges prior delta = ActionField.all.filterMap fun f =>
      difference? f.key (prior.get f) ((prior.merge delta).get f) :=
    congrArg (List.filterMap · _) (funext fun f => fieldChange_eq_difference? prior delta f)
  have htoggles : toggleChanges prior delta = Toggle.all.filterMap fun t =>
      difference? t.key ((prior.getToggle t).map switchText)
        (((prior.merge delta).getToggle t).map switchText) :=
    congrArg (List.filterMap · _) (funext fun t => toggleChange_eq_difference? prior delta t)
  rw [hfields, htoggles, differences_eq]

theorem explain_of_ne (h : prior.merge delta ≠ prior) :
    explain prior delta = ", ".intercalate (differences prior (prior.merge delta)) := by
  have hne : differences prior (prior.merge delta) ≠ [] := mt differences_eq_nil_iff.mp h.symm
  rw [explain, changes_eq_differences]
  split
  · next hnil => exact absurd hnil hne
  · rfl

theorem explain_eq_noChanges_iff :
    explain prior delta = "no visible changes" ↔ prior.merge delta = prior := by
  constructor
  · intro h
    by_contra hne
    rw [explain_of_ne prior delta hne] at h
    exact intercalate_differences_ne (Ne.symm hne) h
  · intro h
    rw [explain, changes_eq_differences, h, differences_eq_nil_iff.mpr rfl]
    rfl

/-- A value that is said again is not told of, and an empty one is. -/
example : explain { workspace := some "2", float := some true }
    { tag := some "", workspace := some "2", float := some false } =
      "tag: unset → , float: true → false" := by
  decide

end Step

/-! ## The steps of a cascade -/

/-- What steps set, merged one after the other into actions that are set already. -/
def mergeSteps (state : Actions) (steps : List CascadeStep) : Actions :=
  (steps.map (·.delta)).foldl Actions.merge state

/-- A step of a walk is explained against what the steps before it have left. -/
theorem explanation_of_getElem?_stepsFrom {state : Actions} {rules : List (Nat × Rule)} {k : Nat}
    {s : CascadeStep} (h : (stepsFrom state rules)[k]? = some s) :
    s.explanation = explain (mergeSteps state ((stepsFrom state rules).take k)) s.delta := by
  induction rules generalizing state k with
  | nil => exact absurd h (by simp [stepsFrom])
  | cons p rules ih =>
    rw [stepsFrom] at h ⊢
    cases k with
    | zero =>
      rw [List.getElem?_cons_zero] at h
      rw [← Option.some.inj h]
      rfl
    | succ k =>
      rw [List.getElem?_cons_succ] at h
      exact ih h

/-- What a walk ends with is what all its steps set. -/
theorem mergeAll_eq_mergeSteps (state : Actions) (rules : List (Nat × Rule)) :
    mergeAll state rules = mergeSteps state (stepsFrom state rules) := by
  induction rules generalizing state with
  | nil => rfl
  | cons p rules ih => exact ih (state.merge p.2.actions)

namespace Cascade

/-- The actions before a step: what the steps in front of it set. -/
def before (c : Cascade) (k : Nat) : Actions := mergeSteps {} (c.steps.take k)

/-- The explanations of a cascade tell what its steps change. -/
structure Truthful (c : Cascade) : Prop where
  /-- A step is said to change nothing exactly if what it sets leaves the actions before it as they
  are. -/
  unchanged_iff : ∀ k s, c.steps[k]? = some s →
    (s.explanation = "no visible changes" ↔ (c.before k).merge s.delta = c.before k)
  /-- Of any other step all is told that is different after it, and nothing else. -/
  changed : ∀ k s, c.steps[k]? = some s → (c.before k).merge s.delta ≠ c.before k →
    s.explanation = ", ".intercalate (differences (c.before k) ((c.before k).merge s.delta))
  /-- Behind the last step are the actions at the end. -/
  final_eq : c.final = c.before c.steps.length

theorem truthful_ofMatching (rules : List (Nat × Rule)) : (ofMatching rules).Truthful where
  unchanged_iff k s hs := by
    rw [explanation_of_getElem?_stepsFrom hs]
    exact explain_eq_noChanges_iff _ _
  changed k s hs hne := by
    rw [explanation_of_getElem?_stepsFrom hs]
    exact explain_of_ne _ _ hne
  final_eq := by
    rw [before, List.take_length]
    exact mergeAll_eq_mergeSteps {} rules

end Cascade

/-- **Explanations tell the truth about the merge.**  For any rules and any window, each step of the
cascade is explained by what it makes different in the actions that the steps before it have left,
and by the text for no changes exactly if it makes nothing different; and the actions at the end are
those behind the last step.  It makes no difference which patterns are remembered where the cascade
is made. -/
theorem explanations_truthful (rs : Ruleset) (w : Window) (c : PatternCache) (hc : c.Sound) :
    (resolve rs w).Truthful ∧ ((PatternCache.resolve rs w).run c).1.Truthful := by
  have htruthful : (resolve rs w).Truthful := Cascade.truthful_ofMatching (matchingRules rs w)
  refine ⟨htruthful, ?_⟩
  rw [(PatternCache.resolve_answers rs w c hc).1]
  exact htruthful

/-- Rules of which all but the third suit a window with a class and no title.  The second says again
what the first said, the fourth takes back one of two things, and the last says nothing. -/
def repeatingRules : Ruleset :=
  [{ criteria := { windowClass := some "fire" },
     actions := { workspace := some "2", float := some true } },
   { actions := { workspace := some "2", float := some true } },
   { criteria := { title := some "" }, actions := { workspace := some "3" } },
   { actions := { tag := some "", workspace := some "2", float := some false } }, {}]

theorem explanations_truthful_repeatingRules : usedCache.Sound ∧
    (resolve repeatingRules { windowClass := some "firefox" }).Truthful ∧
    ((PatternCache.resolve repeatingRules
      { windowClass := some "firefox" }).run usedCache).1.Truthful :=
  ⟨sound_usedCache, explanations_truthful _ _ usedCache sound_usedCache⟩

end WindowRules
