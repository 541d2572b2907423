import WindowRules.Proofs.Config.Assignment

/-!
# Assigning and setting

There are two ways to give the fields of a rule their values.  A line of a config file assigns: the
first line for a field wins, a line that cannot be understood does nothing, and extras pile up.  An
edit sets: the last value for a field wins, and what cannot be understood is refused.

For the fields the two ways are one, read in opposite directions.  To assign the lines of a block
one after the other is to set them from the last to the first, if edits that are refused are passed
over (`assignAll_eq_overwriteAll_reverse`).  It takes both ways to sort the keys alike and to refuse
the same values: a toggle that is neither on nor off must not take the place of one that can be
understood, neither before it nor behind it.

For the extras the two ways differ, since an edit changes the first extra with its key.  So these
are told apart: they are the lines whose keys stand for extras.

The proof does not compare the two ways step by step.  After all lines every field has, either way,
the first value that the lines have for it (`overwriteAll_reverse_of_overwrite`).
-/

namespace WindowRules

/-- Sets the field with a key, unless that is refused. -/
def Rule.overwrite (r : Rule) (key value : String) : Rule :=
  match r.set key value with
  | .ok q => q
  | .error _ => r

namespace Config

/-- Sets fields one after the other, and passes over what is refused. -/
def overwriteAll (r : Rule) (entries : List (String × String)) : Rule :=
  entries.foldl (fun r e => r.overwrite e.1 e.2) r

/-! ## One edit -/

section One

variable (r : Rule) (e : String × String)

theorem get_criteria_overwrite (f : MatchField) : (r.overwrite e.1 e.2).criteria.get f =
    (valueFor (.criterion f) e).or (r.criteria.get f) := by
  unfold Rule.overwrite Rule.set
  cases hd : Directive.ofKey e.1 with
  | criterion g =>
    by_cases hfg : f = g
    · subst hfg
      rw [valueFor_of_eq hd]
      exact Criteria.get_set_self ..
    · rw [valueFor_of_ne (by rw [hd]; exact fun h => hfg (Directive.criterion.inj h).symm)]
      exact Criteria.get_set_of_ne _ hfg _
  | toggle t =>
    rw [valueFor_of_ne (by simp [hd])]
    cases readSwitch? e.2 <;> rfl
  | _ => rw [valueFor_of_ne (by simp [hd])]; rfl

theorem get_actions_overwrite (f : ActionField) : (r.overwrite e.1 e.2).actions.get f =
    (valueFor (.action f) e).or (r.actions.get f) := by
  unfold Rule.overwrite Rule.set
  cases hd : Directive.ofKey e.1 with
  | action g =>
    by_cases hfg : f = g
    · subst hfg
      rw [valueFor_of_eq hd]
      exact Actions.get_set_self ..
    · rw [valueFor_of_ne (by rw [hd]; exact fun h => hfg (Directive.action.inj h).symm)]
      exact Actions.get_set_of_ne _ hfg _
  | toggle t =>
    rw [valueFor_of_ne (by simp [hd])]
    cases readSwitch? e.2 with
    | none => rfl
    | some on => exact Actions.get_setToggle ..
  | _ => rw [valueFor_of_ne (by simp [hd])]; rfl

theorem getToggle_actions_overwrite (t : Toggle) : (r.overwrite e.1 e.2).actions.getToggle t =
    (switchFor t e).or (r.actions.getToggle t) := by
  unfold Rule.overwrite Rule.set
  cases hd : Directive.ofKey e.1 with
  | toggle u =>
    by_cases htu : t = u
    · subst htu
      rw [switchFor, valueFor_of_eq hd, Option.bind_some]
      -- a value that is neither on nor off is refused, and then the toggle stays as it is
      cases readSwitch? e.2 with
      | none => rfl
      | some on => exact Actions.getToggle_setToggle_self ..
    · rw [switchFor_of_ne (by rw [hd]; exact fun h => htu (Directive.toggle.inj h).symm)]
      cases readSwitch? e.2 with
      | none => rfl
      | some on => exact Actions.getToggle_setToggle_of_ne _ htu _
  | action f =>
    rw [switchFor_of_ne (by simp [hd])]
    exact Actions.getToggle_set ..
  | _ => rw [switchFor_of_ne (by simp [hd])]; rfl

theorem name_overwrite : (r.overwrite e.1 e.2).name = (valueFor .name e).or r.name := by
  unfold Rule.overwrite Rule.set
  cases hd : Directive.ofKey e.1 with
  | name => rw [valueFor_of_eq hd]; rfl
  | toggle t =>
    rw [valueFor_of_ne (by simp [hd])]
    cases readSwitch? e.2 <;> rfl
  | _ => rw [valueFor_of_ne (by simp [hd])]; rfl

end One

/-! ## All edits, from the last to the first -/

/-- What each edit takes the place of is, if they are made from the last to the first, what the
first has that has anything. -/
theorem overwriteAll_reverse_of_overwrite {β : Type} (get : Rule → Option β)
    {value : String × String → Option β}
    (h : ∀ r e, get (r.overwrite e.1 e.2) = (value e).or (get r)) (r : Rule)
    (es : List (String × String)) :
    get (overwriteAll r es.reverse) = (es.findSome? value).or (get r) := by
  rw [overwriteAll, List.foldl_reverse]
  induction es with
  | nil => rfl
  | cons e es ih =>
    rw [List.foldr_cons, h, ih, List.findSome?_cons]
    cases value e <;> rfl

/-- **To assign is to set backwards.**  Assignments to the empty rule give the fields the values
that they have if the same keys and values are set from the last to the first and what is refused is
passed over; and they keep all extras, in their order. -/
theorem assignAll_eq_overwriteAll_reverse (es : List (String × String)) :
    assignAll {} es = { overwriteAll {} es.reverse with extras := es.filter isExtra } := by
  have hname : (assignAll {} es).name = (overwriteAll {} es.reverse).name := by
    rw [name_assignAll, overwriteAll_reverse_of_overwrite Rule.name name_overwrite]
    exact (Option.or_none).symm
  have hcriteria : (assignAll {} es).criteria = (overwriteAll {} es.reverse).criteria := by
    refine Criteria.ext_get fun f => ?_
    have hempty : ({} : Rule).criteria.get f = none := by cases f <;> rfl
    rw [get_criteria_assignAll, overwriteAll_reverse_of_overwrite (·.criteria.get f)
      fun r e => get_criteria_overwrite r e f, hempty, Option.none_or, Option.or_none]
  have hactions : (assignAll {} es).actions = (overwriteAll {} es.reverse).actions := by
    refine Actions.ext_get (fun f => ?_) (fun t => ?_)
    · have hempty : ({} : Rule).actions.get f = none := by cases f <;> rfl
      rw [get_actions_assignAll, overwriteAll_reverse_of_overwrite (·.actions.get f)
        fun r e => get_actions_overwrite r e f, hempty, Option.none_or, Option.or_none]
    · have hempty : ({} : Rule).actions.getToggle t = none := by cases t <;> rfl
      rw [getToggle_actions_assignAll, overwriteAll_reverse_of_overwrite (·.actions.getToggle t)
        fun r e => getToggle_actions_overwrite r e t, hempty, Option.none_or, Option.or_none]
  have hextras : (assignAll {} es).extras = es.filter isExtra := by
    rw [extras_assignAll]
    rfl
  calc assignAll {} es
      = ⟨(assignAll {} es).name, (assignAll {} es).criteria, (assignAll {} es).actions,
          (assignAll {} es).extras⟩ := rfl
    _ = { overwriteAll {} es.reverse with extras := es.filter isExtra } := by
        rw [hname, hcriteria, hactions, hextras]

end Config
end WindowRules
