import WindowRules.Config.Reader
import WindowRules.Config.Writer

/-!
# What a list of assignments makes of a rule

A block is read by assigning its lines one after the other, and the first assignment of a field
wins.  Here this is said without the order of the steps: after all assignments a field that was
absent has the first value that the list has for it (`get_criteria_assignAll` and its companions for
actions, toggles and the name), and the extras are those of the list, in its order
(`extras_assignAll`).

* `valueFor`: the value that an assignment has for a directive.
* `assignAll_entries`: the lines that a rule is written with make the rule again, if its extras are
  extras by their keys.
-/

namespace WindowRules
namespace Config

/-- The value that an assignment has for what its key stands for. -/
def valueFor (d : Directive) (e : String × String) : Option String :=
  if Directive.ofKey e.1 = d then some e.2 else none

/-- The position that an assignment has for a toggle, if its value is one. -/
def switchFor (t : Toggle) (e : String × String) : Option Bool :=
  (valueFor (.toggle t) e).bind readSwitch?

/-- Whether an assignment is kept as an extra. -/
def isExtra (e : String × String) : Bool := Directive.ofKey e.1 = .extra

theorem valueFor_of_eq {d : Directive} {e : String × String} (h : Directive.ofKey e.1 = d) :
    valueFor d e = some e.2 :=
  if_pos h

theorem valueFor_of_ne {d : Directive} {e : String × String} (h : Directive.ofKey e.1 ≠ d) :
    valueFor d e = none :=
  if_neg h

theorem switchFor_of_ne {t : Toggle} {e : String × String} (h : Directive.ofKey e.1 ≠ .toggle t) :
    switchFor t e = none := by
  rw [switchFor, valueFor_of_ne h, Option.bind_none]

/-! ## One assignment -/

theorem get_criteria_assign (r : Rule) (e : String × String) (f : MatchField) :
    (r.assign e.1 e.2).criteria.get f = (r.criteria.get f).or (valueFor (.criterion f) e) := by
  unfold Rule.assign
  cases hd : Directive.ofKey e.1 with
  | criterion g =>
    by_cases hgf : f = g
    · subst hgf
      rw [valueFor_of_eq hd]
      exact Criteria.get_set_self ..
    · rw [valueFor_of_ne (by rw [hd]; exact fun h => hgf (Directive.criterion.inj h).symm),
        Option.or_none]
      exact Criteria.get_set_of_ne _ hgf _
  | _ => rw [valueFor_of_ne (by rw [hd]; exact nofun), Option.or_none]

theorem get_actions_assign (r : Rule) (e : String × String) (f : ActionField) :
    (r.assign e.1 e.2).actions.get f = (r.actions.get f).or (valueFor (.action f) e) := by
  unfold Rule.assign
  cases hd : Directive.ofKey e.1 with
  | action g =>
    by_cases hgf : f = g
    · subst hgf
      rw [valueFor_of_eq hd]
      exact Actions.get_set_self ..
    · rw [valueFor_of_ne (by rw [hd]; exact fun h => hgf (Directive.action.inj h).symm),
        Option.or_none]
      exact Actions.get_set_of_ne _ hgf _
  | toggle t =>
    rw [valueFor_of_ne (by rw [hd]; exact nofun), Option.or_none]
    exact Actions.get_setToggle ..
  | _ => rw [valueFor_of_ne (by rw [hd]; exact nofun), Option.or_none]

theorem getToggle_actions_assign (r : Rule) (e : String × String) (t : Toggle) :
    (r.assign e.1 e.2).actions.getToggle t = (r.actions.getToggle t).or (switchFor t e) := by
  unfold Rule.assign
  cases hd : Directive.ofKey e.1 with
  | toggle u =>
    by_cases hut : t = u
    · subst hut
      rw [switchFor, valueFor_of_eq hd]
      exact Actions.getToggle_setToggle_self ..
    · rw [switchFor_of_ne (by rw [hd]; exact fun h => hut (Directive.toggle.inj h).symm),
        Option.or_none]
      exact Actions.getToggle_setToggle_of_ne _ hut _
  | action f =>
    rw [switchFor_of_ne (by rw [hd]; exact nofun), Option.or_none]
    exact Actions.getToggle_set ..
  | _ => rw [switchFor_of_ne (by rw [hd]; exact nofun), Option.or_none]

theorem name_assign (r : Rule) (e : String × String) :
    (r.assign e.1 e.2).name = r.name.or (valueFor .name e) := by
  unfold Rule.assign
  cases hd : Directive.ofKey e.1 with
  | name => rw [valueFor_of_eq hd]
  | _ => rw [valueFor_of_ne (by rw [hd]; exact nofun), Option.or_none]

theorem extras_assign (r : Rule) (e : String × String) :
    (r.assign e.1 e.2).extras = r.extras ++ [e].filter isExtra := by
  unfold Rule.assign
  cases hd : Directive.ofKey e.1 with
  | extra => simp [isExtra, hd]
  | _ => simp [isExtra, hd]

/-! ## All assignments -/

theorem assignAll_cons (r : Rule) (e : String × String) (es : List (String × String)) :
    assignAll r (e :: es) = assignAll (r.assign e.1 e.2) es := rfl

/-- What each assignment adds only where nothing was is, after all of them, what the first has that
has anything. -/
theorem assignAll_of_assign {β : Type} (get : Rule → Option β) {value : String × String → Option β}
    (h : ∀ r e, get (r.assign e.1 e.2) = (get r).or (value e)) (r : Rule)
    (es : List (String × String)) : get (assignAll r es) = (get r).or (es.findSome? value) := by
  induction es generalizing r with
  | nil => exact Option.or_none.symm
  | cons e es ih =>
    rw [assignAll_cons, ih, h, Option.or_assoc, List.findSome?_cons]
    cases value e <;> rfl

/-- **The first assignment of a criterion wins.** -/
theorem get_criteria_assignAll (r : Rule) (es : List (String × String)) (f : MatchField) :
    (assignAll r es).criteria.get f =
      (r.criteria.get f).or (es.findSome? (valueFor (.criterion f))) :=
  assignAll_of_assign (·.criteria.get f) (fun r e => get_criteria_assign r e f) r es

/-- **The first assignment of an action wins.** -/
theorem get_actions_assignAll (r : Rule) (es : List (String × String)) (f : ActionField) :
    (assignAll r es).actions.get f =
      (r.actions.get f).or (es.findSome? (valueFor (.action f))) :=
  assignAll_of_assign (·.actions.get f) (fun r e => get_actions_assign r e f) r es

/-- **The first assignment of a toggle that can be understood wins.** -/
theorem getToggle_actions_assignAll (r : Rule) (es : List (String × String)) (t : Toggle) :
    (assignAll r es).actions.getToggle t =
      (r.actions.getToggle t).or (es.findSome? (switchFor t)) :=
  assignAll_of_assign (·.actions.getToggle t) (fun r e => getToggle_actions_assign r e t) r es

/-- **The first assignment of the name wins.** -/
theorem name_assignAll (r : Rule) (es : List (String × String)) :
    (assignAll r es).name = r.name.or (es.findSome? (valueFor .name)) :=
  assignAll_of_assign Rule.name name_assign r es

/-- **Extras pile up in the order of the assignments.** -/
theorem extras_assignAll (r : Rule) (es : List (String × String)) :
    (assignAll r es).extras = r.extras ++ es.filter isExtra := by
  induction es generalizing r with
  | nil => exact (List.append_nil _).symm
  | cons e es ih =>
    rw [assignAll_cons, ih, extras_assign, List.append_assoc, ← List.filter_append]
    rfl

/-! ## The assignments of a written rule -/

/-- The assignments that write the fields of a rule. -/
def fieldEntries (r : Rule) : List (String × String) :=
  (MatchField.all.filterMap fun f => (r.criteria.get f).map fun v => (f.key, v)) ++
  (r.name.map fun v => ("name", v)).toList ++
  (ActionField.all.filterMap fun f => (r.actions.get f).map fun v => (f.key, v)) ++
  (Toggle.all.filterMap fun t => (r.actions.getToggle t).map fun on => (t.key, switchText on))

theorem entries_eq (r : Rule) : entries r = fieldEntries r ++ r.extras := rfl

/-- What writes a field: its key, with the value that the field has. -/
inductive FieldEntry (r : Rule) : String × String → Prop
  | criterion {f : MatchField} {v : String} (h : r.criteria.get f = some v) :
      FieldEntry r (f.key, v)
  | name {v : String} (h : r.name = some v) : FieldEntry r ("name", v)
  | action {f : ActionField} {v : String} (h : r.actions.get f = some v) : FieldEntry r (f.key, v)
  | toggle {t : Toggle} {on : Bool} (h : r.actions.getToggle t = some on) :
      FieldEntry r (t.key, switchText on)

theorem mem_fieldEntries {r : Rule} {e : String × String} :
    e ∈ fieldEntries r ↔ FieldEntry r e := by
  simp only [fieldEntries, List.mem_append, List.mem_filterMap, Option.mem_toList,
    Option.map_eq_some_iff]
  constructor
  · rintro (((⟨f, -, v, h, rfl⟩ | ⟨v, h, rfl⟩) | ⟨f, -, v, h, rfl⟩) | ⟨t, -, on, h, rfl⟩)
    · exact .criterion h
    · exact .name h
    · exact .action h
    · exact .toggle h
  · rintro (h | h | h | h)
    · exact .inl (.inl (.inl ⟨_, MatchField.mem_all _, _, h, rfl⟩))
    · exact .inl (.inl (.inr ⟨_, h, rfl⟩))
    · exact .inl (.inr ⟨_, ActionField.mem_all _, _, h, rfl⟩)
    · exact .inr ⟨_, Toggle.mem_all _, _, h, rfl⟩

/-- No field is written as an extra. -/
theorem FieldEntry.ofKey_ne_extra {r : Rule} {e : String × String} (h : FieldEntry r e) :
    Directive.ofKey e.1 ≠ .extra := by
  cases h <;> simp

/-- A search that finds nothing but one value, and has that value to find, finds it. -/
theorem findSome?_eq_of_forall {α β : Type} {l : List α} {g : α → Option β} {o : Option β}
    (hsound : ∀ a ∈ l, ∀ b, g a = some b → o = some b)
    (hcomplete : ∀ b, o = some b → ∃ a ∈ l, g a = some b) : l.findSome? g = o := by
  cases hl : l.findSome? g with
  | none =>
    refine (Option.eq_none_iff_forall_ne_some.mpr fun b hb => ?_).symm
    obtain ⟨a, ha, hab⟩ := hcomplete b hb
    rw [List.findSome?_eq_none_iff.mp hl a ha] at hab
    exact absurd hab nofun
  | some b =>
    obtain ⟨a, ha, hab⟩ := List.exists_of_findSome?_eq_some hl
    exact (hsound a ha b hab).symm

theorem valueFor_eq_some_iff {d : Directive} {e : String × String} {v : String} :
    valueFor d e = some v ↔ Directive.ofKey e.1 = d ∧ e.2 = v := by
  unfold valueFor
  split
  · next h => simp [h]
  · next h => simp [h]

section Written

variable {r : Rule} (hextras : ∀ e ∈ r.extras, Directive.ofKey e.1 = .extra)
include hextras

/-- An assignment of a written rule whose key stands for no extra writes a field. -/
theorem fieldEntry_of_mem_entries {e : String × String} (he : e ∈ entries r)
    (hd : Directive.ofKey e.1 ≠ .extra) : FieldEntry r e := by
  rw [entries_eq, List.mem_append] at he
  rcases he with he | he
  · exact mem_fieldEntries.mp he
  · exact absurd (hextras e he) hd

/-- The value that a written rule has for a field is the value that is written with its key. -/
theorem findSome?_valueFor_entries {d : Directive} {o : Option String} (hd : d ≠ .extra)
    (hsound : ∀ e, FieldEntry r e → Directive.ofKey e.1 = d → o = some e.2)
    (hcomplete : ∀ v, o = some v → ∃ k, FieldEntry r (k, v) ∧ Directive.ofKey k = d) :
    (entries r).findSome? (valueFor d) = o := by
  refine findSome?_eq_of_forall (fun e he v hv => ?_) (fun v hv => ?_)
  · obtain ⟨hkey, rfl⟩ := valueFor_eq_some_iff.mp hv
    exact hsound e (fieldEntry_of_mem_entries hextras he (hkey ▸ hd)) hkey
  · obtain ⟨k, hk, hkey⟩ := hcomplete v hv
    exact ⟨_, List.mem_append_left _ (mem_fieldEntries.mpr hk), valueFor_of_eq hkey⟩

theorem findSome?_criterion_entries (f : MatchField) :
    (entries r).findSome? (valueFor (.criterion f)) = r.criteria.get f := by
  refine findSome?_valueFor_entries hextras nofun (fun e he hkey => ?_)
    fun v hv => ⟨_, .criterion hv, Directive.ofKey_matchKey f⟩
  cases he <;> simp_all

theorem findSome?_action_entries (f : ActionField) :
    (entries r).findSome? (valueFor (.action f)) = r.actions.get f := by
  refine findSome?_valueFor_entries hextras nofun (fun e he hkey => ?_)
    fun v hv => ⟨_, .action hv, Directive.ofKey_actionKey f⟩
  cases he <;> simp_all

theorem findSome?_name_entries : (entries r).findSome? (valueFor .name) = r.name := by
  refine findSome?_valueFor_entries hextras nofun (fun e he hkey => ?_)
    fun v hv => ⟨_, .name hv, Directive.ofKey_name⟩
  cases he <;> simp_all

theorem findSome?_toggle_entries (t : Toggle) :
    (entries r).findSome? (switchFor t) = r.actions.getToggle t := by
  refine findSome?_eq_of_forall (fun e he on hon => ?_) (fun on hon => ?_)
  · obtain ⟨v, hv, hon⟩ := Option.bind_eq_some_iff.mp hon
    obtain ⟨hd, rfl⟩ := valueFor_eq_some_iff.mp hv
    cases fieldEntry_of_mem_entries hextras he (by simp [hd]) <;> simp_all
  · refine ⟨_, List.mem_append_left _ (mem_fieldEntries.mpr (.toggle hon)), ?_⟩
    rw [switchFor, valueFor_of_eq (Directive.ofKey_toggleKey t), Option.bind_some,
      readSwitch?_switchText]

/-- Of the assignments of a written rule, its extras are kept as extras. -/
theorem filter_isExtra_entries : (entries r).filter isExtra = r.extras := by
  have hfields : (fieldEntries r).filter isExtra = [] :=
    List.filter_eq_nil_iff.mpr fun e he h =>
      (mem_fieldEntries.mp he).ofKey_ne_extra (of_decide_eq_true h)
  rw [entries_eq, List.filter_append, hfields, List.nil_append, List.filter_eq_self]
  exact fun e he => decide_eq_true (hextras e he)

/-- **The lines that a rule is written with make the rule again**, as long as the keys of its extras
stand for nothing else. -/
theorem assignAll_entries : assignAll {} (entries r) = r := by
  have hname : (assignAll {} (entries r)).name = r.name := by
    rw [name_assignAll, findSome?_name_entries hextras]
    rfl
  have hcriteria : (assignAll {} (entries r)).criteria = r.criteria := by
    refine Criteria.ext_get fun f => ?_
    rw [get_criteria_assignAll, findSome?_criterion_entries hextras]
    cases f <;> rfl
  have hactions : (assignAll {} (entries r)).actions = r.actions := by
    refine Actions.ext_get (fun f => ?_) (fun t => ?_)
    · rw [get_actions_assignAll, findSome?_action_entries hextras]
      cases f <;> rfl
    · rw [getToggle_actions_assignAll, findSome?_toggle_entries hextras]
      cases t <;> rfl
  have hrest : (assignAll {} (entries r)).extras = r.extras := by
    rw [extras_assignAll, filter_isExtra_entries hextras]
    rfl
  calc assignAll {} (entries r)
      = ⟨(assignAll {} (entries r)).name, (assignAll {} (entries r)).criteria,
          (assignAll {} (entries r)).actions, (assignAll {} (entries r)).extras⟩ := rfl
    _ = r := by rw [hname, hcriteria, hactions, hrest]

end Written

end Config
end WindowRules
