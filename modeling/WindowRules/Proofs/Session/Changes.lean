import WindowRules.Proofs.Session.Run

/-!
# What changes do

A change in the history names a place, the rule that was there before and the rule that is there
after.  This is not the whole list of rules, and what it means depends on the rules that it is
applied to: a change *fits* some contents if the rule at its place is the one that it knows
(`Change.Fits`), and only then do undoing and redoing invert each other.

Every operation that changes a session records a change that fits what the session holds and does
what the change says (`Session.Records`), or it leaves rules and history alone (`Session.Keeps`).
-/

namespace WindowRules

/-- The rules that a session holds: the active ones and the disabled ones, in their orders. -/
structure Contents where
  rules : Ruleset
  disabled : List Rule
  deriving DecidableEq

/-- The rules that a session holds. -/
def Session.contents (s : Session) : Contents := ⟨s.rules, s.disabled⟩

namespace Change

/-- The rule of the change is where the change says, and disabling it does not alter it. -/
structure Fits (c : Change) (t : Contents) : Prop where
  before : t.rules[c.index]? = some c.before
  disabled : c.kind = .disable → c.after = c.before

/-- What a change makes of the rules of a session. -/
def applyTo (c : Change) (t : Contents) : Contents :=
  match c.kind with
  | .edit | .rename => ⟨t.rules.replace c.index c.after, t.disabled⟩
  | .delete => ⟨t.rules.remove c.index, t.disabled⟩
  | .disable => ⟨t.rules.remove c.index, t.disabled ++ [c.before]⟩

end Change

namespace Session

/-! ## Changing a session -/

/-- Rules and history are the same in two sessions. -/
structure Keeps (s t : Session) : Prop where
  contents : t.contents = s.contents
  history : t.history = s.history

/-- A session comes from another by a change that it records. -/
structure Records (s : Session) (c : Change) (t : Session) : Prop where
  fits : c.Fits s.contents
  contents : t.contents = c.applyTo s.contents
  history : t.history = s.history.record c

theorem Keeps.refl (s : Session) : s.Keeps s := ⟨rfl, rfl⟩

/-- A computation that starts with a rule fails if there is none at the index. -/
theorem rule?_bind_eq_ok {α : Type} {s : Session} {index : Nat} {f : Rule → Except SessionError α}
    {a : α} : (s.rule? index >>= f) = .ok a ↔ ∃ r, s.rules[index]? = some r ∧ f r = .ok a := by
  unfold rule?
  cases hrule : s.rules[index]? with
  | none => simp [bind, Except.bind]
  | some r => simp [bind, Except.bind]

/-- An edit records the rule that was there, unless it is the same rule. -/
theorem edit_eq_ok {s t : Session} {index : Nat} {rule : Rule} {description : String}
    (h : s.edit index rule description = .ok t) :
    ∃ before, s.rules[index]? = some before ∧ (before = rule ∧ t = s ∨
      before ≠ rule ∧ s.Records ⟨.edit, index, before, rule, description, s.now⟩ t) := by
  obtain ⟨before, hbefore, h⟩ := rule?_bind_eq_ok.mp h
  refine ⟨before, hbefore, ?_⟩
  split at h
  · next heq => exact .inl ⟨heq, (Except.ok.inj h).symm⟩
  · next hne =>
    obtain rfl := Except.ok.inj h
    exact .inr ⟨hne, ⟨hbefore, nofun⟩, rfl, rfl⟩

/-- Giving a field a value is an edit. -/
theorem setField_eq_ok {s t : Session} {index : Nat} {key value : String}
    (h : s.setField index key value = .ok t) :
    ∃ before rule, s.rules[index]? = some before ∧ before.set key value = .ok rule ∧
      s.edit index rule ("set " ++ key ++ " = " ++ value) = .ok t := by
  obtain ⟨before, hbefore, h⟩ := rule?_bind_eq_ok.mp h
  cases hset : before.set key value with
  | error e =>
    rw [hset] at h
    exact absurd h nofun
  | ok rule =>
    rw [hset] at h
    exact ⟨before, rule, hbefore, hset, h⟩

/-- Clearing a field is an edit, if the field is present. -/
theorem unsetField_eq_ok {s t : Session} {index : Nat} {key : String} {present : Bool}
    (h : s.unsetField index key = .ok (present, t)) :
    ∃ before, s.rules[index]? = some before ∧ before.has key = present ∧
      (present = false ∧ t = s ∨
        present = true ∧ s.edit index (before.unset key) ("unset " ++ key) = .ok t) := by
  obtain ⟨before, hbefore, h⟩ := rule?_bind_eq_ok.mp h
  refine ⟨before, hbefore, ?_⟩
  split at h
  · next hhas =>
    cases hedit : s.edit index (before.unset key) ("unset " ++ key) with
    | error e =>
      rw [hedit] at h
      exact absurd h nofun
    | ok u =>
      rw [hedit] at h
      obtain ⟨rfl, rfl⟩ := Prod.mk.inj (Except.ok.inj h)
      exact ⟨hhas, .inr ⟨rfl, rfl⟩⟩
  · next hhas =>
    obtain ⟨rfl, rfl⟩ := Prod.mk.inj (Except.ok.inj h)
    exact ⟨Bool.eq_false_iff.mpr hhas, .inl ⟨rfl, rfl⟩⟩

/-- The name that a rule gets by renaming it. -/
def nameOf (name : String) : Option String := if name.isEmpty then none else some name

/-- Renaming records the rule that was there, unless it has the name already. -/
theorem rename_eq_ok {s t : Session} {index : Nat} {name : String}
    (h : s.rename index name = .ok t) :
    ∃ before, s.rules[index]? = some before ∧
      (before = { before with name := nameOf name } ∧ t = s ∨
        before ≠ { before with name := nameOf name } ∧ ∃ description,
          s.Records ⟨.rename, index, before, { before with name := nameOf name }, description,
            s.now⟩
            t) := by
  obtain ⟨before, hbefore, h⟩ := rule?_bind_eq_ok.mp h
  refine ⟨before, hbefore, ?_⟩
  change (if before = { before with name := nameOf name } then pure s else _) = Except.ok t at h
  split at h
  · next heq => exact .inl ⟨heq, (Except.ok.inj h).symm⟩
  · next hne =>
    obtain rfl := Except.ok.inj h
    exact .inr ⟨hne, _, ⟨hbefore, nofun⟩, rfl, rfl⟩

/-- Deleting records the rule that was there. -/
theorem delete_eq_ok {s t : Session} {index : Nat} {rule : Rule}
    (h : s.delete index = .ok (rule, t)) :
    s.rules[index]? = some rule ∧ ∃ description,
      s.Records ⟨.delete, index, rule, {}, description, s.now⟩ t := by
  obtain ⟨before, hbefore, h⟩ := rule?_bind_eq_ok.mp h
  obtain ⟨rfl, rfl⟩ := Prod.mk.inj (Except.ok.inj h)
  exact ⟨hbefore, _, ⟨hbefore, nofun⟩, rfl, rfl⟩

/-- Disabling records the rule that was there, twice. -/
theorem disable_eq_ok {s t : Session} {index : Nat} (h : s.disable index = .ok t) :
    ∃ rule, s.rules[index]? = some rule ∧ ∃ description,
      s.Records ⟨.disable, index, rule, rule, description, s.now⟩ t := by
  obtain ⟨rule, hrule, h⟩ := rule?_bind_eq_ok.mp h
  obtain rfl := Except.ok.inj h
  exact ⟨rule, hrule, _, ⟨hrule, fun _ => rfl⟩, rfl, rfl⟩

theorem exists_of_map_eq_ok {ε α β : Type} {f : α → β} {x : Except ε α} {b : β}
    (h : x.map f = .ok b) : ∃ a, x = .ok a ∧ f a = b := by
  cases x with
  | error e => exact absurd h nofun
  | ok a => exact ⟨a, rfl, Except.ok.inj h⟩

/-- What holds of the outcome of a change holds of the session after it, failed changes included. -/
theorem keeps_or_records_after {s : Session} {x : Except SessionError Session}
    (h : ∀ t, x = .ok t → s.Keeps t ∨ ∃ c, s.Records c t) :
    s.Keeps (s.after x) ∨ ∃ c, s.Records c (s.after x) := by
  cases x with
  | error e => exact .inl (Keeps.refl s)
  | ok t => exact h t rfl

theorem keeps_or_records_of_edit {s t : Session} {index : Nat} {rule : Rule} {description : String}
    (h : s.edit index rule description = .ok t) : s.Keeps t ∨ ∃ c, s.Records c t := by
  obtain ⟨before, -, ⟨-, rfl⟩ | ⟨-, h⟩⟩ := edit_eq_ok h
  · exact .inl (Keeps.refl t)
  · exact .inr ⟨_, h⟩

/-- **An operation other than undoing and redoing keeps rules and history or records what it
does.** -/
theorem keeps_or_records_perform (s : Session) {o : Operation} (hundo : o ≠ .undo)
    (hredo : o ≠ .redo) : s.Keeps (s.perform o) ∨ ∃ c, s.Records c (s.perform o) := by
  cases o with
  | edit index rule description =>
    exact keeps_or_records_after fun t h => keeps_or_records_of_edit h
  | setField index key value =>
    refine keeps_or_records_after fun t h => ?_
    obtain ⟨before, rule, -, -, h⟩ := setField_eq_ok h
    exact keeps_or_records_of_edit h
  | unsetField index key =>
    refine keeps_or_records_after fun t hmap => ?_
    obtain ⟨⟨present, u⟩, h, rfl⟩ := exists_of_map_eq_ok hmap
    obtain ⟨before, -, -, ⟨-, rfl⟩ | ⟨-, h⟩⟩ := unsetField_eq_ok h
    · exact .inl (Keeps.refl _)
    · exact keeps_or_records_of_edit h
  | rename index name =>
    refine keeps_or_records_after fun t h => ?_
    obtain ⟨before, -, ⟨-, rfl⟩ | ⟨-, description, h⟩⟩ := rename_eq_ok h
    · exact .inl (Keeps.refl _)
    · exact .inr ⟨_, h⟩
  | delete index =>
    refine keeps_or_records_after fun t hmap => ?_
    obtain ⟨⟨rule, u⟩, h, rfl⟩ := exists_of_map_eq_ok hmap
    obtain ⟨-, description, h⟩ := delete_eq_ok h
    exact .inr ⟨_, h⟩
  | disable index =>
    refine keeps_or_records_after fun t h => ?_
    obtain ⟨rule, -, description, h⟩ := disable_eq_ok h
    exact .inr ⟨_, h⟩
  | undo => exact absurd rfl hundo
  | redo => exact absurd rfl hredo
  | resolve w => exact .inl ⟨rfl, rfl⟩
  | audit windows => exact .inl ⟨rfl, rfl⟩
  | write => exact .inl (Keeps.refl s)

end Session

/-! ## Undoing and redoing -/

theorem eraseLast_concat {α : Type} [DecidableEq α] (x : α) (xs : List α) :
    eraseLast x (xs ++ [x]) = xs := by
  rw [eraseLast, List.reverse_append, List.reverse_singleton, List.singleton_append,
    List.erase_cons_head, List.reverse_reverse]

namespace Ruleset

/-- A rule that was replaced and is put back. -/
theorem replace_replace {rs : Ruleset} {index : Nat} {r : Rule} (h : rs[index]? = some r)
    (q : Rule) :
    (rs.replace index q).replace index r = rs := by
  obtain ⟨hlt, rfl⟩ := List.getElem?_eq_some_iff.mp h
  rw [replace, replace, List.set_set, List.set_getElem_self]

/-- A rule that was removed and is put back. -/
theorem insert_remove {rs : Ruleset} {index : Nat} {r : Rule} (h : rs[index]? = some r) :
    (rs.remove index).insert index r = rs := by
  obtain ⟨hlt, rfl⟩ := List.getElem?_eq_some_iff.mp h
  have hlen : (rs.take index).length = index := List.length_take_of_le (Nat.le_of_lt hlt)
  rw [insert, remove, List.eraseIdx_eq_take_drop_succ, List.take_left' hlen, List.drop_left' hlen,
    List.getElem_cons_drop, List.take_append_drop]

end Ruleset

namespace Session

/-- Putting a rule back where there is a rule. -/
theorem putBack_of_lt {s : Session} {r : Restoration} (h : r.index < s.rules.length) :
    s.putBack r = .ok { s with rules := s.rules.replace r.index r.rule }.prune :=
  if_pos h

/-- **A change that fits is undone without a trace.** -/
theorem revert_applyTo {s : Session} {c : Change} {t : Contents} (hfits : c.Fits t)
    (hs : s.contents = c.applyTo t) :
    ∃ u, s.revert ⟨c.kind, c.index, c.before⟩ = .ok u ∧ u.contents = t ∧ u.history = s.history := by
  have hrules : s.rules = (c.applyTo t).rules := congrArg Contents.rules hs
  have hdisabled : s.disabled = (c.applyTo t).disabled := congrArg Contents.disabled hs
  have hlt : c.index < t.rules.length := (List.getElem?_eq_some_iff.mp hfits.before).1
  cases hkind : c.kind with
  | edit | rename =>
    rw [Change.applyTo, hkind] at hrules hdisabled
    have hindex : c.index < s.rules.length := by
      rw [hrules]
      exact List.length_set.symm ▸ hlt
    refine ⟨_, putBack_of_lt hindex, ?_, rfl⟩
    show (⟨s.rules.replace c.index c.before, s.disabled⟩ : Contents) = t
    rw [hrules, hdisabled, Ruleset.replace_replace hfits.before]
  | delete =>
    rw [Change.applyTo, hkind] at hrules hdisabled
    refine ⟨_, rfl, ?_, rfl⟩
    show (⟨s.rules.insert c.index c.before, s.disabled⟩ : Contents) = t
    rw [hrules, hdisabled, Ruleset.insert_remove hfits.before]
  | disable =>
    rw [Change.applyTo, hkind] at hrules hdisabled
    refine ⟨_, rfl, ?_, rfl⟩
    -- other rules like it may have been disabled before, and the last one is the one to take back
    show (⟨s.rules.insert c.index c.before, eraseLast c.before s.disabled⟩ : Contents) = t
    rw [hrules, hdisabled, Ruleset.insert_remove hfits.before, eraseLast_concat]

/-- **A change that fits is redone on the rule that it knows.** -/
theorem reapply_of_fits {s : Session} {c : Change} (hfits : c.Fits s.contents) :
    ∃ u, s.reapply ⟨c.kind, c.index, History.Change.redone c⟩ = .ok u ∧
      u.contents = c.applyTo s.contents ∧ u.history = s.history := by
  have hbefore : s.rules[c.index]? = some c.before := hfits.before
  have hlt : c.index < s.rules.length := (List.getElem?_eq_some_iff.mp hbefore).1
  unfold Change.applyTo History.Change.redone
  cases hkind : c.kind with
  | edit | rename => exact ⟨_, putBack_of_lt hlt, rfl, rfl⟩
  | delete => exact ⟨_, if_pos hlt, rfl, rfl⟩
  | disable =>
    have hreapply : s.reapply ⟨.disable, c.index, c.after⟩ = .ok { s with
        rules := s.rules.remove c.index, disabled := s.disabled ++ [c.before] }.prune := by
      unfold reapply
      rw [hbefore]
    exact ⟨_, hreapply, rfl, rfl⟩

/-- The rule that redoing a removal takes away is the one that the change knows. -/
theorem getElem?_redone {c : Change} {t : Contents} (hfits : c.Fits t)
    (hkind : c.kind = .delete ∨ c.kind = .disable) :
    t.rules[c.index]? = some (History.Change.redone c) := by
  rw [hfits.before, History.Change.redone]
  rcases hkind with hkind | hkind
  · rw [hkind]
  · rw [hkind, hfits.disabled hkind]

end Session

end WindowRules
