import WindowRules.Proofs.Session.Changes

/-!
# Sessions that differ only in passing

Two sessions can be told apart by their clocks, by the times in their histories and by the patterns
they remember, and none of this has a say in what becomes of the rules.  What is left of a session
without it is its *bare* form (`Session.bare`), and sessions with the same bare form are alike
(`Session.Alike`).

Every operation that changes a session can as well be carried out in the bare session: it fails for
the same reason or succeeds with the same outcome, and the session after it has the same bare form.
There is one lemma for each operation.
-/

namespace WindowRules

/-- The change without its time. -/
def Change.bare (c : Change) : Change := { c with time := "" }

namespace History

/-- The history without times. -/
def bare (h : History) : History := { h with changes := h.changes.map Change.bare }

theorem bare_bare (h : History) : h.bare.bare = h.bare := by
  simp only [bare, List.map_map]
  rfl

theorem kept_bare (h : History) : h.bare.kept = h.kept.map Change.bare := by
  simp only [kept, bare, ← List.map_take, List.length_map]
  split
  · exact List.map_drop.symm
  · rfl

/-- **Recording does not depend on times.** -/
theorem bare_record (h : History) (c : Change) : (h.record c).bare = h.bare.record c.bare := by
  by_cases h0 : h.capacity = 0
  · have h0' : h.bare.capacity = 0 := h0
    rw [record, if_pos h0, record, if_pos h0']
    simp only [bare, List.map_take]
  · have h0' : h.bare.capacity ≠ 0 := h0
    rw [record, if_neg h0, record, if_neg h0', kept_bare]
    simp only [bare, List.map_append, List.length_map, List.map_cons, List.map_nil]

theorem undo?_bare (h : History) : h.bare.undo? = h.undo?.map fun p => (p.1, p.2.bare) := by
  have hcursor : h.bare.cursor = h.cursor := rfl
  rw [undo?, undo?, hcursor]
  cases h.cursor with
  | zero => rfl
  | succ n =>
    simp only [bare, List.getElem?_map, Option.map_map]
    rfl

theorem redo?_bare (h : History) : h.bare.redo? = h.redo?.map fun p => (p.1, p.2.bare) := by
  simp only [redo?, bare, List.getElem?_map, Option.map_map]
  rfl

end History

namespace Session

/-- The session without its clock, its cache and the times in its history. -/
def bare (s : Session) : Session := { s with history := s.history.bare, cache := {}, now := "" }

theorem bare_bare (s : Session) : s.bare.bare = s.bare := by
  simp only [bare, History.bare_bare]

/-- Two sessions have the same rules and the same history, but for the times of the changes. -/
structure Alike (s t : Session) : Prop where
  contents : t.contents = s.contents
  history : t.history.bare = s.history.bare

theorem alike_iff {s t : Session} : s.Alike t ↔ t.bare = s.bare := by
  constructor
  · rintro ⟨hcontents, hhistory⟩
    obtain ⟨hrules, hdisabled⟩ := Contents.mk.inj hcontents
    simp only [bare, hrules, hdisabled, hhistory]
  · intro h
    have hcontents : t.bare.contents = s.bare.contents := congrArg contents h
    exact ⟨hcontents, congrArg Session.history h⟩

/-- What keeps rules and history keeps the bare form. -/
theorem Keeps.bare_eq {s t : Session} (h : s.Keeps t) : t.bare = s.bare :=
  alike_iff.mp ⟨h.contents, congrArg History.bare h.history⟩

/-- Outcomes that are alike are the same outcome in bare form. -/
theorem map_bare_ok {s t : Session} (hcontents : t.contents = s.contents)
    (hhistory : t.history.bare = s.history.bare) :
    (Except.ok t : Except SessionError Session).map bare = (Except.ok s).map bare :=
  congrArg Except.ok (alike_iff.mp ⟨hcontents, hhistory⟩)

section Changes

variable (s : Session)

theorem history_record_bare (kind : ChangeKind) (index : Nat) (before after : Rule)
    (description : String) : (s.bare.record kind index before after description).history.bare =
      (s.record kind index before after description).history.bare := by
  simp only [record, bare, History.bare_record, History.bare_bare]
  rfl

/-- The rule at an index is the same in the bare session. -/
theorem map_rule?_bind_bare {α β : Type} {g : α → β} {index : Nat}
    {f f' : Rule → Except SessionError α} (h : ∀ r, (f' r).map g = (f r).map g) :
    (s.bare.rule? index >>= f').map g = (s.rule? index >>= f).map g := by
  show (s.rule? index >>= f').map g = _
  cases s.rule? index with
  | error e => rfl
  | ok r => exact h r

/-! ## Changes -/

theorem map_edit_bare (index : Nat) (rule : Rule) (description : String) :
    (s.bare.edit index rule description).map bare = (s.edit index rule description).map bare := by
  refine map_rule?_bind_bare s fun r => ?_
  split
  · exact congrArg Except.ok s.bare_bare
  · exact map_bare_ok rfl (history_record_bare s ..)

theorem map_setField_bare (index : Nat) (key value : String) :
    (s.bare.setField index key value).map bare = (s.setField index key value).map bare := by
  refine map_rule?_bind_bare s fun r => ?_
  cases r.set key value with
  | error e => rfl
  | ok rule => exact map_edit_bare s index rule _

theorem map_unsetField_bare (index : Nat) (key : String) :
    (s.bare.unsetField index key).map (Prod.map id bare) =
      (s.unsetField index key).map (Prod.map id bare) := by
  refine map_rule?_bind_bare s fun r => ?_
  split
  · have hpair : ∀ x : Except SessionError Session,
        (x >>= fun t => .ok (true, t)).map (Prod.map id bare) =
          (x.map bare).map fun t => (true, t) := by
      rintro (e | t) <;> rfl
    have hedit := map_edit_bare s index (r.unset key) ("unset " ++ key)
    exact (hpair _).trans ((congrArg _ hedit).trans (hpair _).symm)
  · exact congrArg (fun t => Except.ok (false, t)) s.bare_bare

theorem map_rename_bare (index : Nat) (name : String) :
    (s.bare.rename index name).map bare = (s.rename index name).map bare := by
  refine map_rule?_bind_bare s fun r => ?_
  show Except.map bare (if r = { r with name := nameOf name } then _ else _) =
    Except.map bare (if r = { r with name := nameOf name } then _ else _)
  split
  · exact congrArg Except.ok s.bare_bare
  · exact map_bare_ok rfl (history_record_bare s ..)

theorem map_delete_bare (index : Nat) :
    (s.bare.delete index).map (Prod.map id bare) = (s.delete index).map (Prod.map id bare) := by
  refine map_rule?_bind_bare s fun r => ?_
  exact congrArg (fun t => Except.ok (r, t)) (alike_iff.mp ⟨rfl, history_record_bare s ..⟩)

theorem map_disable_bare (index : Nat) :
    (s.bare.disable index).map bare = (s.disable index).map bare := by
  refine map_rule?_bind_bare s fun r => ?_
  exact map_bare_ok rfl (history_record_bare s ..)

/-! ## Undoing and redoing -/

theorem map_putBack_bare (r : Restoration) :
    (s.bare.putBack r).map bare = (s.putBack r).map bare := by
  show Except.map bare (if r.index < s.rules.length then _ else _) =
    Except.map bare (if r.index < s.rules.length then _ else _)
  split
  · exact map_bare_ok rfl s.history.bare_bare
  · rfl

theorem map_revert_bare (r : Restoration) :
    (s.bare.revert r).map bare = (s.revert r).map bare := by
  unfold revert
  cases r.kind with
  | edit | rename => exact map_putBack_bare s r
  | delete | disable => exact map_bare_ok rfl s.history.bare_bare

theorem map_reapply_bare (r : Restoration) :
    (s.bare.reapply r).map bare = (s.reapply r).map bare := by
  unfold reapply
  cases r.kind with
  | edit | rename => exact map_putBack_bare s r
  | delete =>
    show Except.map bare (if r.index < s.rules.length then _ else _) =
      Except.map bare (if r.index < s.rules.length then _ else _)
    split
    · exact map_bare_ok rfl s.history.bare_bare
    · rfl
  | disable =>
    have hrules : s.bare.rules = s.rules := rfl
    simp only [hrules]
    cases s.rules[r.index]? with
    | none => rfl
    | some rule => exact map_bare_ok rfl s.history.bare_bare

theorem map_finishStep_bare (moved : Session) (kind : ChangeKind)
    {x x' : Except SessionError Session} (h : x'.map bare = x.map bare) :
    (finishStep moved.bare kind x').map id bare = (finishStep moved kind x).map id bare := by
  rcases x with e | t <;> rcases x' with e' | t'
  · obtain rfl := Except.error.inj h
    exact congrArg (Except.error e', ·) moved.bare_bare
  · exact absurd h nofun
  · exact absurd h nofun
  · exact congrArg (Except.ok (some kind), ·) (Except.ok.inj h)

theorem map_undo_bare : s.bare.undo.map id bare = s.undo.map id bare := by
  unfold undo
  have hundo : s.bare.history.undo? = _ := s.history.undo?_bare
  rw [hundo]
  cases s.history.undo? with
  | none => exact congrArg (Except.ok none, ·) s.bare_bare
  | some p =>
    obtain ⟨r, history⟩ := p
    exact map_finishStep_bare { s with history } r.kind (map_revert_bare { s with history } r)

theorem map_redo_bare : s.bare.redo.map id bare = s.redo.map id bare := by
  unfold redo
  have hredo : s.bare.history.redo? = _ := s.history.redo?_bare
  rw [hredo]
  cases s.history.redo? with
  | none => exact congrArg (Except.ok none, ·) s.bare_bare
  | some p =>
    obtain ⟨r, history⟩ := p
    exact map_finishStep_bare { s with history } r.kind (map_reapply_bare { s with history } r)

end Changes

end Session
end WindowRules
