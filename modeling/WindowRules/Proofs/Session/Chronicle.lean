import Mathlib.Data.List.Induction
import WindowRules.Proofs.History
import WindowRules.Proofs.Session.Changes

/-!
# The chronicle of a session

The history of a session holds one rule and one index for every change, and no list of rules.  Still
it is exact.  Behind every log there is a chronicle: the contents that the session had between any
two of its changes, the last of them being what it holds now if nothing was undone.  Undoing and
redoing go back and forth in the chronicle, one place at a time, and nothing is lost or confused on
the way: not the order of the rules, not which of several equal rules was disabled, and not the
changes that the capacity of the log has already dropped.

A chronicle is a family `T 0, T 1, …` of contents.  Of these only those up to the size of the log
mean something.  The invariant is `Session.Chronicle`; what each operation does to it is short:

* a call that fails, or changes nothing, leaves the chronicle as it is;
* undoing and redoing move the cursor in it (`Chronicle.undo`, `Chronicle.redo`);
* recording a change cuts it behind the cursor, drops its first contents if the log is full, and
  adds the new contents at its end (`Chronicle.record`).

The contents of a chronicle are contents that the session had: recording adds the present ones, and
the other operations add none.
-/

namespace WindowRules
namespace Session

variable {s t : Session} {T : Nat → Contents}

/-- `T 0, T 1, …` are the contents between the changes in the history of a session. -/
structure Chronicle (s : Session) (T : Nat → Contents) : Prop where
  bounded : s.history.Bounded
  /-- The session holds what stands at the cursor. -/
  current : T s.history.cursor = s.contents
  /-- Every change finds the rule that it knows in the contents before it. -/
  fits : ∀ i (c : Change), s.history.changes[i]? = some c → c.Fits (T i)
  /-- The contents after a change are what the change makes of those before it. -/
  next : ∀ i (c : Change), s.history.changes[i]? = some c → T (i + 1) = c.applyTo (T i)

/-- Undoing goes back by one in `T`, unless the cursor is at the start. -/
structure UndoesIn (s : Session) (T : Nat → Contents) : Prop where
  atStart : s.history.cursor = 0 → s.undo = (.ok none, s)
  back : 0 < s.history.cursor → ∃ c t, s.history.changes[s.history.cursor - 1]? = some c ∧
    s.undo = (.ok (some c.kind), t) ∧ t.contents = T (s.history.cursor - 1) ∧
    t.history = { s.history with cursor := s.history.cursor - 1 }

/-- Redoing goes forward by one in `T`, unless the cursor is at the end, and a rule that it takes
away is the one that the history has. -/
structure RedoesIn (s : Session) (T : Nat → Contents) : Prop where
  atEnd : s.history.cursor = s.history.size → s.redo = (.ok none, s)
  forward : s.history.cursor < s.history.size → ∃ c t,
    s.history.changes[s.history.cursor]? = some c ∧
    s.redo = (.ok (some c.kind), t) ∧ t.contents = T (s.history.cursor + 1) ∧
    t.history = { s.history with cursor := s.history.cursor + 1 } ∧
    (c.kind = .delete ∨ c.kind = .disable →
      s.rules[c.index]? = some (History.Change.redone c))

/-! ## Moving in the chronicle -/

theorem Chronicle.keeps (h : s.Chronicle T) (hkeeps : s.Keeps t) : t.Chronicle T where
  bounded := hkeeps.history ▸ h.bounded
  current := by rw [hkeeps.history, hkeeps.contents, h.current]
  fits := hkeeps.history ▸ h.fits
  next := hkeeps.history ▸ h.next

/-- A session that stands elsewhere in the same chronicle. -/
theorem Chronicle.moveTo (h : s.Chronicle T) {n : Nat} (hn : n ≤ s.history.size)
    (hhistory : t.history = { s.history with cursor := n }) (hcontents : t.contents = T n) :
    t.Chronicle T where
  bounded := by
    rw [hhistory]
    exact ⟨hn, h.bounded.size_le⟩
  current := by rw [hhistory, hcontents]
  fits := by
    rw [hhistory]
    exact h.fits
  next := by
    rw [hhistory]
    exact h.next

theorem undo_of_cursor_eq_zero (h0 : s.history.cursor = 0) : s.undo = (.ok none, s) := by
  rw [undo, History.undo?_of_cursor_eq_zero h0]

/-- **Undoing goes back in the chronicle.** -/
theorem Chronicle.undo (h : s.Chronicle T) : s.UndoesIn T where
  atStart := undo_of_cursor_eq_zero
  back hpos := by
    obtain ⟨n, hn⟩ := Nat.exists_eq_add_one.mpr hpos
    have hlt : n + 1 ≤ s.history.changes.length := hn ▸ h.bounded.cursor_le
    have hc := List.getElem?_eq_getElem hlt
    have hcontents : s.contents = s.history.changes[n].applyTo (T n) := by
      rw [← h.current, hn, h.next n _ hc]
    obtain ⟨t, hrevert, htcontents, hthistory⟩ :=
      revert_applyTo (s := { s with history := { s.history with cursor := n } })
        (h.fits n _ hc) hcontents
    rw [hn, Nat.add_sub_cancel]
    refine ⟨_, t, hc, ?_, htcontents, hthistory⟩
    simp only [Session.undo, History.undo?_of_getElem? hn hc, hrevert, finishStep]

/-- **Redoing goes forward in the chronicle.** -/
theorem Chronicle.redo (h : s.Chronicle T) : s.RedoesIn T where
  atEnd hsize := by rw [Session.redo, History.redo?_of_cursor_eq_size hsize]
  forward hlt := by
    have hc := List.getElem?_eq_getElem hlt
    have hfits : s.history.changes[s.history.cursor].Fits s.contents := h.current ▸ h.fits _ _ hc
    obtain ⟨t, hreapply, htcontents, hthistory⟩ :=
      reapply_of_fits (s := { s with history := { s.history with cursor := s.history.cursor + 1 } })
        hfits
    refine ⟨_, t, hc, ?_, ?_, hthistory, getElem?_redone hfits⟩
    · simp only [Session.redo, History.redo?_of_getElem? hc, hreapply, finishStep]
    · rw [htcontents, h.next _ _ hc, h.current]
      rfl

/-! ## Adding to the chronicle -/

/-- The chronicle after a change that led to `u`: `k` contents are dropped at its front, `n + 1` of
the others are kept, and `u` follows them. -/
def extend (T : Nat → Contents) (k n : Nat) (u : Contents) (i : Nat) : Contents :=
  if i ≤ n then T (i + k) else u

theorem extend_of_le {k n i : Nat} {u : Contents} (hi : i ≤ n) : extend T k n u i = T (i + k) :=
  if_pos hi

theorem extend_succ {k n : Nat} {u : Contents} : extend T k n u (n + 1) = u :=
  if_neg (Nat.not_succ_le_self n)

/-- **A recorded change extends the chronicle**, if the log has room for any change at all. -/
theorem Chronicle.record (h : s.Chronicle T) (h0 : s.history.capacity ≠ 0) {c : Change}
    (hrecords : s.Records c t) :
    t.Chronicle (extend T s.history.evicted s.history.kept.length t.contents) := by
  have hcursor := History.length_kept_add_evicted h.bounded h0
  have hlast : T (s.history.kept.length + s.history.evicted) = s.contents := hcursor ▸ h.current
  refine ⟨?_, ?_, fun i d hd => ?_, fun i d hd => ?_⟩
  · rw [hrecords.history]
    exact h.bounded.record c
  · rw [hrecords.history, History.record_of_capacity_ne_zero h0]
    exact extend_succ
  · -- a change is either kept, and its contents have moved with it, or it is the new one
    rw [hrecords.history] at hd
    rcases History.getElem?_record h.bounded h0 hd with ⟨hi, hd⟩ | ⟨rfl, rfl⟩
    · rw [extend_of_le (Nat.le_of_lt hi)]
      exact h.fits _ d hd
    · rw [extend_of_le (Nat.le_refl _), hlast]
      exact hrecords.fits
  · rw [hrecords.history] at hd
    rcases History.getElem?_record h.bounded h0 hd with ⟨hi, hd⟩ | ⟨rfl, rfl⟩
    · rw [extend_of_le (Nat.le_of_lt hi), extend_of_le hi, Nat.succ_add]
      exact h.next _ d hd
    · rw [extend_succ, extend_of_le (Nat.le_refl _), hlast, hrecords.contents]

/-- Without room the chronicle has the present contents only. -/
theorem Chronicle.record_of_capacity_eq_zero (h : s.Chronicle T) (h0 : s.history.capacity = 0)
    {c : Change} (hrecords : s.Records c t) : t.Chronicle fun _ => t.contents := by
  have hhistory : t.history = s.history :=
    hrecords.history.trans (History.record_of_capacity_eq_zero h.bounded h0 c)
  have hempty : t.history.changes = [] := by
    rw [hhistory, ← List.length_eq_zero_iff]
    exact Nat.le_zero.mp (h0 ▸ h.bounded.size_le)
  refine ⟨hhistory ▸ h.bounded, rfl, fun i d hd => ?_, fun i d hd => ?_⟩
  · rw [hempty] at hd
    exact absurd hd nofun
  · rw [hempty] at hd
    exact absurd hd nofun

/-! ## One operation -/

/-- No contents are made up: each of `T' 0, …, T' n` is what `t` holds, or one of `T 0, …, T m`,
where `n` and `m` are the sizes of the logs of `t` and `s`. -/
def Recalls (s t : Session) (T T' : Nat → Contents) : Prop :=
  ∀ i ≤ t.history.size, T' i = t.contents ∨ ∃ j ≤ s.history.size, T' i = T j

theorem recalls_of_size_eq (hsize : t.history.size = s.history.size) : s.Recalls t T T :=
  fun i hi => .inr ⟨i, hsize ▸ hi, rfl⟩

theorem Chronicle.exists_of_records (h : s.Chronicle T) {c : Change} (hrecords : s.Records c t) :
    ∃ T', t.Chronicle T' ∧ s.Recalls t T T' := by
  by_cases h0 : s.history.capacity = 0
  · exact ⟨_, h.record_of_capacity_eq_zero h0 hrecords, fun i hi => .inl rfl⟩
  · refine ⟨_, h.record h0 hrecords, fun i hi => ?_⟩
    rw [hrecords.history, History.size_record h0] at hi
    rcases Nat.le_or_eq_of_le_succ hi with hi | rfl
    · have hcursor := History.length_kept_add_evicted h.bounded h0
      have hle := h.bounded.cursor_le
      exact .inr ⟨i + s.history.evicted, by omega, extend_of_le hi⟩
    · exact .inl extend_succ

theorem Chronicle.after_undo (h : s.Chronicle T) :
    s.undo.2.Chronicle T ∧ s.undo.2.history.size = s.history.size := by
  rcases Nat.eq_zero_or_pos s.history.cursor with h0 | hpos
  · rw [h.undo.atStart h0]
    exact ⟨h, rfl⟩
  · obtain ⟨c, t, -, hundo, hcontents, hhistory⟩ := h.undo.back hpos
    have hn : s.history.cursor - 1 ≤ s.history.size :=
      Nat.le_trans (Nat.sub_le _ _) h.bounded.cursor_le
    rw [hundo]
    exact ⟨h.moveTo hn hhistory hcontents, by rw [hhistory]; rfl⟩

theorem Chronicle.after_redo (h : s.Chronicle T) :
    s.redo.2.Chronicle T ∧ s.redo.2.history.size = s.history.size := by
  rcases Nat.eq_or_lt_of_le h.bounded.cursor_le with hend | hlt
  · rw [h.redo.atEnd hend]
    exact ⟨h, rfl⟩
  · obtain ⟨c, t, -, hredo, hcontents, hhistory, -⟩ := h.redo.forward hlt
    rw [hredo]
    exact ⟨h.moveTo hlt hhistory hcontents, by rw [hhistory]; rfl⟩

/-- **Every operation leads from chronicle to chronicle.** -/
theorem Chronicle.exists_perform (h : s.Chronicle T) (o : Operation) :
    ∃ T', (s.perform o).Chronicle T' ∧ s.Recalls (s.perform o) T T' := by
  by_cases hundo : o = .undo
  · rw [hundo]
    exact ⟨T, h.after_undo.1, recalls_of_size_eq h.after_undo.2⟩
  by_cases hredo : o = .redo
  · rw [hredo]
    exact ⟨T, h.after_redo.1, recalls_of_size_eq h.after_redo.2⟩
  rcases keeps_or_records_perform s hundo hredo with hkeeps | ⟨c, hrecords⟩
  · exact ⟨T, h.keeps hkeeps, recalls_of_size_eq (congrArg History.size hkeeps.history)⟩
  · exact h.exists_of_records hrecords

/-! ## Runs -/

theorem chronicle_ofRules (rules : Ruleset) (capacity : Nat) :
    (ofRules rules capacity).Chronicle fun _ => ⟨rules, []⟩ where
  bounded := History.bounded_ofCapacity capacity
  current := rfl
  fits _ _ := nofun
  next _ _ := nofun

/-- **Every run leaves a chronicle**, and what stands in it is what the session held at some time of
the run. -/
theorem exists_chronicle_run (rules : Ruleset) (capacity : Nat) (calls : List Call) :
    ∃ T, ((ofRules rules capacity).run calls).Chronicle T ∧
      ∀ i ≤ ((ofRules rules capacity).run calls).history.size,
        ∃ past, past <+: calls ∧ ((ofRules rules capacity).run past).contents = T i := by
  induction calls using List.reverseRecOn with
  | nil =>
    exact ⟨_, chronicle_ofRules rules capacity, fun i _ => ⟨[], List.nil_prefix, rfl⟩⟩
  | append_singleton calls c ih =>
    obtain ⟨T, hT, hpast⟩ := ih
    rw [run_concat]
    -- the time of the call changes neither rules nor history
    have hclock : Chronicle { (ofRules rules capacity).run calls with now := c.time } T :=
      hT.keeps ⟨rfl, rfl⟩
    obtain ⟨T', hT', hrecalls⟩ := hclock.exists_perform c.operation
    refine ⟨T', hT', fun i hi => ?_⟩
    rcases hrecalls i hi with hnow | ⟨j, hj, hbefore⟩
    · exact ⟨calls ++ [c], List.prefix_rfl, by rw [run_concat, hnow]; rfl⟩
    · obtain ⟨past, hbegin, hpast⟩ := hpast j hj
      exact ⟨past, hbegin.trans (List.prefix_append calls [c]), hpast.trans hbefore.symm⟩

/-- **The history of a session is exact.**  After any calls there are contents `T 0, …, T n`, where
`n` is the size of the log, such that each is one that the session had, the one at the cursor is the
present one, and each change leads from one to the next.  Undoing and redoing are never errors; they
do nothing at the ends of the log, and elsewhere they lead to exactly the contents before or
after. -/
theorem history_exact (rules : Ruleset) (capacity : Nat) (calls : List Call) :
    ∃ T, ((ofRules rules capacity).run calls).Chronicle T ∧
      (∀ i ≤ ((ofRules rules capacity).run calls).history.size,
        ∃ past, past <+: calls ∧ ((ofRules rules capacity).run past).contents = T i) ∧
      ((ofRules rules capacity).run calls).UndoesIn T ∧
      ((ofRules rules capacity).run calls).RedoesIn T := by
  obtain ⟨T, hT, hpast⟩ := exists_chronicle_run rules capacity calls
  exact ⟨T, hT, hpast, hT.undo, hT.redo⟩

/-- Equal rules are disabled one after the other, and the log has room for one change: undoing twice
brings the second of them back, and the first stays where it is. -/
example : ((ofRules [{}, {}, { name := some "a" }] 1).run
    [⟨"", .disable 0⟩, ⟨"", .disable 0⟩, ⟨"", .undo⟩, ⟨"", .undo⟩]).contents =
      ⟨[{}, { name := some "a" }], [{}]⟩ := by
  decide

end Session
end WindowRules
