import Mathlib.Logic.Function.Iterate
import WindowRules.Proofs.History

/-!
# The history as a window on an unbounded log

A history forgets its oldest changes.  Apart from that it is the simplest of all logs, two lists:
the changes that can be undone and those that can be redone (`UnboundedLog`).  To say so, a history
and such a log are given the same calls (`Twin.run`), and what the history has lost is counted on
the way.  The log is not asked to undo what the history no longer has.

After any calls the changes of the history are those of the log without the oldest ones, as many as
were lost (`Twin.Linked`), so the answers are the same (`Twin.Refines`).  Two facts about a single
call carry this:  undoing either finds the cursor at the start or takes the last change that the log
can undo (`Twin.Linked.undo_cases`), and redoing finds nothing exactly where the log finds nothing
(`Twin.Linked.redo_cases`).
-/

namespace WindowRules

/-- A log of changes that forgets nothing. -/
structure UnboundedLog where
  /-- The changes that can be undone, the oldest first. -/
  past : List Change := []
  /-- The changes that can be redone, the next first. -/
  future : List Change := []

namespace UnboundedLog

def changes (l : UnboundedLog) : List Change := l.past ++ l.future

def record (l : UnboundedLog) (c : Change) : UnboundedLog := ⟨l.past ++ [c], []⟩

/-- Takes the last change back: the rule is to be as it was before. -/
def undo? (l : UnboundedLog) : Option (Restoration × UnboundedLog) :=
  l.past.getLast?.map fun c =>
    (⟨c.kind, c.index, c.before⟩, ⟨l.past.dropLast, c :: l.future⟩)

/-- Makes the next change again: a rule that was deleted is to be deleted once more, any other is to
be as it was after the change. -/
def redo? (l : UnboundedLog) : Option (Restoration × UnboundedLog) :=
  l.future.head?.map fun c =>
    (⟨c.kind, c.index, if c.kind = .delete then c.before else c.after⟩,
      ⟨l.past ++ [c], l.future.tail⟩)

end UnboundedLog

namespace History

/-- A call of an operation of a history. -/
inductive Move where
  | record (c : Change)
  | undo
  | redo

/-- The history after undoing, if there is a change to undo. -/
def back (h : History) : History := (h.undo?.map (·.2)).getD h

/-- The history after redoing, if there is a change to redo. -/
def forth (h : History) : History := (h.redo?.map (·.2)).getD h

/-- How many changes a recording loses of those that could be undone before and of the new one. -/
def lost (h : History) (c : Change) : Nat := h.cursor + 1 - (h.record c).size

/-! ## Walking back and forth -/

section Walk

variable {h : History} (hb : h.Bounded)
include hb

/-- There is a change in front of the cursor, unless it is at the start. -/
theorem exists_getElem?_of_cursor_eq {n : Nat} (hn : h.cursor = n + 1) :
    ∃ c, h.changes[n]? = some c := by
  have hle := hb.cursor_le
  rw [hn] at hle
  exact ⟨_, List.getElem?_eq_getElem hle⟩

theorem back_eq : h.back = { h with cursor := h.cursor - 1 } := by
  rw [back]
  cases hn : h.cursor with
  | zero =>
    rw [undo?_of_cursor_eq_zero hn, Option.map_none, Option.getD_none, Nat.zero_sub, ← hn]
  | succ n =>
    obtain ⟨c, hc⟩ := exists_getElem?_of_cursor_eq hb hn
    rw [undo?_of_getElem? hn hc]
    rfl

/-- Redoing what was undone. -/
theorem forth_back (hpos : 0 < h.cursor) : h.back.forth = h := by
  obtain ⟨n, hn⟩ := Nat.exists_eq_add_one.mpr hpos
  obtain ⟨c, hc⟩ := exists_getElem?_of_cursor_eq hb hn
  have hback : h.back = { h with cursor := n } := by
    rw [back_eq hb, hn, Nat.add_sub_cancel]
  rw [hback, forth, redo?_of_getElem? (h := { h with cursor := n }) hc, Option.map_some,
    Option.getD_some, ← hn]

theorem iterate_back (n : Nat) : back^[n] h = { h with cursor := h.cursor - n } := by
  induction n with
  | zero => rfl
  | succ n ih =>
    have hbounded : Bounded { h with cursor := h.cursor - n } :=
      ⟨Nat.le_trans (Nat.sub_le _ _) hb.cursor_le, hb.size_le⟩
    rw [Function.iterate_succ_apply', ih, back_eq hbounded, Nat.sub_sub]

/-- **Undoing some changes and redoing as many changes nothing.** -/
theorem iterate_forth_back {n : Nat} (hn : n ≤ h.cursor) : forth^[n] (back^[n] h) = h := by
  induction n with
  | zero => rfl
  | succ n ih =>
    have hbounded : Bounded { h with cursor := h.cursor - n } :=
      ⟨Nat.le_trans (Nat.sub_le _ _) hb.cursor_le, hb.size_le⟩
    -- the last undoing and the first redoing cancel
    rw [Function.iterate_succ_apply' back, Function.iterate_succ_apply forth, iterate_back hb n,
      forth_back hbounded (Nat.sub_pos_of_lt hn), ← iterate_back hb n]
    exact ih (Nat.le_of_succ_le hn)

theorem canUndo_iff : h.canUndo = true ↔ ∃ x, h.undo? = some x := by
  rw [canUndo, decide_eq_true_eq]
  constructor
  · intro hpos
    obtain ⟨n, hn⟩ := Nat.exists_eq_add_one.mpr hpos
    obtain ⟨c, hc⟩ := exists_getElem?_of_cursor_eq hb hn
    exact ⟨_, undo?_of_getElem? hn hc⟩
  · rintro ⟨x, hx⟩
    refine Nat.pos_of_ne_zero fun h0 => ?_
    rw [undo?_of_cursor_eq_zero h0] at hx
    exact absurd hx nofun

theorem lost_eq (h0 : h.capacity ≠ 0) (c : Change) : h.lost c = h.evicted := by
  have hlen := length_kept_add_evicted hb h0
  rw [lost, size_record h0]
  omega

end Walk

theorem canRedo_iff (h : History) : h.canRedo = true ↔ ∃ x, h.redo? = some x := by
  rw [canRedo, decide_eq_true_eq, redo?, size]
  constructor
  · intro hlt
    exact ⟨_, by rw [List.getElem?_eq_getElem hlt, Option.map_some]⟩
  · rintro ⟨x, hx⟩
    obtain ⟨c, hc, -⟩ := Option.map_eq_some_iff.mp hx
    exact (List.getElem?_eq_some_iff.mp hc).1

theorem redone_eq (c : Change) :
    Change.redone c = if c.kind = .delete then c.before else c.after := by
  cases c with
  | mk kind => cases kind <;> rfl

end History

/-! ## A history and a log side by side -/

/-- A history and an unbounded log, and how many changes the history has lost. -/
structure Twin where
  history : History
  log : UnboundedLog := {}
  evictions : Nat := 0

namespace Twin

/-- The same call of both, except for undoing what the history does not have. -/
def step (p : Twin) : History.Move → Twin
  | .record c => ⟨p.history.record c, p.log.record c, p.evictions + p.history.lost c⟩
  | .undo =>
    match p.history.undo? with
    | none => p
    | some (_, h) => { p with history := h, log := (p.log.undo?.map (·.2)).getD p.log }
  | .redo => { p with history := p.history.forth, log := (p.log.redo?.map (·.2)).getD p.log }

/-- Both after some calls, from the start. -/
def run (capacity : Nat) (moves : List History.Move) : Twin :=
  moves.foldl step { history := .ofCapacity capacity }

/-- The changes of the history are the last ones of the log, and the cursor stands where in the log
past and future meet. -/
structure Linked (p : Twin) (capacity : Nat) : Prop where
  capacity_eq : p.history.capacity = capacity
  bounded : p.history.Bounded
  evictions_le : p.evictions ≤ p.log.past.length
  changes : p.history.changes = p.log.past.drop p.evictions ++ p.log.future
  cursor : p.history.cursor = (p.log.past.drop p.evictions).length

/-- A history says what the unbounded log says, as far as it goes back. -/
structure Refines (p : Twin) (capacity : Nat) : Prop where
  /-- The changes are those of the log without the oldest ones that were lost. -/
  changes : p.history.changes = p.log.changes.drop p.evictions
  evictions_le : p.evictions ≤ p.log.past.length
  cursor : p.history.cursor = p.log.past.length - p.evictions
  cursor_le : p.history.cursor ≤ p.history.size
  size_le : p.history.size ≤ capacity
  /-- A change that is undone is the one that the log undoes. -/
  undo : ∀ r h, p.history.undo? = some (r, h) → ∃ l, p.log.undo? = some (r, l)
  /-- A change that is redone is the one that the log redoes. -/
  redo : ∀ r h, p.history.redo? = some (r, h) → ∃ l, p.log.redo? = some (r, l)
  redo_eq_none_iff : p.history.redo? = none ↔ p.log.redo? = none
  /-- A recording loses one change if the log is full of changes that can be undone, and else
  none. -/
  lost : ∀ c, p.history.lost c = if p.history.cursor = capacity then 1 else 0
  canUndo_iff : p.history.canUndo = true ↔ ∃ x, p.history.undo? = some x
  canRedo_iff : p.history.canRedo = true ↔ ∃ x, p.history.redo? = some x
  walk : ∀ n ≤ p.history.cursor, History.forth^[n] (History.back^[n] p.history) = p.history

section Linked

variable {p : Twin} {capacity : Nat} (hp : p.Linked capacity)
include hp

theorem Linked.size_eq : p.history.size = p.history.cursor + p.log.future.length := by
  rw [History.size, hp.changes, List.length_append, hp.cursor]

/-! ## One call -/

/-- **Undoing** finds the cursor at the start, or it takes the last change that the log can undo. -/
theorem Linked.undo_cases : p.history.cursor = 0 ∧ p.history.undo? = none ∨
    ∃ past c, p.log.past = past ++ [c] ∧ p.evictions ≤ past.length ∧
      p.history.undo? = some (⟨c.kind, c.index, c.before⟩,
        { p.history with cursor := (past.drop p.evictions).length }) := by
  rcases Nat.eq_zero_or_pos p.history.cursor with h0 | hpos
  · exact .inl ⟨h0, History.undo?_of_cursor_eq_zero h0⟩
  · right
    have hcursor := hp.cursor
    rw [List.length_drop] at hcursor
    rcases List.eq_nil_or_concat p.log.past with hnil | ⟨past, c, hpast⟩
    · rw [hnil, List.length_nil] at hcursor
      omega
    · rw [hpast, List.concat_eq_append, List.length_append, List.length_singleton] at hcursor
      have hle : p.evictions ≤ past.length := by omega
      rw [List.concat_eq_append] at hpast
      have hdrop : p.log.past.drop p.evictions = past.drop p.evictions ++ [c] := by
        rw [hpast, List.drop_append_of_le_length hle]
      refine ⟨past, c, hpast, hle, History.undo?_of_getElem? ?_ ?_⟩
      · rw [hp.cursor, hdrop, List.length_append, List.length_singleton]
      · rw [hp.changes, hdrop, List.append_assoc, List.getElem?_append_right (Nat.le_refl _),
          Nat.sub_self]
        rfl

/-- **Redoing** finds nothing if the log finds nothing, or it takes the next change of the log. -/
theorem Linked.redo_cases : p.log.future = [] ∧ p.history.redo? = none ∨
    ∃ c future, p.log.future = c :: future ∧
      p.history.redo? = some (⟨c.kind, c.index, History.Change.redone c⟩,
        { p.history with cursor := p.history.cursor + 1 }) := by
  cases hfuture : p.log.future with
  | nil =>
    refine .inl ⟨rfl, History.redo?_of_cursor_eq_size ?_⟩
    rw [hp.size_eq, hfuture, List.length_nil, Nat.add_zero]
  | cons c future =>
    refine .inr ⟨c, future, rfl, History.redo?_of_getElem? ?_⟩
    rw [hp.changes, hfuture, hp.cursor, List.getElem?_append_right (Nat.le_refl _), Nat.sub_self]
    rfl

theorem Linked.record (h0 : 0 < capacity) (c : Change) : (p.step (.record c)).Linked capacity := by
  have hcapacity : p.history.capacity ≠ 0 := hp.capacity_eq ▸ Nat.pos_iff_ne_zero.mp h0
  have hpast : p.history.changes.take p.history.cursor = p.log.past.drop p.evictions := by
    rw [hp.changes, hp.cursor, List.take_left]
  have hlost := History.lost_eq hp.bounded hcapacity c
  have hkept : p.history.kept = p.log.past.drop (p.evictions + p.history.lost c) := by
    rw [History.kept_eq_drop hp.bounded, hpast, List.drop_drop, hlost]
  have hle : p.evictions + p.history.lost c ≤ p.log.past.length := by
    have hlen := History.length_kept_add_evicted hp.bounded hcapacity
    have hevictions := hp.evictions_le
    rw [hkept, hp.cursor, hlost, List.length_drop, List.length_drop] at hlen
    omega
  have hdrop :
      (p.log.past ++ [c]).drop (p.evictions + p.history.lost c) = p.history.kept ++ [c] := by
    rw [List.drop_append_of_le_length hle, hkept]
  have hrecord := History.record_of_capacity_ne_zero hcapacity c
  refine ⟨?_, hp.bounded.record c, ?_, ?_, ?_⟩
  · show (p.history.record c).capacity = capacity
    rw [hrecord, ← hp.capacity_eq]
  · show _ ≤ (p.log.past ++ [c]).length
    rw [List.length_append]
    exact Nat.le_trans hle (Nat.le_add_right _ _)
  · show (p.history.record c).changes =
      (p.log.past ++ [c]).drop (p.evictions + p.history.lost c) ++ []
    rw [hrecord, hdrop, List.append_nil]
  · show (p.history.record c).cursor =
      ((p.log.past ++ [c]).drop (p.evictions + p.history.lost c)).length
    rw [hrecord, hdrop, List.length_append]
    rfl

theorem Linked.undo : (p.step .undo).Linked capacity := by
  rcases hp.undo_cases with ⟨-, hnone⟩ | ⟨past, c, hpast, hle, hsome⟩
  · rw [step, hnone]
    exact hp
  · have hundo : p.log.undo? = some (⟨c.kind, c.index, c.before⟩, ⟨past, c :: p.log.future⟩) := by
      rw [UnboundedLog.undo?, hpast, List.getLast?_concat, List.dropLast_concat, Option.map_some]
    have hdrop : p.log.past.drop p.evictions = past.drop p.evictions ++ [c] := by
      rw [hpast, List.drop_append_of_le_length hle]
    have hcursor := hp.cursor
    rw [hdrop, List.length_append, List.length_singleton] at hcursor
    rw [step, hsome, hundo]
    refine ⟨hp.capacity_eq, ⟨?_, hp.bounded.size_le⟩, hle, ?_, rfl⟩
    · have hcursorLe := hp.bounded.cursor_le
      rw [hcursor] at hcursorLe
      exact Nat.le_of_succ_le hcursorLe
    · show p.history.changes = past.drop p.evictions ++ c :: p.log.future
      rw [hp.changes, hdrop, List.append_assoc, List.singleton_append]

theorem Linked.redo : (p.step .redo).Linked capacity := by
  rcases hp.redo_cases with ⟨hfuture, hnone⟩ | ⟨c, future, hfuture, hsome⟩
  · have hredo : p.log.redo? = none := by
      rw [UnboundedLog.redo?, hfuture, List.head?_nil, Option.map_none]
    rw [step, History.forth, hnone, hredo]
    exact hp
  · have hredo : ∃ r, p.log.redo? = some (r, ⟨p.log.past ++ [c], future⟩) := by
      rw [UnboundedLog.redo?, hfuture]
      exact ⟨_, rfl⟩
    obtain ⟨r, hredo⟩ := hredo
    have hdrop : (p.log.past ++ [c]).drop p.evictions = p.log.past.drop p.evictions ++ [c] :=
      List.drop_append_of_le_length hp.evictions_le
    rw [step, History.forth, hsome, hredo]
    refine ⟨hp.capacity_eq, ⟨?_, hp.bounded.size_le⟩, ?_, ?_, ?_⟩
    · show p.history.cursor + 1 ≤ p.history.size
      rw [hp.size_eq, hfuture, List.length_cons]
      omega
    · show p.evictions ≤ (p.log.past ++ [c]).length
      rw [List.length_append]
      exact Nat.le_trans hp.evictions_le (Nat.le_add_right _ _)
    · show p.history.changes = (p.log.past ++ [c]).drop p.evictions ++ future
      rw [hdrop, hp.changes, hfuture, List.append_assoc, List.singleton_append]
    · show p.history.cursor + 1 = ((p.log.past ++ [c]).drop p.evictions).length
      rw [hdrop, List.length_append, hp.cursor, List.length_singleton]

/-- **Every call keeps history and log together.** -/
theorem Linked.step (h0 : 0 < capacity) (move : History.Move) : (p.step move).Linked capacity := by
  cases move with
  | record c => exact hp.record h0 c
  | undo => exact hp.undo
  | redo => exact hp.redo

/-- A history that is linked to a log refines it. -/
theorem Linked.refines (h0 : 0 < capacity) : p.Refines capacity := by
  have hcapacity : p.history.capacity ≠ 0 := hp.capacity_eq ▸ Nat.pos_iff_ne_zero.mp h0
  refine ⟨?_, hp.evictions_le, ?_, hp.bounded.cursor_le, hp.capacity_eq ▸ hp.bounded.size_le,
    fun r h hundo => ?_, fun r h hredo => ?_, ?_, fun c => ?_, History.canUndo_iff hp.bounded,
    History.canRedo_iff p.history, fun n hn => History.iterate_forth_back hp.bounded hn⟩
  · rw [hp.changes, UnboundedLog.changes, List.drop_append_of_le_length hp.evictions_le]
  · rw [hp.cursor, List.length_drop]
  · rcases hp.undo_cases with ⟨-, hnone⟩ | ⟨past, c, hpast, -, hsome⟩
    · rw [hnone] at hundo
      exact absurd hundo nofun
    · rw [hsome] at hundo
      obtain ⟨rfl, -⟩ := Prod.mk.inj (Option.some.inj hundo)
      rw [UnboundedLog.undo?, hpast, List.getLast?_concat]
      exact ⟨_, rfl⟩
  · rcases hp.redo_cases with ⟨-, hnone⟩ | ⟨c, future, hfuture, hsome⟩
    · rw [hnone] at hredo
      exact absurd hredo nofun
    · rw [hsome] at hredo
      obtain ⟨rfl, -⟩ := Prod.mk.inj (Option.some.inj hredo)
      rw [UnboundedLog.redo?, hfuture, History.redone_eq]
      exact ⟨_, rfl⟩
  · rcases hp.redo_cases with ⟨hfuture, hnone⟩ | ⟨c, future, hfuture, hsome⟩
    · rw [UnboundedLog.redo?, hfuture]
      exact iff_of_true hnone rfl
    · rw [UnboundedLog.redo?, hfuture, hsome]
      exact iff_of_false nofun nofun
  · rw [History.lost_eq hp.bounded hcapacity, History.evicted, hp.capacity_eq]

end Linked

/-- **After any calls** history and log are together. -/
theorem linked_run {capacity : Nat} (h0 : 0 < capacity) (moves : List History.Move) :
    (run capacity moves).Linked capacity := by
  have hstart : Linked { history := .ofCapacity capacity } capacity :=
    ⟨rfl, History.bounded_ofCapacity capacity, Nat.le_refl 0, rfl, rfl⟩
  rw [run]
  generalize Twin.mk (.ofCapacity capacity) {} 0 = p at hstart
  induction moves generalizing p with
  | nil => exact hstart
  | cons move moves ih => exact ih (p.step move) (hstart.step h0 move)

end Twin

/-- **A bounded history refines an unbounded log.**  After any calls its changes are those of the
log without the oldest ones, as many as were lost; its cursor is the number of changes that the log
can undo, less those; what is undone or redone is what the log undoes or redoes, and it redoes
nothing only if the log has nothing to redo.  A change is lost only by recording one when the log is
full of changes that can be undone, and undoing some changes and redoing as many changes nothing. -/
theorem history_refines_unbounded_log {capacity : Nat} (hcapacity : 0 < capacity)
    (moves : List History.Move) : (Twin.run capacity moves).Refines capacity :=
  (Twin.linked_run hcapacity moves).refines hcapacity

/-- A change that makes a rule without a name one with a name. -/
def namingChange (name : String) : Change :=
  ⟨.rename, 0, {}, { name := some name }, "rename rule #1 -> " ++ name, "08:00:00"⟩

/-- More calls than a log of two changes has room for: a change is lost, everything that is left is
undone, undoing is tried once more, and a change is recorded in the middle of the log. -/
def crowdedMoves : List History.Move :=
  [.record (namingChange "a"), .record (namingChange "b"), .record (namingChange "c"), .undo, .undo,
    .undo, .redo, .record (namingChange "d")]

theorem history_refines_unbounded_log_crowdedMoves :
    0 < 2 ∧ (Twin.run 2 crowdedMoves).Refines 2 :=
  ⟨Nat.two_pos, history_refines_unbounded_log Nat.two_pos crowdedMoves⟩

end WindowRules
