import WindowRules.History

/-!
# The log of changes

What the operations of a history do to its log, for the logs that there are: the cursor stands in
the log, and the log is no longer than its capacity (`History.Bounded`).

Recording is the one operation that moves changes.  It keeps the changes before the cursor, except
for the oldest if they fill the log, and adds the new one behind them; so what was in place `i + k`
before is in place `i` afterwards, where `k` is the number of evicted changes
(`History.getElem?_kept`).
-/

namespace WindowRules
namespace History

/-- The cursor is in the log, and the log is not longer than it may be. -/
structure Bounded (h : History) : Prop where
  cursor_le : h.cursor ≤ h.size
  size_le : h.size ≤ h.capacity

theorem bounded_ofCapacity (capacity : Nat) : (ofCapacity capacity).Bounded :=
  ⟨Nat.le_refl 0, Nat.zero_le capacity⟩

/-! ## Recording -/

/-- How many changes recording one more drops at the front of the log. -/
def evicted (h : History) : Nat := if h.cursor = h.capacity then 1 else 0

section Kept

variable {h : History} (hb : h.Bounded)
include hb

theorem length_past : (h.changes.take h.cursor).length = h.cursor :=
  List.length_take_of_le hb.cursor_le

theorem kept_eq_drop : h.kept = (h.changes.take h.cursor).drop h.evicted := by
  rw [kept, length_past hb, evicted]
  split
  · rfl
  · rw [List.drop_zero]

/-- With no capacity nothing is ever recorded. -/
theorem record_of_capacity_eq_zero (h0 : h.capacity = 0) (c : Change) : h.record c = h := by
  have hsize : h.changes.length = 0 := Nat.le_zero.mp (h0 ▸ hb.size_le)
  rw [record, if_pos h0, List.length_eq_zero_iff.mp hsize, List.take_nil,
    ← List.length_eq_zero_iff.mp hsize]

variable (h0 : h.capacity ≠ 0)
include h0

/-- The changes that are kept and those that are evicted are those that could be undone. -/
theorem length_kept_add_evicted : h.kept.length + h.evicted = h.cursor := by
  rw [kept_eq_drop hb, List.length_drop, length_past hb, evicted]
  split
  · next hfull => omega
  · omega

theorem length_kept_lt : h.kept.length < h.capacity := by
  have hlen := length_kept_add_evicted hb h0
  have hle := Nat.le_trans hb.cursor_le hb.size_le
  rw [evicted] at hlen
  split at hlen
  · omega
  · omega

/-- **A kept change moves by the number of evicted ones.** -/
theorem getElem?_kept {i : Nat} (hi : i < h.kept.length) :
    h.kept[i]? = h.changes[i + h.evicted]? := by
  have hlen := length_kept_add_evicted hb h0
  rw [kept_eq_drop hb, List.getElem?_drop, List.getElem?_take_of_lt (by omega), Nat.add_comm]

end Kept

theorem record_of_capacity_ne_zero {h : History} (h0 : h.capacity ≠ 0) (c : Change) :
    h.record c = { h with changes := h.kept ++ [c], cursor := h.kept.length + 1 } :=
  if_neg h0

theorem size_record {h : History} (h0 : h.capacity ≠ 0) (c : Change) :
    (h.record c).size = h.kept.length + 1 := by
  rw [record_of_capacity_ne_zero h0]
  exact List.length_append

/-- Recording keeps a log in its bounds. -/
theorem Bounded.record {h : History} (hb : h.Bounded) (c : Change) : (h.record c).Bounded := by
  by_cases h0 : h.capacity = 0
  · rwa [record_of_capacity_eq_zero hb h0]
  · have hsize := size_record h0 c
    have hlt := length_kept_lt hb h0
    rw [record_of_capacity_ne_zero h0] at hsize ⊢
    exact ⟨Nat.le_of_eq hsize.symm, Nat.le_trans (Nat.le_of_eq hsize) hlt⟩

/-- **The log after recording** has the new change at its end and kept ones before it. -/
theorem getElem?_record {h : History} (hb : h.Bounded) (h0 : h.capacity ≠ 0) {c d : Change}
    {i : Nat} (hd : (h.record c).changes[i]? = some d) :
    i < h.kept.length ∧ h.changes[i + h.evicted]? = some d ∨ i = h.kept.length ∧ d = c := by
  rw [record_of_capacity_ne_zero h0] at hd
  rcases Nat.lt_trichotomy i h.kept.length with hi | rfl | hi
  · rw [List.getElem?_append_left hi, getElem?_kept hb h0 hi] at hd
    exact .inl ⟨hi, hd⟩
  · rw [List.getElem?_concat_length] at hd
    exact .inr ⟨rfl, (Option.some.inj hd).symm⟩
  · have hlen : (h.kept ++ [c]).length ≤ i := by
      rw [List.length_append]
      exact hi
    rw [List.getElem?_eq_none hlen] at hd
    exact absurd hd nofun

/-! ## Moving the cursor -/

theorem undo?_of_cursor_eq_zero {h : History} (h0 : h.cursor = 0) : h.undo? = none := by
  rw [undo?, h0]

theorem undo?_of_getElem? {h : History} {n : Nat} {c : Change} (hn : h.cursor = n + 1)
    (hc : h.changes[n]? = some c) :
    h.undo? = some (⟨c.kind, c.index, c.before⟩, { h with cursor := n }) := by
  rw [undo?, hn]
  simp only [hc, Option.map_some]

theorem redo?_of_cursor_eq_size {h : History} (hsize : h.cursor = h.size) : h.redo? = none := by
  rw [redo?, hsize, size, List.getElem?_eq_none (Nat.le_refl _), Option.map_none]

theorem redo?_of_getElem? {h : History} {c : Change} (hc : h.changes[h.cursor]? = some c) :
    h.redo? = some (⟨c.kind, c.index, Change.redone c⟩, { h with cursor := h.cursor + 1 }) := by
  rw [redo?, hc, Option.map_some]

end History
end WindowRules
