import Mathlib.Data.List.Nodup
import WindowRules.Rule.Edit

/-!
# Extras, set by their keys

The extras of a rule are a list of keys with values, in which a key may stand more than once.
Setting a key changes the first extra with that key and no other, wherever it stands, or adds one at
the end if there is none (`setExtra_of_mem`, `setExtra_of_notMem`).

Two different keys are set in either order with the same result, unless both are new: then each goes
to the end, and the order shows (`setExtra_comm`).
-/

namespace WindowRules

variable {key : String} {es : List (String × String)}

/-- A key that is new goes to the end. -/
theorem setExtra_of_notMem (h : key ∉ es.map (·.1)) (value : String) :
    setExtra key value es = es ++ [(key, value)] := by
  induction es with
  | nil => rfl
  | cons e es ih =>
    rw [List.map_cons, List.mem_cons, not_or] at h
    rw [setExtra, if_neg (Ne.symm h.1), ih h.2, List.cons_append]

/-- Behind extras with other keys, the first one with the key takes the value. -/
theorem setExtra_append_cons {front : List (String × String)} (h : key ∉ front.map (·.1))
    (old value : String) (back : List (String × String)) :
    setExtra key value (front ++ (key, old) :: back) = front ++ (key, value) :: back := by
  induction front with
  | nil => exact if_pos rfl
  | cons e front ih =>
    rw [List.map_cons, List.mem_cons, not_or] at h
    rw [List.cons_append, setExtra, if_neg (Ne.symm h.1), ih h.2, List.cons_append]

/-- **The first extra with a key is the one that is set**, and all others stay where they are. -/
theorem setExtra_of_mem (h : key ∈ es.map (·.1)) (value : String) :
    ∃ front old back, key ∉ front.map (·.1) ∧ es = front ++ (key, old) :: back ∧
      setExtra key value es = front ++ (key, value) :: back := by
  obtain ⟨keys, rest, hsplit, hkeys⟩ := List.eq_append_cons_of_mem h
  obtain ⟨front, tail, rfl, rfl, htail⟩ := List.map_eq_append_iff.mp hsplit
  obtain ⟨⟨_, old⟩, back, rfl, rfl, rfl⟩ := List.map_eq_cons_iff.mp htail
  exact ⟨front, old, back, hkeys, rfl, setExtra_append_cons hkeys old value back⟩

/-- Of two values for one key the later one counts. -/
theorem setExtra_setExtra (key v w : String) (es : List (String × String)) :
    setExtra key w (setExtra key v es) = setExtra key w es := by
  induction es with
  | nil => exact if_pos rfl
  | cons e es ih =>
    by_cases he : e.1 = key
    · rw [setExtra, if_pos he, setExtra, if_pos rfl, setExtra, if_pos he]
    · rw [setExtra, if_neg he, setExtra, if_neg he, ih, setExtra, if_neg he]

/-- The extras with other keys, and their order, stay the same. -/
theorem filter_setExtra (key value : String) (es : List (String × String)) :
    (setExtra key value es).filter (·.1 ≠ key) = es.filter (·.1 ≠ key) := by
  by_cases h : key ∈ es.map (·.1)
  · obtain ⟨front, old, back, -, rfl, hset⟩ := setExtra_of_mem h value
    rw [hset, List.filter_append, List.filter_append, List.filter_cons_of_neg (by simp),
      List.filter_cons_of_neg (by simp)]
  · rw [setExtra_of_notMem h, List.filter_append, List.filter_cons_of_neg (by simp),
      List.filter_nil, List.append_nil]

/-- **Keys that stand once go on standing once.** -/
theorem nodup_setExtra (h : (es.map (·.1)).Nodup) (value : String) :
    ((setExtra key value es).map (·.1)).Nodup := by
  by_cases hmem : key ∈ es.map (·.1)
  · obtain ⟨front, old, back, -, rfl, hset⟩ := setExtra_of_mem hmem value
    rw [hset]
    simpa using h
  · rw [setExtra_of_notMem hmem, List.map_append, List.map_singleton]
    exact List.Nodup.append h (List.nodup_singleton key) (List.disjoint_singleton.mpr hmem)

theorem mem_map_fst_setExtra (key value : String) (es : List (String × String)) :
    key ∈ (setExtra key value es).map (·.1) := by
  by_cases h : key ∈ es.map (·.1)
  · obtain ⟨front, old, back, -, -, hset⟩ := setExtra_of_mem h value
    simp [hset]
  · simp [setExtra_of_notMem h]

/-- **Two keys are set in either order**, if one of them is there already. -/
theorem setExtra_comm {k l : String} (hne : k ≠ l) (h : k ∈ es.map (·.1) ∨ l ∈ es.map (·.1))
    (v w : String) : setExtra l w (setExtra k v es) = setExtra k v (setExtra l w es) := by
  induction es with
  | nil => exact absurd h (by simp)
  | cons e es ih =>
    by_cases hk : e.1 = k
    · have hl : e.1 ≠ l := hk ▸ hne
      rw [setExtra, if_pos hk, setExtra, if_neg hne, setExtra, if_neg hl, setExtra, if_pos hk]
    · by_cases hl : e.1 = l
      · rw [setExtra, if_neg hk, setExtra, if_pos hl, setExtra, if_pos hl, setExtra,
          if_neg hne.symm]
      · have hrest : k ∈ es.map (·.1) ∨ l ∈ es.map (·.1) := by
          simpa [Ne.symm hk, Ne.symm hl] using h
        rw [setExtra, if_neg hk, setExtra, if_neg hl, ih hrest, setExtra, if_neg hl, setExtra,
          if_neg hk]

/-- Two new keys stand at the end in the order in which they were set. -/
theorem setExtra_setExtra_of_notMem {k l : String} (hne : k ≠ l) (hk : k ∉ es.map (·.1))
    (hl : l ∉ es.map (·.1)) (v w : String) :
    setExtra l w (setExtra k v es) = es ++ [(k, v), (l, w)] := by
  have hnew : l ∉ (es ++ [(k, v)]).map (·.1) := by
    rw [List.map_append, List.mem_append, not_or]
    exact ⟨hl, by simpa using hne.symm⟩
  rw [setExtra_of_notMem hk, setExtra_of_notMem hnew, List.append_assoc]
  rfl

end WindowRules
