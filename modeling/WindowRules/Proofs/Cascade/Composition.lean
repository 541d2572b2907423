import WindowRules.Proofs.Cascade

/-!
# Cascades of rulesets that are put together

A config file grows at its end and in its middle, and what its rules do to a window should be clear
from what its parts do.  Two laws say how:

* the cascade of two rulesets, one behind the other, has the steps of both, and its actions at the
  end are those of the second ruleset over those of the first;
* a rule that does not match a window can stand anywhere and is not seen: the other steps set the
  same and are explained by the same words.

`Composes` puts them as laws of any way to make cascades from rules and windows, since there are
two: with and without remembered patterns.

## What the laws rest on

Actions are put over one another field by field, and of two values the later one counts.  So the
order of merging does not matter as long as the order of the actions is kept
(`Actions.merge_assoc`), and no actions leave everything as it is.  A walk that starts from actions
which are set already can therefore be replaced by one that starts from none (`mergeAll_eq_merge`).

Places are the one thing that a rule has from the rules in front of it.  The rules that match,
without their places, are the matching ones of the ruleset (`map_snd_matchingRules`), and a walk
reads a place only to write it into its step.
-/

namespace WindowRules

/-! ## Actions over actions -/

namespace Actions

/-- **Merging is associative.** -/
theorem merge_assoc (a b c : Actions) : (a.merge b).merge c = a.merge (b.merge c) := by
  refine ext_get (fun f => ?_) (fun t => ?_)
  · simp only [get_merge, Option.or_assoc]
  · simp only [getToggle_merge, Option.or_assoc]

theorem empty_merge (a : Actions) : ({} : Actions).merge a = a := by
  refine ext_get (fun f => ?_) (fun t => ?_)
  · rw [get_merge]
    cases f <;> exact Option.or_none
  · rw [getToggle_merge]
    cases t <;> exact Option.or_none

theorem merge_empty (a : Actions) : a.merge {} = a := by
  refine ext_get (fun f => ?_) (fun t => ?_)
  · rw [get_merge]
    cases f <;> rfl
  · rw [getToggle_merge]
    cases t <;> rfl

end Actions

open Actions

/-! ## Walks -/

/-- A walk from actions that are set already is a walk from none, put over them. -/
theorem mergeAll_eq_merge (state : Actions) (rules : List (Nat × Rule)) :
    mergeAll state rules = state.merge (mergeAll {} rules) := by
  induction rules generalizing state with
  | nil => exact (merge_empty state).symm
  | cons p rules ih =>
    calc mergeAll state (p :: rules)
        = (state.merge p.2.actions).merge (mergeAll {} rules) := ih _
      _ = state.merge ((Actions.merge {} p.2.actions).merge (mergeAll {} rules)) := by
          rw [merge_assoc, empty_merge]
      _ = state.merge (mergeAll {} (p :: rules)) := by
          rw [← ih]
          rfl

theorem mergeAll_append (state : Actions) (p q : List (Nat × Rule)) :
    mergeAll state (p ++ q) = (mergeAll state p).merge (mergeAll {} q) := by
  rw [← mergeAll_eq_merge]
  exact List.foldl_append

/-- The actions at the end do not depend on the places of the rules. -/
theorem mergeAll_congr {p q : List (Nat × Rule)} (h : p.map (·.2) = q.map (·.2)) (state : Actions) :
    mergeAll state p = mergeAll state q := by
  have hplain (rules : List (Nat × Rule)) : mergeAll state rules =
      (rules.map (·.2)).foldl (fun state r => state.merge r.actions) state := by
    rw [List.foldl_map]
    rfl
  rw [hplain, hplain, h]

/-- Neither does what the steps set and how they are explained. -/
theorem map_effect_stepsFrom_congr {p q : List (Nat × Rule)} (h : p.map (·.2) = q.map (·.2))
    (state : Actions) :
    (stepsFrom state p).map (fun s => (s.delta, s.explanation)) =
      (stepsFrom state q).map fun s => (s.delta, s.explanation) := by
  induction p generalizing q state with
  | nil =>
    rw [List.map_eq_nil_iff.mp h.symm]
  | cons x p ih =>
    obtain ⟨y, q, rfl⟩ := List.exists_cons_of_ne_nil (l := q) (by rintro rfl; simp at h)
    rw [List.map_cons, List.map_cons, List.cons.injEq] at h
    rw [stepsFrom, stepsFrom, List.map_cons, List.map_cons, h.1, ih h.2]

/-- The places of the steps, with what the steps set. -/
theorem map_entry_stepsFrom (state : Actions) (rules : List (Nat × Rule)) :
    (stepsFrom state rules).map (fun s => (s.index, s.delta)) =
      rules.map fun p => (p.1, p.2.actions) := by
  induction rules generalizing state with
  | nil => rfl
  | cons p rules ih => rw [stepsFrom, List.map_cons, List.map_cons, ih]

/-! ## The rules that match -/

/-- The rules behind others keep their order, and their places count on. -/
theorem matchingRules_append (a b : Ruleset) (w : Window) :
    matchingRules (a ++ b) w =
      matchingRules a w ++ (matchingRules b w).map fun p => (a.length + p.1, p.2) := by
  have hplaces : b.zipIdx a.length = b.zipIdx.map fun p => (p.1, a.length + p.2) :=
    List.zipIdx_eq_map_add
  have hfilter : (b.zipIdx a.length).filter (fun p => p.1.matches w) =
      (b.zipIdx.filter fun p => p.1.matches w).map fun p => (p.1, a.length + p.2) := by
    rw [hplaces, List.filter_map]
    rfl
  rw [matchingRules, List.zipIdx_append, Nat.zero_add, List.filter_append, List.map_append, hfilter,
    List.map_map, matchingRules, matchingRules, List.map_map]
  rfl

/-- Without their places they are the matching rules of the ruleset. -/
theorem map_snd_matchingRules (rs : Ruleset) (w : Window) :
    (matchingRules rs w).map (·.2) = rs.filter (·.matches w) := by
  calc (matchingRules rs w).map (·.2)
      = (rs.zipIdx.filter fun p => p.1.matches w).map (·.1) := List.map_map
    _ = (rs.zipIdx.map (·.1)).filter (·.matches w) := by
          rw [List.filter_map]
          rfl
    _ = rs.filter (·.matches w) := by rw [List.zipIdx_map_fst]

theorem map_snd_matchingRules_insert (rs : Ruleset) (i : Nat) {r : Rule} {w : Window}
    (h : r.matches w = false) :
    (matchingRules (rs.insert i r) w).map (·.2) = (matchingRules rs w).map (·.2) := by
  rw [map_snd_matchingRules, map_snd_matchingRules, Ruleset.insert, List.filter_append,
    List.filter_cons_of_neg (by rw [h]; exact Bool.false_ne_true), ← List.filter_append,
    List.take_append_drop]

/-! ## Cascades -/

/-- The laws by which the cascade of a ruleset is made up from those of its parts. -/
structure Composes (cascade : Ruleset → Window → Cascade) : Prop where
  /-- At the end the actions of the second ruleset are over those of the first. -/
  final_append : ∀ a b w, (cascade (a ++ b) w).final = (cascade a w).final.merge (cascade b w).final
  /-- The steps are those of the first ruleset and then those of the second, whose places count
  on. -/
  steps_append : ∀ a b w, (cascade (a ++ b) w).steps.map (fun s => (s.index, s.delta)) =
    (cascade a w).steps.map (fun s => (s.index, s.delta)) ++
      (cascade b w).steps.map fun s => (a.length + s.index, s.delta)
  /-- Wherever a rule is put that does not match, the actions at the end are the same. -/
  final_insert : ∀ rs i r w, r.matches w = false →
    (cascade (Ruleset.insert rs i r) w).final = (cascade rs w).final
  /-- So is, step by step, what is set and how it is explained. -/
  steps_insert : ∀ rs i r w, r.matches w = false →
    (cascade (Ruleset.insert rs i r) w).steps.map (fun s => (s.delta, s.explanation)) =
      (cascade rs w).steps.map fun s => (s.delta, s.explanation)

theorem composes_resolve : Composes resolve where
  final_append a b w := by
    have hb : ((matchingRules b w).map fun p => (a.length + p.1, p.2)).map (·.2) =
        (matchingRules b w).map (·.2) := List.map_map
    calc (resolve (a ++ b) w).final
        = mergeAll {}
          (matchingRules a w ++ (matchingRules b w).map fun p => (a.length + p.1, p.2)) := by
          rw [← matchingRules_append]
          rfl
      _ = (resolve a w).final.merge (resolve b w).final := by
          rw [mergeAll_append, mergeAll_congr hb]
          rfl
  steps_append a b w := by
    have hentries (rs : Ruleset) : (resolve rs w).steps.map (fun s => (s.index, s.delta)) =
        (matchingRules rs w).map fun p => (p.1, p.2.actions) := map_entry_stepsFrom {} _
    have hshifted : (resolve b w).steps.map (fun s => (a.length + s.index, s.delta)) =
        ((matchingRules b w).map fun p => (a.length + p.1, p.2)).map fun p =>
          (p.1, p.2.actions) := by
      calc (resolve b w).steps.map (fun s => (a.length + s.index, s.delta))
          = ((resolve b w).steps.map fun s => (s.index, s.delta)).map fun e =>
            (a.length + e.1, e.2) := by
            rw [List.map_map]
            rfl
        _ = _ := by
            rw [hentries, List.map_map, List.map_map]
            rfl
    rw [hentries, hentries, hshifted, matchingRules_append, List.map_append]
  final_insert rs i r w h := mergeAll_congr (map_snd_matchingRules_insert rs i h) {}
  steps_insert rs i r w h := map_effect_stepsFrom_congr (map_snd_matchingRules_insert rs i h) {}

/-- **The cascade composes.**  The cascade of two rulesets, one behind the other, has the steps of
the first and then those of the second, and the actions of the second over those of the first; a
rule that does not match is not seen, wherever it stands; and this is so whatever patterns are
remembered.  Merging is associative, and no actions are neutral for it on both sides. -/
theorem cascade_composes (c : PatternCache) (hc : c.Sound) :
    Composes resolve ∧ (Composes fun rs w => ((PatternCache.resolve rs w).run c).1) ∧
      (∀ x y z : Actions, (x.merge y).merge z = x.merge (y.merge z)) ∧
      ∀ x : Actions, Actions.merge {} x = x ∧ x.merge {} = x := by
  have hremembered : (fun rs w => ((PatternCache.resolve rs w).run c).1) = resolve :=
    funext₂ fun rs w => (PatternCache.resolve_answers rs w c hc).1
  rw [hremembered]
  exact ⟨composes_resolve, composes_resolve, merge_assoc, fun x => ⟨empty_merge x, merge_empty x⟩⟩

/-- A rule for windows with a title. -/
def titledRule : Rule := { criteria := { title := some "" }, actions := { workspace := some "9" } }

theorem cascade_composes_titledRule : usedCache.Sound ∧
    titledRule.matches { windowClass := some "firefox" } = false ∧
    ((PatternCache.resolve (Ruleset.insert overlappingRules 1 titledRule)
        { windowClass := some "firefox" }).run usedCache).1.final =
      ((PatternCache.resolve overlappingRules
        { windowClass := some "firefox" }).run usedCache).1.final := by
  have hmatches : titledRule.matches { windowClass := some "firefox" } = false := by decide
  exact ⟨sound_usedCache, hmatches,
    (cascade_composes usedCache sound_usedCache).2.1.final_insert overlappingRules 1 titledRule _
      hmatches⟩

end WindowRules
