import Mathlib.Data.List.Induction
import WindowRules.Cascade
import WindowRules.Proofs.Matching

/-!
# What a cascade says

A cascade is computed by a walk that carries the actions so far.  What it says can be put without
the walk: which rules have a step and in which order, and for each field by itself whose value it
has in the end.  `Cascade.Exact` is this description, and it refers to nothing but the rules and the
window.

The order of the rules enters in one place.  The rules that match are a list with increasing places
(`pairwise_matchingRules`), and in such a list the last element that has something is the one with
nothing behind it (`findSome?_reverse_eq_some_iff`); so the value that a field is left with is that
of the last matching rule that sets it (`lastSetter_mergeAll`).  Text actions and toggles are read
off by different functions, and the argument is about any such function.
-/

namespace WindowRules

/-- A window satisfies a rule: every pattern that the rule has matches an attribute that the window
has. -/
def Rule.Suits (r : Rule) (w : Window) : Prop :=
  ∀ f p, r.criteria.get f = some p → ∃ v, w.get f = some v ∧ patternMatches p v = true

theorem Rule.matches_iff_suits {r : Rule} {w : Window} : r.matches w = true ↔ r.Suits w := by
  rw [Rule.matches, List.all_eq_true]
  constructor
  · intro h f p hp
    exact (Option.any_eq_true _ _).mp (h (f, p) (Criteria.mem_patterns.mpr hp))
  · intro h ⟨f, p⟩ hp
    exact (Option.any_eq_true _ _).mpr (h f p (Criteria.mem_patterns.mp hp))

section Cascade

variable {β : Type} {rs : Ruleset} {w : Window}

/-- A field has the value of the last rule that suits a window and sets it, and is absent if there
is no such rule.  What a rule sets is read off its actions by `get`. -/
structure LastSetter (rs : Ruleset) (w : Window) (get : Actions → Option β) (o : Option β) :
    Prop where
  value_iff : ∀ v, o = some v ↔ ∃ (i : Nat) (r : Rule), rs[i]? = some r ∧ r.Suits w ∧
    get r.actions = some v ∧ ∀ (j : Nat) (q : Rule), i < j → rs[j]? = some q → q.Suits w →
      get q.actions = none
  absent_iff : o = none ↔ ∀ (i : Nat) (r : Rule), rs[i]? = some r → r.Suits w → get r.actions = none

/-- A cascade tells how the rules that suit a window add up. -/
structure Cascade.Exact (c : Cascade) (rs : Ruleset) (w : Window) : Prop where
  /-- The steps are in the order of the rules, with no rule twice. -/
  ordered : c.steps.Pairwise fun a b => a.index < b.index
  /-- The rules that have a step are those that suit the window. -/
  step_iff : ∀ i, (∃ s ∈ c.steps, s.index = i) ↔ ∃ r, rs[i]? = some r ∧ r.Suits w
  /-- A step shows what its rule sets and what the rule is called. -/
  own : ∀ s ∈ c.steps, ∃ r, rs[s.index]? = some r ∧ s.delta = r.actions ∧
    s.name = r.displayName s.index
  actions : ∀ f, LastSetter rs w (·.get f) (c.final.get f)
  toggles : ∀ t, LastSetter rs w (·.getToggle t) (c.final.getToggle t)

/-! ## The rules that match -/

theorem mem_matchingRules {i : Nat} {r : Rule} :
    (i, r) ∈ matchingRules rs w ↔ rs[i]? = some r ∧ r.Suits w := by
  simp [matchingRules, List.mem_zipIdx_iff_getElem?, Rule.matches_iff_suits]

/-- Elements with their places stand in the order of the places. -/
theorem pairwise_zipIdx {α : Type} (l : List α) (n : Nat) :
    (l.zipIdx n).Pairwise fun p q => p.2 < q.2 := by
  have hplaces : ((l.zipIdx n).map (·.2)).Pairwise (· < ·) := by
    rw [List.zipIdx_map_snd]
    exact List.pairwise_lt_range'
  exact List.pairwise_map.mp hplaces

/-- The rules that match stand in their order. -/
theorem pairwise_matchingRules : (matchingRules rs w).Pairwise fun p q => p.1 < q.1 :=
  ((pairwise_zipIdx rs 0).filter _).map _ fun _ _ hpq => hpq

/-! ## Steps -/

/-- The steps of some rules have their places, in their order. -/
theorem map_index_stepsFrom (state : Actions) (rules : List (Nat × Rule)) :
    (stepsFrom state rules).map (·.index) = rules.map (·.1) := by
  induction rules generalizing state with
  | nil => rfl
  | cons p rules ih =>
    rw [stepsFrom, List.map_cons, List.map_cons, ih]

/-- Every step is that of one of the rules. -/
theorem exists_of_mem_stepsFrom {state : Actions} {rules : List (Nat × Rule)} {s : CascadeStep}
    (hs : s ∈ stepsFrom state rules) :
    ∃ p ∈ rules, s.index = p.1 ∧ s.delta = p.2.actions ∧ s.name = p.2.displayName p.1 := by
  induction rules generalizing state with
  | nil => exact absurd hs List.not_mem_nil
  | cons p rules ih =>
    rcases List.mem_cons.mp hs with rfl | hs
    · exact ⟨p, List.mem_cons_self, rfl, rfl, rfl⟩
    · obtain ⟨q, hq, h⟩ := ih hs
      exact ⟨q, List.mem_cons_of_mem p hq, h⟩

/-! ## The actions at the end -/

/-- Of elements in increasing places, the last that has something is the one behind which none
has. -/
theorem findSome?_reverse_eq_some_iff {α : Type} {g : α → Option β} {l : List (Nat × α)}
    (hl : l.Pairwise fun p q => p.1 < q.1) {v : β} :
    l.reverse.findSome? (fun p => g p.2) = some v ↔
      ∃ p ∈ l, g p.2 = some v ∧ ∀ q ∈ l, p.1 < q.1 → g q.2 = none := by
  induction l using List.reverseRecOn with
  | nil => simp
  | append_singleton l x ih =>
    obtain ⟨hl, -, hlast⟩ := List.pairwise_append.mp hl
    have hx : ∀ p ∈ l, p.1 < x.1 := fun p hp => hlast p hp x List.mem_cons_self
    rw [List.reverse_append, List.reverse_singleton, List.singleton_append, List.findSome?_cons]
    cases hgx : g x.2 with
    | some u =>
      constructor
      · intro hu
        refine ⟨x, by simp, hgx.trans hu, fun q hq hlt => ?_⟩
        -- nothing stands behind the last element
        rcases List.mem_append.mp hq with hq | hq
        · exact absurd (hx q hq) (Nat.lt_asymm hlt)
        · exact absurd hlt (List.mem_singleton.mp hq ▸ Nat.lt_irrefl _)
      · rintro ⟨p, hp, hgp, hnone⟩
        rcases List.mem_append.mp hp with hp | hp
        · have := hnone x (by simp) (hx p hp)
          rw [hgx] at this
          exact absurd this nofun
        · rw [List.mem_singleton.mp hp, hgx] at hgp
          exact hgp
    | none =>
      rw [ih hl]
      constructor
      · rintro ⟨p, hp, hgp, hnone⟩
        refine ⟨p, List.mem_append_left _ hp, hgp, fun q hq hlt => ?_⟩
        rcases List.mem_append.mp hq with hq | hq
        · exact hnone q hq hlt
        · rw [List.mem_singleton.mp hq, hgx]
      · rintro ⟨p, hp, hgp, hnone⟩
        rcases List.mem_append.mp hp with hp | hp
        · exact ⟨p, hp, hgp, fun q hq => hnone q (List.mem_append_left _ hq)⟩
        · rw [List.mem_singleton.mp hp, hgx] at hgp
          exact absurd hgp nofun

/-- What each rule overrides is, after all rules, what the last rule has that has anything. -/
theorem mergeAll_of_merge {get : Actions → Option β}
    (hget : ∀ state delta, get (Actions.merge state delta) = (get delta).or (get state))
    (state : Actions) (rules : List (Nat × Rule)) :
    get (mergeAll state rules) =
      (rules.reverse.findSome? fun p => get p.2.actions).or (get state) := by
  induction rules using List.reverseRecOn with
  | nil => rfl
  | append_singleton rules p ih =>
    have hfold : mergeAll state (rules ++ [p]) = (mergeAll state rules).merge p.2.actions := by
      rw [mergeAll, List.foldl_append]
      rfl
    rw [hfold, hget, ih, List.reverse_append, List.reverse_singleton, List.singleton_append,
      List.findSome?_cons]
    cases get p.2.actions <;> rfl

/-- **The last rule that sets a field wins.** -/
theorem lastSetter_mergeAll {get : Actions → Option β} (hempty : get {} = none)
    (hget : ∀ state delta, get (Actions.merge state delta) = (get delta).or (get state)) :
    LastSetter rs w get (get (mergeAll {} (matchingRules rs w))) where
  value_iff v := by
    rw [mergeAll_of_merge hget, hempty, Option.or_none,
      findSome?_reverse_eq_some_iff (g := fun r => get r.actions) pairwise_matchingRules]
    constructor
    · rintro ⟨⟨i, r⟩, hr, hv, hnone⟩
      obtain ⟨hi, hsuits⟩ := mem_matchingRules.mp hr
      exact ⟨i, r, hi, hsuits, hv,
        fun j q hlt hj hq => hnone (j, q) (mem_matchingRules.mpr ⟨hj, hq⟩) hlt⟩
    · rintro ⟨i, r, hi, hsuits, hv, hnone⟩
      refine ⟨(i, r), mem_matchingRules.mpr ⟨hi, hsuits⟩, hv, fun q hq hlt => ?_⟩
      obtain ⟨hj, hq⟩ := mem_matchingRules.mp hq
      exact hnone q.1 q.2 hlt hj hq
  absent_iff := by
    rw [mergeAll_of_merge hget, hempty, Option.or_none, List.findSome?_eq_none_iff]
    constructor
    · intro h i r hi hsuits
      exact h (i, r) (List.mem_reverse.mpr (mem_matchingRules.mpr ⟨hi, hsuits⟩))
    · intro h p hp
      obtain ⟨hi, hsuits⟩ := mem_matchingRules.mp (List.mem_reverse.mp hp)
      exact h p.1 p.2 hi hsuits

/-! ## The cascade -/

theorem exact_ofMatching : (Cascade.ofMatching (matchingRules rs w)).Exact rs w where
  ordered := by
    have hindex : ((stepsFrom {} (matchingRules rs w)).map (·.index)).Pairwise (· < ·) := by
      rw [map_index_stepsFrom]
      exact List.pairwise_map.mpr pairwise_matchingRules
    exact List.pairwise_map.mp hindex
  step_iff i := by
    have hindex : (∃ s ∈ stepsFrom {} (matchingRules rs w), s.index = i) ↔
        i ∈ (matchingRules rs w).map (·.1) := by
      rw [← map_index_stepsFrom {}, List.mem_map]
    rw [Cascade.ofMatching, hindex, List.mem_map]
    constructor
    · rintro ⟨p, hp, rfl⟩
      exact ⟨p.2, mem_matchingRules.mp hp⟩
    · rintro ⟨r, hr⟩
      exact ⟨(i, r), mem_matchingRules.mpr hr, rfl⟩
  own s hs := by
    obtain ⟨p, hp, hindex, hdelta, hname⟩ := exists_of_mem_stepsFrom hs
    rw [hindex]
    exact ⟨p.2, (mem_matchingRules.mp hp).1, hdelta, hname⟩
  actions f := lastSetter_mergeAll (by cases f <;> rfl) fun state delta => Actions.get_merge ..
  toggles t := lastSetter_mergeAll (by cases t <;> rfl) fun state delta =>
    Actions.getToggle_merge ..

/-- The cascade that is computed with remembered patterns is the one that is computed without. -/
theorem PatternCache.resolve_answers (rs : Ruleset) (w : Window) :
    Answers (resolve rs w) (WindowRules.resolve rs w) :=
  (matchingFrom_answers w 0 rs).bind (Answers.pure _)

end Cascade

/-- **The later rule has the last word, on each field by itself.**  The cascade for a window has one
step for each rule that suits it and no other step, in the order of the rules, and each step shows
what its own rule sets; and in the end every field has the value of the last of these rules that
sets it, off included, and is absent only if none of them does.  Patterns that are remembered make
no difference. -/
theorem exact_resolve (rs : Ruleset) (w : Window) (c : PatternCache) (hc : c.Sound) :
    ((PatternCache.resolve rs w).run c).1 = resolve rs w ∧ (resolve rs w).Exact rs w :=
  ⟨(PatternCache.resolve_answers rs w c hc).1, exact_ofMatching⟩

/-- Rules of which the first, the third and the last suit a window that has a class and no title:
one floats it, one says nothing about that, and the last takes it back.  The second has a text that
is no pattern, and the fourth asks for a title. -/
def overlappingRules : Ruleset :=
  [{ criteria := { windowClass := some "fire" },
     actions := { tag := some "web", float := some true } },
   { criteria := { windowClass := some "(" }, actions := { tag := some "never" } },
   {}, { criteria := { title := some "" }, actions := { tag := some "titled" } },
   { criteria := { windowClass := some "fox$" }, actions := { float := some false } }]

/-- A cache that was filled by looking up a pattern and a text that is none. -/
def usedCache : PatternCache :=
  ((PatternCache.compile? "(").run ((PatternCache.compile? "fire").run {}).2).2

theorem sound_usedCache : usedCache.Sound :=
  (PatternCache.compile?_answers "(" _
    (PatternCache.compile?_answers "fire" {} PatternCache.sound_empty).2).2

theorem exact_resolve_overlappingRules : usedCache.Sound ∧
    ((PatternCache.resolve overlappingRules { windowClass := some "firefox" }).run usedCache).1 =
      resolve overlappingRules { windowClass := some "firefox" } ∧
    (resolve overlappingRules { windowClass := some "firefox" }).Exact overlappingRules
      { windowClass := some "firefox" } :=
  ⟨sound_usedCache, exact_resolve _ _ usedCache sound_usedCache⟩

end WindowRules
