import WindowRules.Matching

/-!
# Remembered patterns

A cache of patterns outlives the rules that filled it, holds texts that are no patterns, and what it
holds depends on what was asked before, since the first pattern that fails decides and those after
it are not looked up.  None of this shows in an answer.  What shows is one property of the cache:
each text in it stands with the pattern that it is turned into (`PatternCache.Sound`).

`PatternCache.Answers m a` says that from every sound cache the computation `m` gives `a` and leaves
a sound cache.  Answers compose (`Answers.bind`), so for each function that looks patterns up there
is one statement, which names the plain function that it agrees with.
-/

namespace WindowRules
namespace PatternCache

variable {α β : Type}

/-- Each text that is remembered stands with its pattern. -/
def Sound (c : PatternCache) : Prop := ∀ e ∈ c.entries, e.2 = Pattern.compile? e.1

theorem sound_empty : Sound {} := fun _ he => absurd he List.not_mem_nil

/-- What is found of a text is an entry. -/
theorem mem_entries_of_find? {c : PatternCache} {text : String} {p : Option Pattern}
    (hp : c.find? text = some p) : (text, p) ∈ c.entries := by
  obtain ⟨⟨t, q⟩, he, rfl⟩ := Option.map_eq_some_iff.mp hp
  have htext : t = text := by simpa using List.find?_some he
  exact htext ▸ List.mem_of_find?_eq_some he

/-- What a sound cache remembers of a text is its pattern. -/
theorem Sound.eq_compile? {c : PatternCache} (hc : c.Sound) {text : String} {p : Option Pattern}
    (hp : c.find? text = some p) : p = Pattern.compile? text :=
  hc _ (mem_entries_of_find? hp)

/-- Forgetting texts does not change what is remembered of the others. -/
theorem Sound.retain {c : PatternCache} (hc : c.Sound) (keep : String → Bool) :
    (c.retain keep).Sound :=
  fun e he => hc e (List.mem_filter.mp he).1

/-! ## Answers -/

/-- From every sound cache a computation gives a certain answer and leaves a sound cache. -/
def Answers (m : StateM PatternCache α) (a : α) : Prop :=
  ∀ c : PatternCache, c.Sound → (m.run c).1 = a ∧ (m.run c).2.Sound

theorem Answers.pure (a : α) : Answers (pure a) a := fun _ hc => ⟨rfl, hc⟩

theorem Answers.bind {m : StateM PatternCache α} {f : α → StateM PatternCache β} {a : α} {b : β}
    (hm : Answers m a) (hf : Answers (f a) b) : Answers (m >>= f) b := by
  intro c hc
  obtain ⟨hanswer, hsound⟩ := hm c hc
  have hrun : (m >>= f).run c = (f a).run (m.run c).2 := by
    rw [← hanswer]
    rfl
  rw [hrun]
  exact hf _ hsound

/-! ## Looking patterns up -/

/-- **Looking a text up gives its pattern**, remembered or not. -/
theorem compile?_answers (text : String) : Answers (compile? text) (Pattern.compile? text) := by
  intro c hc
  rw [StateT.run, compile?]
  cases hfind : c.find? text with
  | some p => exact ⟨hc.eq_compile? hfind, hc⟩
  | none =>
    refine ⟨rfl, fun e he => ?_⟩
    rcases List.mem_cons.mp he with rfl | he
    · rfl
    · exact hc e he

theorem isMatch_answers (text value : String) :
    Answers (isMatch text value) (patternMatches text value) :=
  (compile?_answers text).bind (Answers.pure _)

theorem satisfies_answers (w : Window) (ps : List (MatchField × String)) :
    Answers (satisfies w ps) (ps.all fun p => (w.get p.1).any (patternMatches p.2)) := by
  induction ps with
  | nil => exact Answers.pure true
  | cons p ps ih =>
    rw [satisfies, List.all_cons]
    cases w.get p.1 with
    | none => exact Answers.pure false
    | some value =>
      refine (isMatch_answers p.2 value).bind ?_
      -- where the first pattern decides, the others are not looked up
      rw [Option.any_some]
      cases patternMatches p.2 value with
      | true => exact ih
      | false => exact Answers.pure false

theorem ruleMatches_answers (r : Rule) (w : Window) : Answers (ruleMatches r w) (r.matches w) :=
  satisfies_answers w r.criteria.patterns

theorem matchesSome_answers (r : Rule) (ws : List Window) :
    Answers (matchesSome r ws) (ws.any fun w => r.matches w) := by
  induction ws with
  | nil => exact Answers.pure false
  | cons w ws ih =>
    refine (ruleMatches_answers r w).bind ?_
    rw [List.any_cons]
    cases r.matches w with
    | true => exact Answers.pure true
    | false => exact ih

theorem isPattern_answers (text : String) :
    Answers (isPattern text) (WindowRules.isPattern text) :=
  (compile?_answers text).bind (Answers.pure _)

theorem brokenPatterns_answers (ps : List (MatchField × String)) :
    Answers (brokenPatterns ps) (ps.filter fun p => !WindowRules.isPattern p.2) := by
  induction ps with
  | nil => exact Answers.pure []
  | cons p ps ih =>
    refine (isPattern_answers p.2).bind (ih.bind ?_)
    rw [List.filter_cons]
    cases WindowRules.isPattern p.2 with
    | true => exact Answers.pure _
    | false => exact Answers.pure _

/-- **The rules that match a window** are found as if nothing were remembered. -/
theorem matchingFrom_answers (w : Window) (i : Nat) (rs : List Rule) :
    Answers (matchingFrom w i rs)
      (((rs.zipIdx i).filter fun p => p.1.matches w).map fun p => (p.2, p.1)) := by
  induction rs generalizing i with
  | nil => exact Answers.pure []
  | cons r rs ih =>
    refine (ruleMatches_answers r w).bind ((ih (i + 1)).bind ?_)
    rw [List.zipIdx_cons, List.filter_cons]
    cases r.matches w with
    | true => exact Answers.pure _
    | false => exact Answers.pure _

end PatternCache
end WindowRules
