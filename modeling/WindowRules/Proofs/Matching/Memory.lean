import WindowRules.Proofs.Matching

/-!
# A cache in use

A cache is asked one thing after the other, and between two questions texts may be dropped from it.
Two things are said here of what comes of it.

The answers are those of a new cache, whatever was asked and dropped before.  A sequence of calls is
a list of `Inquiry`s, and its answers compose like those of one call (`mapM_ask_answers`).

What is remembered is told by two lists of texts (`Looks`): those that a computation has looked up
in any case, and those that it may have looked up.  They are the same where every text is looked up,
as for the texts that are no patterns, and not where the first failure decides.  Like answers, the
lists compose.
-/

namespace WindowRules
namespace PatternCache

variable {α β : Type}

/-- The answer of a computation when nothing is remembered. -/
def afresh (m : StateM PatternCache α) : α := (m.run {}).1

theorem Answers.afresh_eq {m : StateM PatternCache α} {a : α} (h : Answers m a) : afresh m = a :=
  (h {} sound_empty).1

/-! ## Asking many things -/

/-- A call on a cache. -/
inductive Inquiry where
  /-- Whether a text is a pattern that matches a value. -/
  | isMatch (text value : String)
  /-- Whether a text is a pattern. -/
  | isPattern (text : String)
  /-- Whether a rule matches a window. -/
  | matches (r : Rule) (w : Window)
  /-- No question: the texts that do not satisfy a condition are to be forgotten. -/
  | retain (keep : String → Bool)

namespace Inquiry

/-- What a call comes to, with the answer if it is a question. -/
def ask : Inquiry → StateM PatternCache (Option Bool)
  | .isMatch text value => do return some (← PatternCache.isMatch text value)
  | .isPattern text => do return some (← PatternCache.isPattern text)
  | .matches r w => do return some (← ruleMatches r w)
  | .retain keep => do modify (·.retain keep); return none

/-- The answer to a call, without a cache. -/
def answer? : Inquiry → Option Bool
  | .isMatch text value => some (patternMatches text value)
  | .isPattern text => some (WindowRules.isPattern text)
  | .matches r w => some (r.matches w)
  | .retain _ => none

theorem ask_answers (q : Inquiry) : Answers q.ask q.answer? := by
  cases q with
  | isMatch text value => exact (isMatch_answers text value).bind (Answers.pure _)
  | isPattern text => exact (isPattern_answers text).bind (Answers.pure _)
  | «matches» r w => exact (ruleMatches_answers r w).bind (Answers.pure _)
  | retain keep => exact fun c hc => ⟨rfl, hc.retain keep⟩

end Inquiry

/-- **Many calls are answered like each of them alone.** -/
theorem mapM_ask_answers (qs : List Inquiry) :
    Answers (qs.mapM Inquiry.ask) (qs.map Inquiry.answer?) := by
  induction qs with
  | nil => exact Answers.pure []
  | cons q qs ih =>
    rw [List.mapM_cons, List.map_cons]
    exact q.ask_answers.bind (ih.bind (Answers.pure _))

/-! ## What is remembered -/

/-- A computation forgets nothing and remembers some texts, and what it remembers besides those that
were remembered before is among others. -/
structure Looks (m : StateM PatternCache α) (sure may : List String) : Prop where
  remembers : ∀ (c : PatternCache) text, text ∈ c.texts ∨ text ∈ sure → text ∈ (m.run c).2.texts
  adds : ∀ (c : PatternCache) text, text ∈ (m.run c).2.texts → text ∈ c.texts ∨ text ∈ may

theorem Looks.pure (a : α) : Looks (pure a) [] [] where
  remembers _ _ h := h.resolve_right List.not_mem_nil
  adds _ _ := .inl

theorem Looks.bind {m : StateM PatternCache α} {f : α → StateM PatternCache β}
    {sure may sure' may' : List String} (hm : Looks m sure may)
    (hf : ∀ a, Looks (f a) sure' may') : Looks (m >>= f) (sure ++ sure') (may ++ may') where
  remembers c text h := by
    refine (hf _).remembers _ text ?_
    rw [List.mem_append, ← or_assoc] at h
    exact h.imp_left (hm.remembers c text)
  adds c text h := by
    rw [List.mem_append, ← or_assoc]
    exact ((hf _).adds _ text h).imp_left (hm.adds c text)

theorem Looks.mono {m : StateM PatternCache α} {sure may sure' may' : List String}
    (h : Looks m sure may) (hsure : sure' ⊆ sure) (hmay : may ⊆ may') : Looks m sure' may' where
  remembers c text ht := h.remembers c text (ht.imp_right (@hsure text))
  adds c text ht := (h.adds c text ht).imp_right (@hmay text)

/-- Nothing is looked up if the result is there. -/
theorem Looks.of_pure (a : α) (may : List String) : Looks (Pure.pure a) [] may :=
  (Looks.pure a).mono (List.Subset.refl _) (List.nil_subset _)

/-- What is made of a result does not matter. -/
theorem Looks.bind_pure {m : StateM PatternCache α} {sure may : List String} (hm : Looks m sure may)
    (f : α → β) : Looks (m >>= fun a => Pure.pure (f a)) sure may := by
  have h := hm.bind fun a => Looks.pure (f a)
  rwa [List.append_nil, List.append_nil] at h

/-- A choice may look up what one of its sides may. -/
theorem Looks.ite {m m' : StateM PatternCache α} {may : List String} (hm : Looks m [] may)
    (hm' : Looks m' [] may) (hit : Bool) : Looks (if hit = true then m else m') [] may := by
  cases hit with
  | true => exact hm
  | false => exact hm'

/-- **A text that is looked up is remembered**, and no other. -/
theorem compile?_looks (text : String) : Looks (compile? text) [text] [text] := by
  have hmem : ∀ (c : PatternCache) t,
      t ∈ ((compile? text).run c).2.texts ↔ t ∈ c.texts ∨ t ∈ [text] := by
    intro c t
    rw [StateT.run, compile?, List.mem_singleton]
    cases hfind : c.find? text with
    | some p =>
      -- nothing is added, and the text is there already
      refine ⟨.inl, ?_⟩
      rintro (ht | rfl)
      · exact ht
      · exact List.mem_map_of_mem (mem_entries_of_find? hfind)
    | none => exact List.mem_cons.trans or_comm
  exact ⟨fun c t => (hmem c t).mpr, fun c t => (hmem c t).mp⟩

theorem isMatch_looks (text value : String) : Looks (isMatch text value) [text] [text] :=
  (compile?_looks text).bind_pure _

theorem isPattern_looks (text : String) : Looks (isPattern text) [text] [text] :=
  (compile?_looks text).bind_pure _

/-- Patterns are looked up until one fails. -/
theorem satisfies_looks (w : Window) (ps : List (MatchField × String)) :
    Looks (satisfies w ps) [] (ps.map (·.2)) := by
  induction ps with
  | nil => exact Looks.pure true
  | cons p ps ih =>
    rw [satisfies, List.map_cons]
    cases w.get p.1 with
    | none => exact Looks.of_pure false _
    | some value =>
      have hrest := Looks.ite ih (Looks.of_pure false _)
      exact ((isMatch_looks p.2 value).bind hrest).mono (List.nil_subset _) (List.Subset.refl _)

/-- The texts that a rule has for patterns. -/
def patternTexts (r : Rule) : List String := r.criteria.patterns.map (·.2)

theorem ruleMatches_looks (r : Rule) (w : Window) : Looks (ruleMatches r w) [] (patternTexts r) :=
  satisfies_looks w r.criteria.patterns

theorem matchesSome_looks (r : Rule) (ws : List Window) :
    Looks (matchesSome r ws) [] (patternTexts r) := by
  induction ws with
  | nil => exact Looks.of_pure false _
  | cons w ws ih =>
    have hrest := Looks.ite (Looks.of_pure true _) ih
    exact ((ruleMatches_looks r w).bind hrest).mono (List.Subset.refl _)
      (List.append_subset.mpr ⟨List.Subset.refl _, List.Subset.refl _⟩)

/-- Whether texts are patterns is asked of all of them. -/
theorem brokenPatterns_looks (ps : List (MatchField × String)) :
    Looks (brokenPatterns ps) (ps.map (·.2)) (ps.map (·.2)) := by
  induction ps with
  | nil => exact Looks.pure []
  | cons p ps ih =>
    exact (isPattern_looks p.2).bind fun fine => ih.bind_pure _

theorem matchingFrom_looks (w : Window) (i : Nat) (rs : List Rule) :
    Looks (matchingFrom w i rs) [] (rs.flatMap patternTexts) := by
  induction rs generalizing i with
  | nil => exact Looks.pure []
  | cons r rs ih =>
    exact (ruleMatches_looks r w).bind fun hit => (ih (i + 1)).bind_pure _

end PatternCache
end WindowRules
