import Mathlib.Data.List.Induction
import WindowRules.Proofs.Audit.Report
import WindowRules.Proofs.Matching.Memory
import WindowRules.Proofs.Session.Changes

/-!
# What a session remembers

A session keeps one cache of patterns from its beginning to its end, while its rules come and go.
There are two things that could go wrong with it: it could tell of a text what is not so, and it
could keep texts for which there is no rule any more.  Neither happens, and the invariant is both
together (`Session.Tidy`): each text that is remembered stands with its pattern, and it is a pattern
of an active rule.

The operations differ in how they get there.  Those that can take a pattern out of use drop what is
not in use; renaming does not, for it takes no pattern out of use; and those that fail or have
nothing to do leave rules and cache alone, also where the cursor of the history has moved.
`Session.Minds` says all this at once.  Looking at windows adds texts, but none that is not in use
(`PatternCache.Looks`).
-/

namespace WindowRules

namespace PatternCache

theorem resolve_looks (rs : Ruleset) (w : Window) :
    Looks (resolve rs w) [] (rs.flatMap patternTexts) :=
  (matchingFrom_looks w 0 rs).bind_pure Cascade.ofMatching

theorem windowHit_looks (r : Rule) (windows : Option (List Window)) :
    Looks (windowHit r windows) [] (patternTexts r) := by
  cases windows with
  | none => exact Looks.of_pure none _
  | some ws => exact (matchesSome_looks r ws).bind_pure _

theorem ruleIssuesFrom_looks (windows : Option (List Window)) (i : Nat) (rs : List Rule) :
    Looks (ruleIssuesFrom windows i rs) (rs.flatMap patternTexts) (rs.flatMap patternTexts) := by
  induction rs generalizing i with
  | nil => exact Looks.pure []
  | cons r rs ih =>
    have h := (brokenPatterns_looks r.criteria.patterns).bind fun broken =>
      (windowHit_looks r windows).bind fun hit =>
        (ih (i + 1)).bind_pure (ruleIssues i r broken hit ++ ·)
    rw [List.flatMap_cons]
    -- the texts of the rule may be looked up a second time, to match it
    exact h.mono (List.Subset.refl _)
      (List.append_subset.mpr ⟨List.subset_append_left _ _, List.Subset.refl _⟩)

/-- **An audit looks up all patterns**, and nothing else. -/
theorem audit_looks (rs : Ruleset) (windows : Option (List Window)) :
    Looks (audit rs windows) (rs.flatMap patternTexts) (rs.flatMap patternTexts) :=
  (ruleIssuesFrom_looks windows 0 rs).bind_pure _

end PatternCache

open PatternCache

namespace Session

variable {s t : Session}

/-- A text is a pattern of an active rule. -/
def InUse (s : Session) (text : String) : Prop := ∃ r ∈ s.rules, ∃ f, r.criteria.get f = some text

theorem mem_livePatterns {text : String} : text ∈ s.livePatterns ↔ s.InUse text := by
  rw [livePatterns, List.mem_flatMap]
  refine exists_congr fun r => and_congr_right fun _ => ?_
  rw [List.mem_map]
  constructor
  · rintro ⟨⟨f, p⟩, hp, rfl⟩
    exact ⟨f, Criteria.mem_patterns.mp hp⟩
  · rintro ⟨f, hf⟩
    exact ⟨(f, text), Criteria.mem_patterns.mpr hf, rfl⟩

/-- The texts that are kept are those in use. -/
theorem mem_texts_prune {text : String} :
    text ∈ s.prune.cache.texts ↔ text ∈ s.cache.texts ∧ text ∈ s.livePatterns := by
  simp [prune, retain, texts]

/-! ## How operations mind the cache -/

/-- A session comes from another with the cache as it was and the same patterns in use, or with the
cache as it was less what is not in use. -/
def Minds (s t : Session) : Prop :=
  t.cache = s.cache ∧ t.livePatterns = s.livePatterns ∨
    ∃ u : Session, t = u.prune ∧ u.cache = s.cache

theorem Minds.refl (s : Session) : s.Minds s := .inl ⟨rfl, rfl⟩

theorem minds_after {x : Except SessionError Session} (h : ∀ t, x = .ok t → s.Minds t) :
    s.Minds (s.after x) := by
  cases x with
  | error e => exact Minds.refl s
  | ok t => exact h t rfl

/-- Which patterns are in use is decided by the criteria of the rules. -/
theorem livePatterns_eq_of_map (h : t.rules.map (·.criteria) = s.rules.map (·.criteria)) :
    t.livePatterns = s.livePatterns := by
  have hlive : ∀ u : Session, u.livePatterns =
      (u.rules.map (·.criteria)).flatMap fun c => c.patterns.map (·.2) := by
    intro u
    rw [List.flatMap_map]
    rfl
  rw [hlive, hlive, h]

/-- A rule with the criteria of another, put in its place, leaves the criteria of all as they
are. -/
theorem map_criteria_replace {rs : Ruleset} {index : Nat} {r q : Rule} (hr : rs[index]? = some r)
    (hq : q.criteria = r.criteria) :
    (rs.replace index q).map (·.criteria) = rs.map (·.criteria) := by
  obtain ⟨hlt, rfl⟩ := List.getElem?_eq_some_iff.mp hr
  rw [Ruleset.replace, List.map_set, hq, ← List.map_set, List.set_getElem_self]

theorem minds_of_edit {index : Nat} {rule : Rule} {description : String}
    (h : s.edit index rule description = .ok t) : s.Minds t := by
  obtain ⟨before, -, h⟩ := rule?_bind_eq_ok.mp h
  split at h
  · exact Except.ok.inj h ▸ Minds.refl s
  · exact .inr ⟨_, (Except.ok.inj h).symm, rfl⟩

theorem minds_of_rename {index : Nat} {name : String} (h : s.rename index name = .ok t) :
    s.Minds t := by
  obtain ⟨before, hbefore, h⟩ := rule?_bind_eq_ok.mp h
  change (if before = { before with name := nameOf name } then pure s else _) = Except.ok t at h
  split at h
  · exact Except.ok.inj h ▸ Minds.refl s
  · obtain rfl := Except.ok.inj h
    exact .inl ⟨rfl, livePatterns_eq_of_map (map_criteria_replace hbefore rfl)⟩

theorem minds_of_putBack {r : Restoration} (h : s.putBack r = .ok t) : s.Minds t := by
  unfold putBack at h
  split at h
  · exact .inr ⟨_, (Except.ok.inj h).symm, rfl⟩
  · exact absurd h nofun

theorem minds_of_revert {r : Restoration} (h : s.revert r = .ok t) : s.Minds t := by
  unfold revert at h
  split at h
  · exact minds_of_putBack h
  · exact minds_of_putBack h
  · exact .inr ⟨_, (Except.ok.inj h).symm, rfl⟩
  · exact .inr ⟨_, (Except.ok.inj h).symm, rfl⟩

theorem minds_of_reapply {r : Restoration} (h : s.reapply r = .ok t) : s.Minds t := by
  unfold reapply at h
  split at h
  · exact minds_of_putBack h
  · exact minds_of_putBack h
  · split at h
    · exact .inr ⟨_, (Except.ok.inj h).symm, rfl⟩
    · exact absurd h nofun
  · split at h
    · exact .inr ⟨_, (Except.ok.inj h).symm, rfl⟩
    · exact absurd h nofun

/-- A step through the history minds the cache if what it does to the rules does.  A step that fails
has moved the cursor only. -/
theorem minds_finishStep {moved : Session} (hcache : moved.cache = s.cache)
    (hlive : moved.livePatterns = s.livePatterns) {kind : ChangeKind}
    {x : Except SessionError Session}
    (h : ∀ t, x = .ok t → moved.Minds t) : s.Minds (finishStep moved kind x).2 := by
  cases x with
  | error e => exact .inl ⟨hcache, hlive⟩
  | ok t =>
    rcases h t rfl with ⟨htcache, htlive⟩ | ⟨u, rfl, hu⟩
    · exact .inl ⟨htcache.trans hcache, htlive.trans hlive⟩
    · exact .inr ⟨u, rfl, hu.trans hcache⟩

theorem minds_undo (s : Session) : s.Minds s.undo.2 := by
  unfold undo
  cases s.history.undo? with
  | none => exact Minds.refl s
  | some p => exact minds_finishStep rfl rfl fun t h => minds_of_revert h

theorem minds_redo (s : Session) : s.Minds s.redo.2 := by
  unfold redo
  cases s.history.redo? with
  | none => exact Minds.refl s
  | some p => exact minds_finishStep rfl rfl fun t h => minds_of_reapply h

/-! ## The invariant -/

/-- What is remembered is right, and it is in use. -/
structure Tidy (s : Session) : Prop where
  sound : s.cache.Sound
  inUse : ∀ text ∈ s.cache.texts, text ∈ s.livePatterns

theorem tidy_ofRules (rules : Ruleset) (capacity : Nat) : (ofRules rules capacity).Tidy :=
  ⟨sound_empty, fun _ ht => absurd ht List.not_mem_nil⟩

namespace Tidy

theorem minds (h : s.Tidy) (hminds : s.Minds t) : t.Tidy := by
  rcases hminds with ⟨hcache, hlive⟩ | ⟨u, rfl, hu⟩
  · refine ⟨hcache ▸ h.sound, fun text ht => ?_⟩
    rw [hlive]
    exact h.inUse text (hcache ▸ ht)
  · have hsound : u.cache.Sound := hu ▸ h.sound
    exact ⟨hsound.retain _, fun text ht => (mem_texts_prune.mp ht).2⟩

/-- **Looking up patterns in use** leaves a session tidy. -/
theorem looks {α : Type} (h : s.Tidy) {m : StateM PatternCache α} {a : α} (hm : Answers m a)
    {sure : List String} (hlooks : Looks m sure s.livePatterns) :
    Tidy { s with cache := (m.run s.cache).2 } where
  sound := (hm s.cache h.sound).2
  inUse text ht := (hlooks.adds s.cache text ht).elim (h.inUse text) id

/-- **Every operation leaves a session tidy.** -/
theorem perform (h : s.Tidy) (o : Operation) : (s.perform o).Tidy := by
  cases o with
  | edit index rule description => exact h.minds (minds_after fun t ht => minds_of_edit ht)
  | setField index key value =>
    refine h.minds (minds_after fun t ht => ?_)
    obtain ⟨before, rule, -, -, hedit⟩ := setField_eq_ok ht
    exact minds_of_edit hedit
  | unsetField index key =>
    refine h.minds (minds_after fun t hmap => ?_)
    obtain ⟨⟨present, u⟩, hu, rfl⟩ := exists_of_map_eq_ok hmap
    obtain ⟨before, -, -, ⟨-, rfl⟩ | ⟨-, hedit⟩⟩ := unsetField_eq_ok hu
    · exact Minds.refl _
    · exact minds_of_edit hedit
  | rename index name => exact h.minds (minds_after fun t ht => minds_of_rename ht)
  | delete index =>
    refine h.minds (minds_after fun t hmap => ?_)
    obtain ⟨⟨rule, u⟩, hu, rfl⟩ := exists_of_map_eq_ok hmap
    obtain ⟨before, -, hu⟩ := rule?_bind_eq_ok.mp hu
    exact .inr ⟨_, (Prod.mk.inj (Except.ok.inj hu)).2.symm, rfl⟩
  | disable index =>
    refine h.minds (minds_after fun t ht => ?_)
    obtain ⟨rule, -, ht⟩ := rule?_bind_eq_ok.mp ht
    exact .inr ⟨_, (Except.ok.inj ht).symm, rfl⟩
  | undo => exact h.minds (minds_undo s)
  | redo => exact h.minds (minds_redo s)
  | resolve w =>
    have htidy := h.looks (resolve_answers s.rules w) (resolve_looks s.rules w)
    exact htidy
  | audit windows =>
    have htidy := h.looks (audit_answers s.rules windows) (audit_looks s.rules windows)
    exact htidy
  | write => exact h

/-- **So does a run of operations.** -/
theorem run (h : s.Tidy) (calls : List Call) : (s.run calls).Tidy := by
  induction calls using List.reverseRecOn with
  | nil => exact h
  | append_singleton calls c ih =>
    rw [run_concat]
    have hclock : Tidy { s.run calls with now := c.time } := ⟨ih.sound, ih.inUse⟩
    exact hclock.perform c.operation

end Tidy

/-! ## What this comes to -/

/-- **Remembering is invisible.**  Whatever is asked of a cache, and whatever is dropped from it
between the questions, every answer is the one that a new cache gives, which is the one that is
given without a cache.  So a session, after any calls of its operations, resolves windows and audits
its rules as if nothing were remembered. -/
theorem remembering_invisible :
    (∀ qs : List Inquiry, afresh (qs.mapM Inquiry.ask) = qs.map fun q => afresh q.ask) ∧
    (∀ q : Inquiry, afresh q.ask = q.answer?) ∧
    ∀ (rules : Ruleset) (capacity : Nat) (calls : List Call),
      (∀ w, (((ofRules rules capacity).run calls).resolve w).1 =
        afresh (PatternCache.resolve ((ofRules rules capacity).run calls).rules w)) ∧
      ∀ windows, (((ofRules rules capacity).run calls).audit windows).1 =
        afresh (PatternCache.audit ((ofRules rules capacity).run calls).rules windows) := by
  refine ⟨fun qs => ?_, fun q => q.ask_answers.afresh_eq, fun rules capacity calls => ?_⟩
  · rw [(mapM_ask_answers qs).afresh_eq]
    exact List.map_congr_left fun q _ => q.ask_answers.afresh_eq.symm
  · have hsound := ((tidy_ofRules rules capacity).run calls).sound
    refine ⟨fun w => ?_, fun windows => ?_⟩
    · have h := resolve_answers ((ofRules rules capacity).run calls).rules w
      exact (h _ hsound).1.trans h.afresh_eq.symm
    · have h := audit_answers ((ofRules rules capacity).run calls).rules windows
      exact (h _ hsound).1.trans h.afresh_eq.symm

/-- **What is remembered is in use.**  After any calls of its operations, also of such as fail, a
session remembers no text that is not a pattern of an active rule.  When its rules have been audited
it remembers exactly these. -/
theorem remembered_in_use (rules : Ruleset) (capacity : Nat) (calls : List Call) :
    (∀ text ∈ ((ofRules rules capacity).run calls).cache.texts,
      ((ofRules rules capacity).run calls).InUse text) ∧
    ∀ windows text, text ∈ (((ofRules rules capacity).run calls).audit windows).2.cache.texts ↔
      ((ofRules rules capacity).run calls).InUse text := by
  have htidy := (tidy_ofRules rules capacity).run calls
  refine ⟨fun text ht => mem_livePatterns.mp (htidy.inUse text ht), fun windows text => ?_⟩
  have hlooks := audit_looks ((ofRules rules capacity).run calls).rules windows
  rw [← mem_livePatterns]
  constructor
  · intro ht
    exact (hlooks.adds _ text ht).elim (htidy.inUse text) id
  · intro ht
    exact hlooks.remembers _ text (.inr ht)

end Session
end WindowRules
