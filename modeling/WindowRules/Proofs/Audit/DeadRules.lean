import WindowRules.Proofs.Audit.Report

/-!
# Dead rules

A rule is dead if it matches no window.  Two parts of the library come across such rules.  A cascade
walks over the rules for one window and has no step for a rule that does not match; an audit walks
over the windows for one rule and tells that it matches none of them.  Besides, an audit tells of
texts that are no patterns, with the advice that the rule never matches as it is written.

The two walks look patterns up in different orders, stop at different places and remember different
texts, but both come down to `Rule.Suits`, which is about one rule and one window.  So the audit and
the cascades agree about the windows that are open, and a rule with a text that is no pattern is
dead for all windows there are (`Rule.not_suits_of_compile?_eq_none`).
-/

namespace WindowRules

/-- A report tells of one rule that there is an issue of a kind. -/
def Report.Tells (r : Report) (kind : IssueKind) (i : Nat) : Prop :=
  ∃ x ∈ r.issues, x.kind = kind ∧ x.rules = [i]

/-- A cascade has a step for the rule at a place. -/
def Cascade.HasStep (c : Cascade) (i : Nat) : Prop := ∃ s ∈ c.steps, s.index = i

section Dead

variable {rs : Ruleset} {windows : Option (List Window)} {i : Nat}

/-! ## What an audit tells -/

/-- **What is told of one rule** is due to that rule by itself, for an issue of two rules names
both. -/
theorem tells_iff {kind : IssueKind} : (audit rs windows).Tells kind i ↔
    ∃ r f x, rs[i]? = some r ∧ RuleDue windows i r f x ∧ x.kind = kind := by
  constructor
  · rintro ⟨x, hx, hkind, hrules⟩
    obtain ⟨f, hdue⟩ := mem_issues_audit.mp hx
    cases hdue with
    | pair hlt ha hb h => cases h <;> cases hrules
    | single hr h =>
      cases h with
      | broken hp hbroken =>
        cases hrules
        exact ⟨_, _, _, hr, .broken hp hbroken, hkind⟩
      | orphan hws hnone =>
        cases hrules
        exact ⟨_, _, _, hr, .orphan hws hnone, hkind⟩
  · rintro ⟨r, f, x, hr, h, hkind⟩
    refine ⟨x, mem_issues_audit.mpr ⟨f, .single hr h⟩, hkind, ?_⟩
    cases h <;> rfl

/-- Orphans are told of if windows are known and none of them suits the rule. -/
theorem tells_orphaned_iff : (audit rs windows).Tells .orphaned i ↔
    ∃ r ws, rs[i]? = some r ∧ windows = some ws ∧ ∀ w ∈ ws, ¬ r.Suits w := by
  rw [tells_iff]
  constructor
  · rintro ⟨r, f, x, hr, h, hkind⟩
    cases h with
    | broken hp hbroken => cases hkind
    | orphan hws hnone => exact ⟨r, _, hr, hws, hnone⟩
  · rintro ⟨r, ws, hr, hws, hnone⟩
    exact ⟨r, _, _, hr, .orphan hws hnone, rfl⟩

/-- Texts that are no patterns are told of, whether or not windows are known. -/
theorem tells_invalidPattern_iff : (audit rs windows).Tells .invalidPattern i ↔
    ∃ r f p, rs[i]? = some r ∧ r.criteria.get f = some p ∧ Pattern.compile? p = none := by
  rw [tells_iff]
  constructor
  · rintro ⟨r, f, x, hr, h, hkind⟩
    cases h with
    | broken hp hbroken => exact ⟨r, _, _, hr, hp, hbroken⟩
    | orphan hws hnone => cases hkind
  · rintro ⟨r, f, p, hr, hp, hbroken⟩
    exact ⟨r, _, _, hr, .broken hp hbroken, rfl⟩

/-! ## What a cascade has -/

/-- A cascade has a step for a rule that is there if the rule suits the window. -/
theorem hasStep_resolve_iff {r : Rule} (hr : rs[i]? = some r) (w : Window) :
    (resolve rs w).HasStep i ↔ r.Suits w := by
  have hstep : (resolve rs w).HasStep i ↔ ∃ q, rs[i]? = some q ∧ q.Suits w :=
    exact_ofMatching.step_iff i
  rw [hstep]
  constructor
  · rintro ⟨q, hq, hsuits⟩
    obtain rfl := Option.some.inj (hr.symm.trans hq)
    exact hsuits
  · intro hsuits
    exact ⟨r, hr, hsuits⟩

/-- **A text that is no pattern suits no window.** -/
theorem Rule.not_suits_of_compile?_eq_none {r : Rule} {f : MatchField} {p : String}
    (hp : r.criteria.get f = some p) (hbroken : Pattern.compile? p = none) (w : Window) :
    ¬ r.Suits w := by
  intro hsuits
  obtain ⟨v, -, hmatches⟩ := hsuits f p hp
  rw [patternMatches, hbroken] at hmatches
  exact absurd hmatches nofun

/-! ## Agreement -/

/-- A rule is told to be an orphan exactly if it is there and no cascade for a window of the list
has a step for it. -/
theorem tells_orphaned_iff_hasStep {ws : List Window} : (audit rs (some ws)).Tells .orphaned i ↔
    i < rs.length ∧ ∀ w ∈ ws, ¬ (resolve rs w).HasStep i := by
  rw [tells_orphaned_iff]
  constructor
  · rintro ⟨r, _, hr, ⟨⟩, hnone⟩
    refine ⟨(List.getElem?_eq_some_iff.mp hr).1, fun w hw hstep => ?_⟩
    exact hnone w hw ((hasStep_resolve_iff hr w).mp hstep)
  · rintro ⟨hi, hnone⟩
    have hr := List.getElem?_eq_getElem hi
    exact ⟨_, ws, hr, rfl, fun w hw hsuits => hnone w hw ((hasStep_resolve_iff hr w).mpr hsuits)⟩

/-- No cascade for any window has a step for a rule with a text that is no pattern. -/
theorem not_hasStep_of_tells_invalidPattern (h : (audit rs windows).Tells .invalidPattern i)
    (w : Window) : ¬ (resolve rs w).HasStep i := by
  obtain ⟨r, f, p, hr, hp, hbroken⟩ := tells_invalidPattern_iff.mp h
  rw [hasStep_resolve_iff hr]
  exact Rule.not_suits_of_compile?_eq_none hp hbroken w

theorem lt_length_of_tells_invalidPattern (h : (audit rs windows).Tells .invalidPattern i) :
    i < rs.length := by
  obtain ⟨r, -, -, hr, -⟩ := tells_invalidPattern_iff.mp h
  exact (List.getElem?_eq_some_iff.mp hr).1

end Dead

/-- Audits made with one cache and cascades made with another agree whether a rule is dead. -/
structure AgreeOnDead (rs : Ruleset) (i : Nat) (c c' : PatternCache) : Prop where
  /-- An audit tells that the rule matches none of the open windows exactly if no cascade for one of
  them has a step for it. -/
  orphaned_iff (ws : List Window) : ((PatternCache.audit rs (some ws)).run c).1.Tells .orphaned i ↔
    i < rs.length ∧ ∀ w ∈ ws, ¬ ((PatternCache.resolve rs w).run c').1.HasStep i
  /-- If an audit, against windows or not, tells that the rule has a text that is no pattern, then
  no cascade for any window has a step for it. -/
  not_hasStep (windows : Option (List Window)) :
    ((PatternCache.audit rs windows).run c).1.Tells .invalidPattern i →
      ∀ w, ¬ ((PatternCache.resolve rs w).run c').1.HasStep i
  /-- And then audits against any windows tell that it matches none of them. -/
  orphaned (windows : Option (List Window)) :
    ((PatternCache.audit rs windows).run c).1.Tells .invalidPattern i →
      ∀ ws : List Window, ((PatternCache.audit rs (some ws)).run c).1.Tells .orphaned i

/-- **Audits and cascades agree about dead rules**, whatever patterns are remembered where they are
made. -/
theorem dead_rules_agree (rs : Ruleset) (i : Nat) {c c' : PatternCache} (hc : c.Sound)
    (hc' : c'.Sound) :
    AgreeOnDead rs i c c' := by
  have haudit : ∀ windows, ((PatternCache.audit rs windows).run c).1 = audit rs windows :=
    fun windows => (PatternCache.audit_answers rs windows c hc).1
  have hresolve : ∀ w, ((PatternCache.resolve rs w).run c').1 = resolve rs w :=
    fun w => (PatternCache.resolve_answers rs w c' hc').1
  constructor
  case orphaned_iff =>
    intro ws
    simp only [haudit, hresolve]
    exact tells_orphaned_iff_hasStep
  case not_hasStep =>
    intro windows hbroken w
    rw [haudit] at hbroken
    rw [hresolve]
    exact not_hasStep_of_tells_invalidPattern hbroken w
  case orphaned =>
    intro windows hbroken ws
    rw [haudit] at hbroken ⊢
    exact tells_orphaned_iff_hasStep.mpr ⟨lt_length_of_tells_invalidPattern hbroken,
      fun w _ => not_hasStep_of_tells_invalidPattern hbroken w⟩

/-- Two rules for one class.  The second has a text that is no pattern, and it is dead. -/
def halfDeadRules : Ruleset :=
  [{ criteria := { windowClass := some "fire" } },
   { criteria := { windowClass := some "fire", title := some "(" } }]

/-- A cache that was filled by a cascade.  It knows of the text that it is no pattern. -/
def resolvedCache : PatternCache :=
  ((PatternCache.resolve halfDeadRules
    { windowClass := some "firefox", title := some "Tabs" }).run {}).2

theorem dead_rules_agree_halfDeadRules : resolvedCache.Sound ∧
    ((PatternCache.audit halfDeadRules none).run {}).1.Tells .invalidPattern 1 ∧
    (∀ w, ¬ ((PatternCache.resolve halfDeadRules w).run resolvedCache).1.HasStep 1) ∧
    AgreeOnDead halfDeadRules 1 {} resolvedCache := by
  have hsound : resolvedCache.Sound :=
    (PatternCache.resolve_answers halfDeadRules _ {} PatternCache.sound_empty).2
  have hagree := dead_rules_agree halfDeadRules 1 PatternCache.sound_empty hsound
  have hbroken : ((PatternCache.audit halfDeadRules none).run {}).1.Tells .invalidPattern 1 := by
    rw [(PatternCache.audit_answers halfDeadRules none {} PatternCache.sound_empty).1]
    exact tells_invalidPattern_iff.mpr ⟨_, .title, "(", rfl, rfl, by decide +kernel⟩
  exact ⟨hsound, hbroken, hagree.not_hasStep none hbroken, hagree⟩

end WindowRules
