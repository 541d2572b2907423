import WindowRules.Proofs.Audit.Report

/-!
# Faults of a ruleset

An audit counts errors, and it counts them as it walks over pairs, rules and windows.  Whether there
are any is a property of the rules alone (`Faulty`): two rules have one target, or a rule has a text
that is no pattern.  Warnings are no errors, and neither are orphans.

Orphans are also the only issues for which the windows matter.  Without them the issues are those
that an audit without windows lists, in the same order and with the same texts
(`filter_issues_audit`).
-/

namespace WindowRules

/-- Two rules have the same class pattern and the same title pattern, or a rule has a text that is
no pattern. -/
def Faulty (rs : Ruleset) : Prop :=
  (∃ (i j : Nat) (a b : Rule), i < j ∧ rs[i]? = some a ∧ rs[j]? = some b ∧
    a.criteria.windowClass = b.criteria.windowClass ∧ a.criteria.title = b.criteria.title) ∨
  ∃ r ∈ rs, ∃ f p, r.criteria.get f = some p ∧ Pattern.compile? p = none

/-- **An audit counts errors exactly if the rules are faulty.** -/
theorem errors_audit_pos_iff (rs : Ruleset) (windows : Option (List Window)) :
    0 < (audit rs windows).counts.errors ↔ Faulty rs := by
  have hcount : (audit rs windows).counts.errors =
      (audit rs windows).issues.countP fun x => x.severity = .error :=
    get_counts_audit rs windows .error
  rw [hcount, List.countP_pos_iff]
  constructor
  · rintro ⟨x, hx, hseverity⟩
    have hseverity := of_decide_eq_true hseverity
    obtain ⟨f, hdue⟩ := mem_issues_audit.mp hx
    cases hdue with
    | pair hlt ha hb h =>
      cases h with
      | duplicate hclass htitle => exact .inl ⟨_, _, _, _, hlt, ha, hb, hclass, htitle⟩
      | subsumed => cases hseverity
      | conflict => cases hseverity
    | single hr h =>
      cases h with
      | broken hp hbroken => exact .inr ⟨_, List.mem_of_getElem? hr, _, _, hp, hbroken⟩
      | orphan => cases hseverity
  · rintro (⟨i, j, a, b, hlt, ha, hb, hclass, htitle⟩ | ⟨r, hr, f, p, hp, hbroken⟩)
    · exact ⟨_, mem_issues_audit.mpr ⟨_, .pair hlt ha hb (.duplicate hclass htitle)⟩, rfl⟩
    · obtain ⟨i, hi⟩ := List.mem_iff_getElem?.mp hr
      exact ⟨_, mem_issues_audit.mpr ⟨_, .single hi (.broken hp hbroken)⟩, rfl⟩

/-! ## What depends on windows -/

/-- No issue of two rules is that of an orphan. -/
theorem kind_ne_orphaned_of_mem_allPairIssues {rs : Ruleset} {n : Nat} {x : Issue}
    (hx : x ∈ allPairIssues n rs) : x.kind ≠ .orphaned := by
  obtain ⟨f, p, -, q, -, -, hdue⟩ := (listed_allPairIssues n rs).mem_iff.mp hx
  cases hdue <;> exact nofun

/-- The issues of a rule are those that it has without windows, and that of an orphan. -/
theorem filter_ruleIssues (i : Nat) (r : Rule) (broken : List (MatchField × String))
    (hit : Option (Nat × Bool)) :
    (ruleIssues i r broken hit).filter (·.kind ≠ .orphaned) = ruleIssues i r broken none := by
  have hbroken : (broken.map (brokenPatternIssue i r)).filter (·.kind ≠ .orphaned) =
      broken.map (brokenPatternIssue i r) := by
    refine List.filter_eq_self.mpr fun x hx => ?_
    obtain ⟨p, -, rfl⟩ := List.mem_map.mp hx
    rfl
  unfold ruleIssues
  rw [List.filter_append, hbroken]
  split
  · rfl
  · rfl

/-- **Without orphans an audit lists what it lists without windows.** -/
theorem filter_issues_audit (rs : Ruleset) (windows : Option (List Window)) :
    (audit rs windows).issues.filter (·.kind ≠ .orphaned) = (audit rs none).issues := by
  have hpairs : (allPairIssues 0 rs).filter (·.kind ≠ .orphaned) = allPairIssues 0 rs :=
    List.filter_eq_self.mpr fun x hx => decide_eq_true (kind_ne_orphaned_of_mem_allPairIssues hx)
  rw [issues_audit, issues_audit, List.filter_append, hpairs, allRuleIssues, List.filter_flatMap]
  simp only [filter_ruleIssues]
  rfl

end WindowRules
