import WindowRules.Proofs.Audit.Findings

/-!
# What a report says

A report has the issues that are due and counts them by severity.  The counts are kept apart from
the list, one issue at a time, and `Report.Exact` says that they agree with it in the end.  With
remembered patterns the report is the same.
-/

namespace WindowRules

/-! ## Counting -/

/-- The count of a severity. -/
def SeverityCounts.get (c : SeverityCounts) : Severity → Nat
  | .error => c.errors
  | .warning => c.warnings
  | .info => c.infos

theorem SeverityCounts.get_add (c : SeverityCounts) (s t : Severity) :
    (c.add s).get t = c.get t + if s = t then 1 else 0 := by
  cases s <;> cases t <;> rfl

namespace Report

theorem issues_pushAll (r : Report) (is : List Issue) :
    (r.pushAll is).issues = r.issues ++ is := by
  induction is generalizing r with
  | nil => exact (List.append_nil r.issues).symm
  | cons x is ih =>
    have h := ih (r.push x)
    rwa [push, List.append_assoc] at h

/-- **Each issue moves the count of its severity**, and no other. -/
theorem get_counts_pushAll (r : Report) (is : List Issue) (s : Severity) :
    (r.pushAll is).counts.get s = r.counts.get s + is.countP fun x => x.severity = s := by
  induction is generalizing r with
  | nil => rfl
  | cons x is ih =>
    show ((r.push x).pushAll is).counts.get s = _
    rw [ih, push, SeverityCounts.get_add, List.countP_cons]
    simp only [decide_eq_true_eq]
    omega

/-- Every issue has one of the severities. -/
theorem length_eq_sum_countP (is : List Issue) : is.length =
    (is.countP fun x => x.severity = .error) + (is.countP fun x => x.severity = .warning) +
      is.countP fun x => x.severity = .info := by
  induction is with
  | nil => rfl
  | cons x is ih =>
    rw [List.length_cons, List.countP_cons, List.countP_cons, List.countP_cons, ih]
    cases x.severity <;> simp <;> omega

/-- A report says of a ruleset what there is to say. -/
structure Exact (r : Report) (rs : Ruleset) (windows : Option (List Window)) : Prop where
  /-- The issues are those that are due, in the order of findings and each once. -/
  issues_iff : ∀ l, Listed (Due rs windows) l ↔ l = r.issues
  /-- Each is of the kind of its finding and about the rules of its finding. -/
  told : ∀ f x, Due rs windows f x → x.TellsOf f
  /-- Each severity is counted. -/
  counted : ∀ s, r.counts.get s = r.issues.countP fun x => x.severity = s
  total : r.counts.errors + r.counts.warnings + r.counts.infos = r.issues.length

end Report

theorem issues_audit (rs : Ruleset) (windows : Option (List Window)) :
    (audit rs windows).issues = allPairIssues 0 rs ++ allRuleIssues rs windows :=
  Report.issues_pushAll {} _

theorem listed_issues_audit (rs : Ruleset) (windows : Option (List Window)) :
    Listed (Due rs windows) (audit rs windows).issues := by
  rw [issues_audit]
  exact listed_due rs windows

theorem mem_issues_audit {rs : Ruleset} {windows : Option (List Window)} {x : Issue} :
    x ∈ (audit rs windows).issues ↔ ∃ f, Due rs windows f x :=
  (listed_issues_audit rs windows).mem_iff

theorem get_counts_audit (rs : Ruleset) (windows : Option (List Window)) (s : Severity) :
    (audit rs windows).counts.get s =
      (audit rs windows).issues.countP fun x => x.severity = s := by
  rw [issues_audit, audit, Report.get_counts_pushAll]
  cases s <;> exact Nat.zero_add _

/-! ## Remembered patterns -/

namespace PatternCache

theorem windowHit_answers (r : Rule) (windows : Option (List Window)) :
    Answers (windowHit r windows)
    (windows.map fun ws => (ws.length, ws.any fun w => r.matches w)) := by
  cases windows with
  | none => exact Answers.pure none
  | some ws => exact (matchesSome_answers r ws).bind (Answers.pure _)

theorem ruleIssuesFrom_answers (windows : Option (List Window)) (i : Nat) (rs : List Rule) :
    Answers (ruleIssuesFrom windows i rs) ((rs.zipIdx i).flatMap fun p =>
      ruleIssues p.2 p.1 p.1.brokenPatterns
        (windows.map fun ws => (ws.length, ws.any fun w => p.1.matches w))) := by
  induction rs generalizing i with
  | nil => exact Answers.pure []
  | cons r rs ih =>
    rw [List.zipIdx_cons, List.flatMap_cons]
    exact (brokenPatterns_answers r.criteria.patterns).bind
      ((windowHit_answers r windows).bind ((ih (i + 1)).bind (Answers.pure _)))

/-- The report that is made with remembered patterns is the one that is made without. -/
theorem audit_answers (rs : Ruleset) (windows : Option (List Window)) :
    Answers (audit rs windows) (WindowRules.audit rs windows) :=
  (ruleIssuesFrom_answers windows 0 rs).bind (Answers.pure _)

end PatternCache

/-- **An audit reports exactly what is due.**  For two rules, the earlier one first: that they have
the same target, that the class pattern of the one occurs in that of the other, that they disagree
for one class.  For one rule, after all pairs: each of its patterns that is none, and that it
matches no window, if the windows are known.  The issues are in the order of these findings and none
is told twice, which leaves one list only; each issue is of the kind of its finding and names the
rules of its finding; each severity is counted as often as it is listed.  Patterns that are
remembered make no difference. -/
theorem exact_audit (rs : Ruleset) (windows : Option (List Window)) (c : PatternCache)
    (hc : c.Sound) :
    ((PatternCache.audit rs windows).run c).1 = audit rs windows ∧
      (audit rs windows).Exact rs windows := by
  have hlisted : Listed (Due rs windows) (audit rs windows).issues := by
    rw [issues_audit]
    exact listed_due rs windows
  refine ⟨(PatternCache.audit_answers rs windows c hc).1, fun l => ⟨fun h => h.unique hlisted, ?_⟩,
    fun _ _ hdue => hdue.tellsOf, get_counts_audit rs windows, ?_⟩
  · rintro rfl
    exact hlisted
  · rw [Report.length_eq_sum_countP, ← get_counts_audit, ← get_counts_audit, ← get_counts_audit]
    rfl

/-- Rules with all kinds of issues.  The second and the third have one target and float differently;
the first has the same class pattern and an empty title pattern besides, so it is a duplicate of
neither; the last has a class pattern in which those of the others occur, once the anchors are away,
and a text that is no pattern. -/
def clashingRules : Ruleset :=
  [{ criteria := { windowClass := some "^fire$", title := some "" } },
   { criteria := { windowClass := some "^fire$" }, actions := { float := some true } },
   { criteria := { windowClass := some "^fire$" }, actions := { float := some false } },
   { criteria := { windowClass := some "^firefox$", title := some "", initialTitle := some "(" } }]

/-- A cache that was filled by an earlier audit of other windows. -/
def auditedCache : PatternCache := ((PatternCache.audit clashingRules (some [])).run {}).2

theorem exact_audit_clashingRules : auditedCache.Sound ∧
    ((PatternCache.audit clashingRules
    (some [{ windowClass := some "fire" }])).run auditedCache).1 =
      audit clashingRules (some [{ windowClass := some "fire" }]) ∧
    (audit clashingRules (some [{ windowClass := some "fire" }])).Exact clashingRules
      (some [{ windowClass := some "fire" }]) := by
  have hsound : auditedCache.Sound :=
    (PatternCache.audit_answers clashingRules (some []) {} PatternCache.sound_empty).2
  exact ⟨hsound, exact_audit clashingRules _ auditedCache hsound⟩

end WindowRules
