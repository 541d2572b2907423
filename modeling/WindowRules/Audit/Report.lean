import WindowRules.Audit.Pairs
import WindowRules.Ruleset

/-!
# Audits of a ruleset

An audit lists first the issues between two rules, and then those of single rules:
patterns that are none, and, if the open windows are known, rules that match none of
them.  The report counts the issues of each severity as they are added.
-/

namespace WindowRules

/-! ## Issues of a single rule -/

/-- The issue of a text that is no pattern. -/
def brokenPatternIssue (i : Nat) (r : Rule) (p : MatchField × String) : Issue :=
  ⟨.invalidPattern, [i], "rule " ++ ruleText i r ++ " has an invalid " ++ p.1.key ++
    " pattern " ++ Text.quoted p.2⟩

/-- The issue of a rule that matches none of so many windows. -/
def orphanIssue (i : Nat) (r : Rule) (windows : Nat) : Issue :=
  ⟨.orphaned, [i], "rule " ++ ruleText i r ++ " matches none of the " ++ toString windows ++
    " open window(s)"⟩

/-- The issues of a rule, given its broken patterns and, if windows are known, their
number and whether the rule matches one. -/
def ruleIssues (i : Nat) (r : Rule) (broken : List (MatchField × String))
    (windows : Option (Nat × Bool)) : List Issue :=
  broken.map (brokenPatternIssue i r) ++
    match windows with
    | some (count, false) => [orphanIssue i r count]
    | _ => []

/-! ## The report -/

/-- The number of issues of each severity. -/
structure SeverityCounts where
  errors : Nat := 0
  warnings : Nat := 0
  infos : Nat := 0
  deriving DecidableEq

/-- Counts one more. -/
def SeverityCounts.add (c : SeverityCounts) : Severity → SeverityCounts
  | .error => { c with errors := c.errors + 1 }
  | .warning => { c with warnings := c.warnings + 1 }
  | .info => { c with infos := c.infos + 1 }

/-- What an audit found. -/
structure Report where
  issues : List Issue := []
  counts : SeverityCounts := {}
  deriving DecidableEq

namespace Report

/-- Adds an issue and counts it. -/
def push (r : Report) (i : Issue) : Report := ⟨r.issues ++ [i], r.counts.add i.severity⟩

/-- Adds issues in order. -/
def pushAll (r : Report) (is : List Issue) : Report := is.foldl push r

/-- Whether nothing was found. -/
def isClean (r : Report) : Bool := r.issues.isEmpty

/-- The report as users see it: the issues, and the counts in one line. -/
def text (r : Report) : String :=
  String.join (r.issues.map fun i => i.text ++ "\n") ++
    toString r.counts.errors ++ " error(s), " ++ toString r.counts.warnings ++
    " warning(s), " ++ toString r.counts.infos ++ " info"

end Report

/-- All issues of single rules. -/
def allRuleIssues (rs : Ruleset) (windows : Option (List Window)) : List Issue :=
  rs.zipIdx.flatMap fun p =>
    ruleIssues p.2 p.1 p.1.brokenPatterns
      (windows.map fun ws => (ws.length, ws.any fun w => p.1.matches w))

/-- Audits a ruleset.  Without windows, no rule is reported for matching none. -/
def audit (rs : Ruleset) (windows : Option (List Window)) : Report :=
  Report.pushAll {} (allPairIssues 0 rs ++ allRuleIssues rs windows)

namespace PatternCache

/-- Whether a rule matches some window, if windows are known, with their number. -/
def windowHit (r : Rule) : Option (List Window) → StateM PatternCache (Option (Nat × Bool))
  | none => pure none
  | some ws => do return some (ws.length, ← matchesSome r ws)

/-- All issues of single rules, the first of which has place `i`. -/
def ruleIssuesFrom (windows : Option (List Window)) :
    Nat → List Rule → StateM PatternCache (List Issue)
  | _, [] => pure []
  | i, r :: rs => do
    let broken ← brokenPatterns r.criteria.patterns
    let hit ← windowHit r windows
    let rest ← ruleIssuesFrom windows (i + 1) rs
    return ruleIssues i r broken hit ++ rest

/-- Audits a ruleset. -/
def audit (rs : Ruleset) (windows : Option (List Window)) : StateM PatternCache Report := do
  let issues ← ruleIssuesFrom windows 0 rs
  return Report.pushAll {} (allPairIssues 0 rs ++ issues)

end PatternCache

end WindowRules
