import WindowRules.Matching
import WindowRules.Text.Quoted

/-!
# Issues

What an audit of a ruleset can find.  An issue is the finding itself, with the rules
it is about; its severity, its wording and the advice that goes with it follow.
-/

namespace WindowRules

/-- How bad an issue is. -/
inductive Severity where
  | error
  | warning
  | info
  deriving DecidableEq

/-- The name of a severity. -/
def Severity.name : Severity → String
  | .error => "error"
  | .warning => "warning"
  | .info => "info"

/-- The kinds of issues. -/
inductive IssueKind where
  /-- Two rules have the same class pattern and the same title pattern. -/
  | exactDuplicate
  /-- The class pattern of a rule occurs in that of a later one. -/
  | subsumed
  /-- Two rules for one class set an action to different values. -/
  | conflictingActions
  /-- A rule matches no open window. -/
  | orphaned
  /-- A rule has a text that is no pattern. -/
  | invalidPattern
  deriving DecidableEq

namespace IssueKind

/-- The name of a kind. -/
def name : IssueKind → String
  | .exactDuplicate => "exact-duplicate"
  | .subsumed => "subsumed"
  | .conflictingActions => "conflicting-actions"
  | .orphaned => "orphaned"
  | .invalidPattern => "invalid-pattern"

/-- How bad issues of a kind are. -/
def severity : IssueKind → Severity
  | .exactDuplicate | .invalidPattern => .error
  | .subsumed | .conflictingActions => .warning
  | .orphaned => .info

/-- The advice for issues of a kind. -/
def suggestion : IssueKind → String
  | .exactDuplicate => "merge the two rules into one, or delete the redundant rule"
  | .subsumed => "anchor the broader pattern or confirm both rules are still needed"
  | .conflictingActions => "keep a single value; the later rule currently wins"
  | .orphaned => "remove the rule, or check its patterns against the live window list"
  | .invalidPattern => "fix the regular expression; as written the rule never matches"

end IssueKind

/-- One finding. -/
structure Issue where
  kind : IssueKind
  /-- The places of the rules it is about. -/
  rules : List Nat
  description : String
  deriving DecidableEq

namespace Issue

def severity (i : Issue) : Severity := i.kind.severity

def suggestion (i : Issue) : String := i.kind.suggestion

/-- The issue as users see it. -/
def text (i : Issue) : String :=
  i.severity.name ++ "[" ++ i.kind.name ++ "]: " ++ i.description ++
    "\n    help: " ++ i.suggestion

end Issue

end WindowRules
