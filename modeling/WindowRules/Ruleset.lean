import WindowRules.Rule.Edit
import WindowRules.Text.Lowercase
import WindowRules.Text.Occurrence

/-!
# Rulesets

A ruleset is a list of rules.  The order counts: of two rules that match a window,
the later one has the last word.
-/

namespace WindowRules

/-- Rules, in the order in which they are applied. -/
abbrev Ruleset := List Rule

namespace Ruleset

/-- Adds a rule at the end. -/
def push (rs : Ruleset) (r : Rule) : Ruleset := rs ++ [r]

/-- Puts a rule in the place of the one at an index.  An index past the end changes
nothing. -/
def replace (rs : Ruleset) (index : Nat) (r : Rule) : Ruleset := rs.set index r

/-- Puts a rule before the one at an index.  Past the end it is added at the end. -/
def insert (rs : Ruleset) (index : Nat) (r : Rule) : Ruleset :=
  rs.take index ++ r :: rs.drop index

/-- Takes away the rule at an index. -/
def remove (rs : Ruleset) (index : Nat) : Ruleset := rs.eraseIdx index

/-- Whether the class pattern of a rule mentions a class, case left aside. -/
def mentionsClass (r : Rule) (windowClass : String) : Bool :=
  r.criteria.windowClass.any fun pattern =>
    Text.occursIn (Text.toLower windowClass.toList) (Text.toLower pattern.toList)

/-- Whether the class pattern of some rule mentions a class, case left aside. -/
def coversClass (rs : Ruleset) (windowClass : String) : Bool :=
  rs.any (mentionsClass · windowClass)

end Ruleset

end WindowRules
