import WindowRules.Audit.Issue
import WindowRules.Text.Occurrence

/-!
# Issues between two rules

Each rule is compared with every later one, by the texts of their patterns.  That one
class pattern occurs in another is no proof that it matches more, so it is only a
warning.
-/

namespace WindowRules

/-- The class pattern of a rule, unless it is empty. -/
def Rule.classPattern? (r : Rule) : Option String := r.criteria.windowClass.filter (!·.isEmpty)

/-- Whether two optional values are both present and different. -/
def disagree {α : Type} [DecidableEq α] : Option α → Option α → Bool
  | some a, some b => a ≠ b
  | _, _ => false

/-- The actions that two rules set to different values, among those where it would
be noticed. -/
def conflictingFields (a b : Rule) : List String :=
  (if disagree a.actions.workspace b.actions.workspace then ["workspace"] else []) ++
  (if disagree a.actions.tag b.actions.tag then ["tag"] else []) ++
  (if disagree a.actions.float b.actions.float then ["float"] else [])

/-- A rule as an issue names it: its place, and what it is called. -/
def ruleText (index : Nat) (r : Rule) : String :=
  toString index ++ " (" ++ r.displayName index ++ ")"

/-- Whether two rules have the same class pattern and the same title pattern. -/
def sameTarget (a b : Rule) : Bool :=
  a.criteria.windowClass = b.criteria.windowClass && a.criteria.title = b.criteria.title

/-- The issue of two rules with one target. -/
def duplicateIssue (i : Nat) (a : Rule) (j : Nat) (b : Rule) : Issue :=
  ⟨.exactDuplicate, [i, j], "rules " ++ ruleText i a ++ " and " ++ ruleText j b ++
    " have identical class and title patterns"⟩

/-- The issue of a class pattern that occurs in that of a later rule. -/
def subsumedIssue (i : Nat) (classA : String) (j : Nat) (classB : String) : Issue :=
  ⟨.subsumed, [i, j], "class pattern " ++ Text.quoted classA ++ " of rule " ++ toString i ++
    " is contained in " ++ Text.quoted classB ++ " of rule " ++ toString j⟩

/-- The issue of two rules for one class that set some actions to different values. -/
def conflictIssue (i j : Nat) (windowClass : String) (fields : List String) : Issue :=
  ⟨.conflictingActions, [i, j], "rules " ++ toString i ++ " and " ++ toString j ++
    " match class " ++ Text.quoted windowClass ++ " but disagree on " ++
    ", ".intercalate fields⟩

/-- The issues of two rules that both have a class pattern. -/
def classIssues (i : Nat) (a : Rule) (classA : String) (j : Nat) (b : Rule) (classB : String) :
    List Issue :=
  (if Text.occursIn (withoutAnchors classA.toList) (withoutAnchors classB.toList) then
    [subsumedIssue i classA j classB]
  else []) ++
  (if classA = classB ∧ conflictingFields a b ≠ [] then
    [conflictIssue i j classA (conflictingFields a b)]
  else [])

/-- All issues between a rule and a later one. -/
def pairIssues (i : Nat) (a : Rule) (j : Nat) (b : Rule) : List Issue :=
  (if sameTarget a b then [duplicateIssue i a j b] else []) ++
    match a.classPattern?, b.classPattern? with
    | some classA, some classB => classIssues i a classA j b classB
    | _, _ => []

/-- All issues between two rules of a list, by the place of the first rule and then
by that of the second.  The first rule of the list has place `i`. -/
def allPairIssues (i : Nat) : List Rule → List Issue
  | [] => []
  | a :: rest =>
    (rest.zipIdx (i + 1)).flatMap (fun p => pairIssues i a p.2 p.1) ++ allPairIssues (i + 1) rest

end WindowRules
