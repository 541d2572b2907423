import WindowRules.Matching
import WindowRules.Ruleset

/-!
# Cascades

The rules that match a window are applied one after the other.  Each sets the
actions it has, over those that earlier rules have set, and leaves the others alone.
A cascade is the record of this: one step for each rule that matches, with what the
rule sets and what that changes, and the actions at the end.
-/

namespace WindowRules

/-! ## Applying actions -/

namespace Actions

/-- The actions of `state`, with those that `delta` sets in their place. -/
def merge (state delta : Actions) : Actions where
  tag := delta.tag.or state.tag
  workspace := delta.workspace.or state.workspace
  opacity := delta.opacity.or state.opacity
  size := delta.size.or state.size
  move := delta.move.or state.move
  float := delta.float.or state.float
  center := delta.center.or state.center

@[simp] theorem get_merge (state delta : Actions) (f : ActionField) :
    (state.merge delta).get f = (delta.get f).or (state.get f) := by cases f <;> rfl

@[simp] theorem getToggle_merge (state delta : Actions) (t : Toggle) :
    (state.merge delta).getToggle t = (delta.getToggle t).or (state.getToggle t) := by
  cases t <;> rfl

/-- The actions that are set, with their values as text, in the order they are
reported. -/
def shown (a : Actions) : List (String × String) :=
  (ActionField.all.filterMap fun f => (a.get f).map fun v => (f.key, v)) ++
  (Toggle.all.filterMap fun t => (a.getToggle t).map fun on => (t.key, switchText on))

end Actions

/-! ## Explaining a step -/

/-- The text for a value that was not set before. -/
def unsetText : String := "unset"

/-- The text for a step that changes nothing. -/
def noChangesText : String := "no visible changes"

/-- One change: a key, the old value and the new one. -/
def changeText (key : String) (old : Option String) (new : String) : String :=
  key ++ ": " ++ old.getD unsetText ++ " → " ++ new

/-- The changes that `delta` makes to the text actions of `prior`. -/
def fieldChanges (prior delta : Actions) : List String :=
  ActionField.all.filterMap fun f =>
    match delta.get f with
    | some new =>
      if prior.get f = some new then none else some (changeText f.key (prior.get f) new)
    | none => none

/-- The changes that `delta` makes to the toggles of `prior`. -/
def toggleChanges (prior delta : Actions) : List String :=
  Toggle.all.filterMap fun t =>
    match delta.getToggle t with
    | some new =>
      if prior.getToggle t = some new then none
      else some (changeText t.key ((prior.getToggle t).map switchText) (switchText new))
    | none => none

/-- What `delta` changes in `prior`, in words. -/
def explain (prior delta : Actions) : String :=
  match fieldChanges prior delta ++ toggleChanges prior delta with
  | [] => noChangesText
  | changes => ", ".intercalate changes

/-! ## The cascade -/

/-- What one matching rule does. -/
structure CascadeStep where
  /-- The place of the rule. -/
  index : Nat
  /-- What the rule is called. -/
  name : String
  /-- The actions that the rule sets. -/
  delta : Actions
  /-- What that changes, in words. -/
  explanation : String
  deriving DecidableEq

/-- How the rules that match a window add up. -/
structure Cascade where
  steps : List CascadeStep
  /-- The actions at the end. -/
  final : Actions
  deriving DecidableEq

/-- The steps of some rules, from actions that are set already. -/
def stepsFrom (state : Actions) : List (Nat × Rule) → List CascadeStep
  | [] => []
  | (i, r) :: rest =>
    ⟨i, r.displayName i, r.actions, explain state r.actions⟩ ::
      stepsFrom (state.merge r.actions) rest

/-- The actions after some rules, from actions that are set already. -/
def mergeAll (state : Actions) (rules : List (Nat × Rule)) : Actions :=
  rules.foldl (fun state r => state.merge r.2.actions) state

namespace Cascade

/-- The cascade of the rules that match. -/
def ofMatching (rules : List (Nat × Rule)) : Cascade := ⟨stepsFrom {} rules, mergeAll {} rules⟩

/-- How many rules the summary names. -/
def summaryLimit : Nat := 3

/-- The names of the first rules, in one line. -/
def summary (c : Cascade) : String :=
  match c.steps with
  | [] => "No rules match this window"
  | steps =>
    " → ".intercalate ((steps.take summaryLimit).map (·.name)) ++
      if summaryLimit < steps.length then " + more" else ""

/-- The line that reports a step. -/
def stepLine (s : CascadeStep) : String :=
  "  [" ++ toString s.index ++ "] " ++ s.name ++ ": " ++ s.explanation ++ "\n"

/-- The line that reports an action. -/
def actionLine (a : String × String) : String := "  " ++ a.1 ++ " = " ++ a.2 ++ "\n"

/-- The whole report: the summary, the steps, and the actions at the end. -/
def text (c : Cascade) : String :=
  c.summary ++ "\n" ++ String.join (c.steps.map stepLine) ++
    if c.steps.isEmpty then ""
    else "effective:\n" ++ String.join (c.final.shown.map actionLine)

end Cascade

/-- How the rules that match a window add up. -/
def resolve (rs : Ruleset) (w : Window) : Cascade := .ofMatching (matchingRules rs w)

namespace PatternCache

/-- How the rules that match a window add up. -/
def resolve (rs : Ruleset) (w : Window) : StateM PatternCache Cascade := do
  return .ofMatching (← matchingFrom w 0 rs)

end PatternCache

end WindowRules
