import WindowRules.Audit.Report
import WindowRules.Cascade
import WindowRules.Config.Writer
import WindowRules.History

/-!
# Editing sessions

A session holds the active rules, the rules that were disabled, the history of
changes, and the patterns it has turned so far.  Every change is checked first: if
the index or the field is wrong nothing happens, and a change that leaves the rule as
it was is not recorded.  Undoing and redoing put rules back to where the history
says; a disabled rule that comes back is the last one like it.

A session remembers only patterns that an active rule has: each operation that can
take a pattern out of use drops the others.
-/

namespace WindowRules

/-- Why an operation of a session fails. -/
inductive SessionError where
  /-- There is no rule at an index, out of so many. -/
  | noRule (index count : Nat)
  | field (e : FieldError)
  /-- The history speaks of a rule that is not there. -/
  | lostRule (index : Nat)
  deriving DecidableEq

/-- The text of the error. -/
def SessionError.message : SessionError → String
  | .noRule index count =>
    "no rule at index " ++ toString index ++ " (" ++ toString count ++ " rule(s) loaded)"
  | .field e => e.message
  | .lostRule index => "history refers to missing rule " ++ toString index

/-- Takes the last element like a given one out of a list. -/
def eraseLast {α : Type} [DecidableEq α] (x : α) (xs : List α) : List α :=
  (xs.reverse.erase x).reverse

/-- An editing session. -/
structure Session where
  /-- The active rules. -/
  rules : Ruleset
  /-- The disabled rules, in the order they were disabled. -/
  disabled : List Rule := []
  history : History
  cache : PatternCache := {}
  /-- The time of day at which changes are recorded. -/
  now : String := ""

namespace Session

/-- A session with some rules and a history of some capacity. -/
def ofRules (rules : Ruleset) (capacity : Nat) : Session :=
  { rules, history := .ofCapacity capacity }

/-- The patterns of the active rules. -/
def livePatterns (s : Session) : List String :=
  s.rules.flatMap fun r => r.criteria.patterns.map (·.2)

/-- Forgets the patterns that no active rule has. -/
def prune (s : Session) : Session :=
  { s with cache := s.cache.retain fun text => s.livePatterns.contains text }

/-- The rule at an index. -/
def rule? (s : Session) (index : Nat) : Except SessionError Rule :=
  match s.rules[index]? with
  | some r => .ok r
  | none => .error (.noRule index s.rules.length)

/-- Records a change. -/
def record (s : Session) (kind : ChangeKind) (index : Nat) (before after : Rule)
    (description : String) : Session :=
  { s with history := s.history.record ⟨kind, index, before, after, description, s.now⟩ }

/-! ## Changes -/

/-- Puts a rule in the place of another. -/
def edit (s : Session) (index : Nat) (rule : Rule) (description : String) :
    Except SessionError Session := do
  let before ← s.rule? index
  if before = rule then return s
  let s := s.record .edit index before rule description
  return { s with rules := s.rules.replace index rule }.prune

/-- Gives a field of a rule a value. -/
def setField (s : Session) (index : Nat) (key value : String) : Except SessionError Session := do
  let before ← s.rule? index
  match before.set key value with
  | .error e => .error (.field e)
  | .ok rule => s.edit index rule ("set " ++ key ++ " = " ++ value)

/-- Clears a field of a rule.  Also returns whether it was present. -/
def unsetField (s : Session) (index : Nat) (key : String) :
    Except SessionError (Bool × Session) := do
  let before ← s.rule? index
  if before.has key then
    return (true, ← s.edit index (before.unset key) ("unset " ++ key))
  else return (false, s)

/-- Gives a rule a name, or none if the name is empty. -/
def rename (s : Session) (index : Nat) (name : String) : Except SessionError Session := do
  let before ← s.rule? index
  let after := { before with name := if name.isEmpty then none else some name }
  if before = after then return s
  let s := s.record .rename index before after
    ("rename " ++ before.displayName index ++ " -> " ++ after.displayName index)
  return { s with rules := s.rules.replace index after }

/-- Takes a rule away.  Also returns it. -/
def delete (s : Session) (index : Nat) : Except SessionError (Rule × Session) := do
  let before ← s.rule? index
  let s := s.record .delete index before {} ("delete " ++ before.displayName index)
  return (before, { s with rules := s.rules.remove index }.prune)

/-- Takes a rule out of use without losing it. -/
def disable (s : Session) (index : Nat) : Except SessionError Session := do
  let rule ← s.rule? index
  let s := s.record .disable index rule rule ("disable " ++ rule.displayName index)
  return { s with rules := s.rules.remove index, disabled := s.disabled ++ [rule] }.prune

/-! ## Undoing and redoing -/

/-- Puts a rule from the history in the place of the one that is there. -/
def putBack (s : Session) (r : Restoration) : Except SessionError Session :=
  if r.index < s.rules.length then .ok { s with rules := s.rules.replace r.index r.rule }.prune
  else .error (.lostRule r.index)

/-- What undoing a change does to the rules. -/
def revert (s : Session) (r : Restoration) : Except SessionError Session :=
  match r.kind with
  | .edit | .rename => s.putBack r
  | .delete => .ok { s with rules := s.rules.insert r.index r.rule }.prune
  | .disable =>
    .ok { s with rules := s.rules.insert r.index r.rule,
                 disabled := eraseLast r.rule s.disabled }.prune

/-- What redoing a change does to the rules. -/
def reapply (s : Session) (r : Restoration) : Except SessionError Session :=
  match r.kind with
  | .edit | .rename => s.putBack r
  | .delete =>
    if r.index < s.rules.length then .ok { s with rules := s.rules.remove r.index }.prune
    else .error (.lostRule r.index)
  | .disable =>
    match s.rules[r.index]? with
    | some rule =>
      .ok { s with rules := s.rules.remove r.index, disabled := s.disabled ++ [rule] }.prune
    | none => .error (.lostRule r.index)

/-- A result of undoing or redoing: an error, or the kind of the change if there was
one.  The cursor of the history has moved in any case. -/
abbrev StepResult := Except SessionError (Option ChangeKind) × Session

/-- Carries out a restoration in a session whose cursor has moved. -/
def finishStep (moved : Session) (kind : ChangeKind) : Except SessionError Session → StepResult
  | .ok s => (.ok (some kind), s)
  | .error e => (.error e, moved)

/-- Reverts the latest change. -/
def undo (s : Session) : StepResult :=
  match s.history.undo? with
  | none => (.ok none, s)
  | some (r, history) =>
    let moved := { s with history }
    finishStep moved r.kind (moved.revert r)

/-- Applies the next change once more. -/
def redo (s : Session) : StepResult :=
  match s.history.redo? with
  | none => (.ok none, s)
  | some (r, history) =>
    let moved := { s with history }
    finishStep moved r.kind (moved.reapply r)

/-! ## Looking -/

/-- The cascade for a window. -/
def resolve (s : Session) (w : Window) : Cascade × Session :=
  let (c, cache) := PatternCache.resolve s.rules w |>.run s.cache
  (c, { s with cache })

/-- Audits the active rules. -/
def audit (s : Session) (windows : Option (List Window)) : Report × Session :=
  let (r, cache) := PatternCache.audit s.rules windows |>.run s.cache
  (r, { s with cache })

/-- The active rules as a config file, with the disabled ones as comments after
them. -/
def toConfig (s : Session) : String :=
  s.disabled.foldl
    (fun out r => out ++ (if out.isEmpty then "" else "\n") ++ Config.writeComment r)
    (Config.write s.rules)

end Session

end WindowRules
