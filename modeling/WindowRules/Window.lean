import WindowRules.Rule.Field

/-!
# Windows

A window as the compositor reports it.  Any attribute may be absent, and a rule
that constrains an absent attribute does not match.
-/

namespace WindowRules

/-- What is known of an open window. -/
structure Window where
  windowClass : Option String := none
  title : Option String := none
  initialClass : Option String := none
  initialTitle : Option String := none
  workspaceName : Option String := none
  workspaceId : Option Int := none
  deriving DecidableEq, Inhabited

namespace Window

/-- The attribute that a match field constrains. -/
def get (w : Window) : MatchField → Option String
  | .windowClass => w.windowClass
  | .title => w.title
  | .initialClass => w.initialClass
  | .initialTitle => w.initialTitle
  | .workspaceTag => w.workspaceName

/-- What users see a window called. -/
def label (w : Window) : String :=
  match w.windowClass, w.title with
  | some c, some t => if t.isEmpty then c else c ++ " - " ++ t
  | some c, none => c
  | none, some t => t
  | none, none => "(unnamed window)"

end Window

end WindowRules
