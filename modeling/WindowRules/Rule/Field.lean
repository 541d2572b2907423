/-!
# Fields of a rule

A rule has match fields, which constrain a window; actions with a text value;
toggles, which are actions that are on or off; a name; and extras, which are kept
but not interpreted.  In a config file each is written `key = value`, and
`Directive.ofKey` says which field a key stands for.  The reader of config files
and the editing of a rule both go by it.
-/

namespace WindowRules

/-- An attribute of a window that a rule can constrain. -/
inductive MatchField where
  | windowClass
  | title
  | initialClass
  | initialTitle
  /-- Constrains the name of the workspace that the window is on. -/
  | workspaceTag
  deriving DecidableEq

namespace MatchField

/-- All match fields, in the order they are written and reported. -/
def all : List MatchField := [.windowClass, .title, .initialClass, .initialTitle, .workspaceTag]

/-- The key that the field is written with. -/
def key : MatchField → String
  | .windowClass => "match:class"
  | .title => "match:title"
  | .initialClass => "match:initial_class"
  | .initialTitle => "match:initial_title"
  | .workspaceTag => "match:tag"

/-- The field with a given key.  The two initial attributes have a second spelling. -/
def ofKey? : String → Option MatchField
  | "match:class" => some .windowClass
  | "match:title" => some .title
  | "match:initialClass" => some .initialClass
  | "match:initial_class" => some .initialClass
  | "match:initialTitle" => some .initialTitle
  | "match:initial_title" => some .initialTitle
  | "match:tag" => some .workspaceTag
  | _ => none

@[simp] theorem ofKey?_key (f : MatchField) : ofKey? f.key = some f := by cases f <;> rfl

theorem mem_all (f : MatchField) : f ∈ all := by cases f <;> decide

end MatchField

/-- An action with a text value. -/
inductive ActionField where
  | tag
  | workspace
  | opacity
  | size
  | move
  deriving DecidableEq

namespace ActionField

/-- All actions with a text value, in the order they are written and reported. -/
def all : List ActionField := [.tag, .workspace, .opacity, .size, .move]

/-- The key that the action is written with. -/
def key : ActionField → String
  | .tag => "tag"
  | .workspace => "workspace"
  | .opacity => "opacity"
  | .size => "size"
  | .move => "move"

/-- The action with a given key. -/
def ofKey? : String → Option ActionField
  | "tag" => some .tag
  | "workspace" => some .workspace
  | "opacity" => some .opacity
  | "size" => some .size
  | "move" => some .move
  | _ => none

@[simp] theorem ofKey?_key (f : ActionField) : ofKey? f.key = some f := by cases f <;> rfl

theorem mem_all (f : ActionField) : f ∈ all := by cases f <;> decide

end ActionField

/-- An action that is on or off. -/
inductive Toggle where
  | float
  | center
  deriving DecidableEq

namespace Toggle

/-- All toggles, in the order they are written and reported. -/
def all : List Toggle := [.float, .center]

/-- The key that the toggle is written with. -/
def key : Toggle → String
  | .float => "float"
  | .center => "center"

/-- The toggle with a given key. -/
def ofKey? : String → Option Toggle
  | "float" => some .float
  | "center" => some .center
  | _ => none

@[simp] theorem ofKey?_key (t : Toggle) : ofKey? t.key = some t := by cases t <;> rfl

theorem mem_all (t : Toggle) : t ∈ all := by cases t <;> decide

end Toggle

/-- How a toggle is written. -/
def switchText (on : Bool) : String := if on then "true" else "false"

/-- Reads a toggle.  Case counts. -/
def readSwitch? : String → Option Bool
  | "true" => some true
  | "yes" => some true
  | "1" => some true
  | "false" => some false
  | "no" => some false
  | "0" => some false
  | _ => none

@[simp] theorem readSwitch?_switchText (on : Bool) : readSwitch? (switchText on) = some on := by
  cases on <;> rfl

/-- What a key stands for. -/
inductive Directive where
  | criterion (f : MatchField)
  | action (f : ActionField)
  | toggle (t : Toggle)
  | name
  /-- A match field that rules do not have. -/
  | unknownMatch
  /-- Anything else: kept, and not interpreted. -/
  | extra
  deriving DecidableEq

namespace Directive

/-- What the keys of all match fields start with. -/
def matchMark : String := "match:"

/-- What a key stands for. -/
def ofKey (key : String) : Directive :=
  match MatchField.ofKey? key with
  | some f => .criterion f
  | none =>
    if matchMark.toList.isPrefixOf key.toList then .unknownMatch
    else
      match ActionField.ofKey? key with
      | some f => .action f
      | none =>
        match Toggle.ofKey? key with
        | some t => .toggle t
        | none => if key = "name" then .name else .extra

@[simp] theorem ofKey_matchKey (f : MatchField) : ofKey f.key = .criterion f := by
  simp [ofKey]

@[simp] theorem ofKey_actionKey (f : ActionField) : ofKey f.key = .action f := by
  cases f <;> rfl

@[simp] theorem ofKey_toggleKey (t : Toggle) : ofKey t.key = .toggle t := by
  cases t <;> rfl

@[simp] theorem ofKey_name : ofKey "name" = .name := rfl

end Directive

end WindowRules
