import WindowRules.Rule.Basic

/-!
# Changing a field of a rule

`Rule.set` and `Rule.unset` change the field that a key stands for.  Setting is
strict: a match field that rules do not have, and a toggle that is neither on nor
off, are errors.  Extras may repeat a key; setting changes the first of that key,
and unsetting takes all of them.

`Rule.assign` is what a line of a config file does.  It is lenient, and the first
assignment of a field wins.
-/

namespace WindowRules

/-- Why a field cannot be set. -/
inductive FieldError where
  | unknownMatchKey (key : String)
  | notASwitch (key value : String)
  deriving DecidableEq

/-- The text of the error. -/
def FieldError.message : FieldError → String
  | .unknownMatchKey key => "unsupported match key '" ++ key ++ "'"
  | .notASwitch key value =>
    "'" ++ key ++ "' expects true/false, yes/no or 1/0, got '" ++ value ++ "'"

/-- Gives the first extra with a key a new value, or adds one at the end. -/
def setExtra (key value : String) : List (String × String) → List (String × String)
  | [] => [(key, value)]
  | e :: es => if e.1 = key then (key, value) :: es else e :: setExtra key value es

namespace Rule

/-- Gives the field with a key a value. -/
def set (r : Rule) (key value : String) : Except FieldError Rule :=
  match Directive.ofKey key with
  | .criterion f => .ok { r with criteria := r.criteria.set f (some value) }
  | .action f => .ok { r with actions := r.actions.set f (some value) }
  | .toggle t =>
    match readSwitch? value with
    | some on => .ok { r with actions := r.actions.setToggle t (some on) }
    | none => .error (.notASwitch key value)
  | .name => .ok { r with name := some value }
  | .unknownMatch => .error (.unknownMatchKey key)
  | .extra => .ok { r with extras := setExtra key value r.extras }

/-- Whether the field with a key is present. -/
def has (r : Rule) (key : String) : Bool :=
  match Directive.ofKey key with
  | .criterion f => (r.criteria.get f).isSome
  | .action f => (r.actions.get f).isSome
  | .toggle t => (r.actions.getToggle t).isSome
  | .name => r.name.isSome
  | .unknownMatch => false
  | .extra => r.extras.any (·.1 = key)

/-- Clears the field with a key. -/
def unset (r : Rule) (key : String) : Rule :=
  match Directive.ofKey key with
  | .criterion f => { r with criteria := r.criteria.set f none }
  | .action f => { r with actions := r.actions.set f none }
  | .toggle t => { r with actions := r.actions.setToggle t none }
  | .name => { r with name := none }
  | .unknownMatch => r
  | .extra => { r with extras := r.extras.filter (·.1 ≠ key) }

/-- What a line of a config file does: gives the field with a key a value, unless it
has one.  Lines that cannot be understood do nothing, and extras pile up. -/
def assign (r : Rule) (key value : String) : Rule :=
  match Directive.ofKey key with
  | .criterion f => { r with criteria := r.criteria.set f ((r.criteria.get f).or (some value)) }
  | .action f => { r with actions := r.actions.set f ((r.actions.get f).or (some value)) }
  | .toggle t =>
    { r with actions := r.actions.setToggle t ((r.actions.getToggle t).or (readSwitch? value)) }
  | .name => { r with name := r.name.or (some value) }
  | .unknownMatch => r
  | .extra => { r with extras := r.extras ++ [(key, value)] }

end Rule

end WindowRules
