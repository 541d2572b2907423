import WindowRules.Rule.Field

/-!
# Rules

A rule is a value: two rules with the same fields are the same rule.  It has no
identity besides its place in a ruleset.  Every field may be absent, and an absent
text is not the empty text.

Criteria and actions are records, read and written field by field through `get` and
`set`; the lemmas below are all that the rest of the library needs to know of them.
-/

namespace WindowRules

/-- The patterns that a window has to satisfy. -/
structure Criteria where
  windowClass : Option String := none
  title : Option String := none
  initialClass : Option String := none
  initialTitle : Option String := none
  workspaceTag : Option String := none
  deriving DecidableEq, Inhabited

namespace Criteria

/-- The pattern of a field. -/
def get (c : Criteria) : MatchField → Option String
  | .windowClass => c.windowClass
  | .title => c.title
  | .initialClass => c.initialClass
  | .initialTitle => c.initialTitle
  | .workspaceTag => c.workspaceTag

/-- Replaces the pattern of a field. -/
def set (c : Criteria) (f : MatchField) (v : Option String) : Criteria :=
  match f with
  | .windowClass => { c with windowClass := v }
  | .title => { c with title := v }
  | .initialClass => { c with initialClass := v }
  | .initialTitle => { c with initialTitle := v }
  | .workspaceTag => { c with workspaceTag := v }

/-- The patterns that are present, in the order of the fields. -/
def patterns (c : Criteria) : List (MatchField × String) :=
  MatchField.all.filterMap fun f => (c.get f).map fun p => (f, p)

/-- Whether there is no pattern. -/
def isEmpty (c : Criteria) : Bool := c.patterns.isEmpty

@[simp] theorem get_set_self (c : Criteria) (f : MatchField) (v : Option String) :
    (c.set f v).get f = v := by cases f <;> rfl

theorem get_set_of_ne (c : Criteria) {f g : MatchField} (h : g ≠ f) (v : Option String) :
    (c.set f v).get g = c.get g := by cases f <;> cases g <;> first | rfl | exact absurd rfl h

theorem ext_get {a b : Criteria} (h : ∀ f, a.get f = b.get f) : a = b := by
  cases a; cases b
  have h1 := h .windowClass; have h2 := h .title; have h3 := h .initialClass
  have h4 := h .initialTitle; have h5 := h .workspaceTag
  simp_all [get]

theorem mem_patterns {c : Criteria} {f : MatchField} {p : String} :
    (f, p) ∈ c.patterns ↔ c.get f = some p := by
  simp [patterns, MatchField.mem_all]

end Criteria

/-- What a rule does to a window.  An absent field changes nothing. -/
structure Actions where
  tag : Option String := none
  workspace : Option String := none
  opacity : Option String := none
  size : Option String := none
  move : Option String := none
  float : Option Bool := none
  center : Option Bool := none
  deriving DecidableEq, Inhabited

namespace Actions

/-- The value of an action. -/
def get (a : Actions) : ActionField → Option String
  | .tag => a.tag
  | .workspace => a.workspace
  | .opacity => a.opacity
  | .size => a.size
  | .move => a.move

/-- Replaces the value of an action. -/
def set (a : Actions) (f : ActionField) (v : Option String) : Actions :=
  match f with
  | .tag => { a with tag := v }
  | .workspace => { a with workspace := v }
  | .opacity => { a with opacity := v }
  | .size => { a with size := v }
  | .move => { a with move := v }

/-- The value of a toggle. -/
def getToggle (a : Actions) : Toggle → Option Bool
  | .float => a.float
  | .center => a.center

/-- Replaces the value of a toggle. -/
def setToggle (a : Actions) (t : Toggle) (v : Option Bool) : Actions :=
  match t with
  | .float => { a with float := v }
  | .center => { a with center := v }

/-- Whether no action is set. -/
def isEmpty (a : Actions) : Bool := a = {}

@[simp] theorem get_set_self (a : Actions) (f : ActionField) (v : Option String) :
    (a.set f v).get f = v := by cases f <;> rfl

theorem get_set_of_ne (a : Actions) {f g : ActionField} (h : g ≠ f) (v : Option String) :
    (a.set f v).get g = a.get g := by cases f <;> cases g <;> first | rfl | exact absurd rfl h

@[simp] theorem getToggle_set (a : Actions) (f : ActionField) (v : Option String) (t : Toggle) :
    (a.set f v).getToggle t = a.getToggle t := by cases f <;> cases t <;> rfl

@[simp] theorem getToggle_setToggle_self (a : Actions) (t : Toggle) (v : Option Bool) :
    (a.setToggle t v).getToggle t = v := by cases t <;> rfl

theorem getToggle_setToggle_of_ne (a : Actions) {t u : Toggle} (h : u ≠ t) (v : Option Bool) :
    (a.setToggle t v).getToggle u = a.getToggle u := by
  cases t <;> cases u <;> first | rfl | exact absurd rfl h

@[simp] theorem get_setToggle (a : Actions) (t : Toggle) (v : Option Bool) (f : ActionField) :
    (a.setToggle t v).get f = a.get f := by cases t <;> cases f <;> rfl

theorem ext_get {a b : Actions} (h : ∀ f, a.get f = b.get f)
    (ht : ∀ t, a.getToggle t = b.getToggle t) : a = b := by
  cases a; cases b
  have h1 := h .tag; have h2 := h .workspace; have h3 := h .opacity
  have h4 := h .size; have h5 := h .move
  have h6 := ht .float; have h7 := ht .center
  simp_all [get, getToggle]

end Actions

/-- A window rule. -/
structure Rule where
  name : Option String := none
  criteria : Criteria := {}
  actions : Actions := {}
  /-- Keys and values that are not interpreted, in their order. -/
  extras : List (String × String) := []
  deriving DecidableEq, Inhabited

/-! ## What a rule is called -/

/-- A pattern without one circumflex at its start and one dollar sign at its end. -/
def withoutAnchors (pattern : List Char) : List Char :=
  let inner := match pattern with
    | '^' :: cs => cs
    | cs => cs
  if inner.getLast? = some '$' then inner.dropLast else inner

/-- A pattern without its anchors, as text. -/
def stripAnchors (pattern : String) : String := .ofList (withoutAnchors pattern.toList)

namespace Rule

/-- What users see a rule called: its name; else its class or title without anchors,
the first of them that is not empty; else its position, counted from one. -/
def displayName (r : Rule) (index : Nat) : String :=
  let given := r.name.filter (!·.isEmpty)
  let labels := ([r.criteria.windowClass, r.criteria.title].filterMap id).map stripAnchors
  match given.or (labels.find? (!·.isEmpty)) with
  | some label => label
  | none => "rule #" ++ toString (index + 1)

end Rule

end WindowRules
