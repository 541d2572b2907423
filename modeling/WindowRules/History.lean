import WindowRules.Rule.Basic

/-!
# The history of changes

A history is a log of changes with a cursor.  The changes before the cursor can be
undone, those after it redone.  Recording a change drops the ones that could have
been redone, so the log never branches; and it has a capacity, beyond which the
oldest change is dropped.  With no capacity nothing is ever recorded.

The history does not change any rules.  Undoing and redoing say which change it is
and which rule to put in place, and the session does the rest.
-/

namespace WindowRules

/-- The kinds of changes. -/
inductive ChangeKind where
  | edit
  | delete
  | disable
  | rename
  deriving DecidableEq

/-- The name of a kind of change. -/
def ChangeKind.name : ChangeKind → String
  | .edit => "edit"
  | .delete => "delete"
  | .disable => "disable"
  | .rename => "rename"

/-- A change of one rule. -/
structure Change where
  kind : ChangeKind
  /-- The place of the rule. -/
  index : Nat
  before : Rule
  after : Rule
  description : String
  /-- The time of day of the change. -/
  time : String
  deriving DecidableEq

/-- What is to be done to the rules when a change is undone or redone. -/
structure Restoration where
  kind : ChangeKind
  /-- The place of the rule. -/
  index : Nat
  rule : Rule
  deriving DecidableEq

/-- A log of changes, with a cursor. -/
structure History where
  /-- The changes, the oldest first. -/
  changes : List Change := []
  /-- How many of them can be undone. -/
  cursor : Nat := 0
  /-- How many there can be. -/
  capacity : Nat
  deriving DecidableEq

namespace History

/-- How many changes are kept if nothing else is said. -/
def defaultCapacity : Nat := 50

/-! ## Room -/

/-- How many bytes a change takes in the log. -/
def changeSize : Nat := 648

/-- How many bytes there can be in one piece. -/
def roomLimit : Nat := Nat.pow 2 63 - 1

/-- How many bytes a history takes.  It takes them when it begins, for all the changes that
it can ever keep. -/
def room (capacity : Nat) : Nat := capacity * changeSize

/-! ## The log -/

/-- A history without changes. -/
def ofCapacity (capacity : Nat) : History := { capacity }

def size (h : History) : Nat := h.changes.length

def isEmpty (h : History) : Bool := h.changes.isEmpty

/-- Whether there is a change to undo. -/
def canUndo (h : History) : Bool := 0 < h.cursor

/-- Whether there is a change to redo. -/
def canRedo (h : History) : Bool := h.cursor < h.size

/-- The changes that can be undone, without the oldest one if they fill the log. -/
def kept (h : History) : List Change :=
  let past := h.changes.take h.cursor
  if past.length = h.capacity then past.drop 1 else past

/-- Records a change. -/
def record (h : History) (c : Change) : History :=
  if h.capacity = 0 then { h with changes := h.changes.take h.cursor }
  else { h with changes := h.kept ++ [c], cursor := h.kept.length + 1 }

/-- Goes back by one change: the rule is to be as it was before. -/
def undo? (h : History) : Option (Restoration × History) :=
  match h.cursor with
  | 0 => none
  | n + 1 => h.changes[n]?.map fun c => (⟨c.kind, c.index, c.before⟩, { h with cursor := n })

/-- The rule that redoing a change is about: the rule to delete once more, or else the
rule as it was after the change. -/
def Change.redone (c : Change) : Rule :=
  match c.kind with
  | .delete => c.before
  | _ => c.after

/-- Goes forward by one change. -/
def redo? (h : History) : Option (Restoration × History) :=
  h.changes[h.cursor]?.map fun c =>
    (⟨c.kind, c.index, Change.redone c⟩, { h with cursor := h.cursor + 1 })

end History

end WindowRules
