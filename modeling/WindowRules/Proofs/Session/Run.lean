import WindowRules.Session

/-!
# Runs of a session

A session is used by calling its operations one after the other.  Everything that is said of all
sessions that can be reached is said of runs: `Session.run` makes a list of calls in their order,
and a call that fails leaves the session that it was made in.

The clock is not part of a session's rules or history until a change is recorded, so a call comes
with the time of day at which it is made.
-/

namespace WindowRules

/-- A call of an operation of a session, with its arguments. -/
inductive Operation where
  | edit (index : Nat) (rule : Rule) (description : String)
  | setField (index : Nat) (key value : String)
  | unsetField (index : Nat) (key : String)
  | rename (index : Nat) (name : String)
  | delete (index : Nat)
  | disable (index : Nat)
  | undo
  | redo
  | resolve (w : Window)
  | audit (windows : Option (List Window))
  | write

/-- A call at a time of day. -/
structure Call where
  time : String
  operation : Operation

namespace Session

/-- The session after a change that can fail. -/
def after (s : Session) : Except SessionError Session → Session
  | .ok t => t
  | .error _ => s

/-- The session after an operation. -/
def perform (s : Session) : Operation → Session
  | .edit index rule description => s.after (s.edit index rule description)
  | .setField index key value => s.after (s.setField index key value)
  | .unsetField index key => s.after ((s.unsetField index key).map (·.2))
  | .rename index name => s.after (s.rename index name)
  | .delete index => s.after ((s.delete index).map (·.2))
  | .disable index => s.after (s.disable index)
  | .undo => s.undo.2
  | .redo => s.redo.2
  | .resolve w => (s.resolve w).2
  | .audit windows => (s.audit windows).2
  | .write => s

/-- The session after a call. -/
def call (s : Session) (c : Call) : Session := { s with now := c.time }.perform c.operation

/-- The session after some calls. -/
def run (s : Session) (calls : List Call) : Session := calls.foldl call s

@[simp] theorem run_nil (s : Session) : s.run [] = s := rfl

theorem run_concat (s : Session) (calls : List Call) (c : Call) :
    s.run (calls ++ [c]) = (s.run calls).call c := by
  rw [run, List.foldl_append]
  rfl

end Session

end WindowRules
