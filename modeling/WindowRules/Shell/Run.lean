import WindowRules.Session
import WindowRules.Shell.Command

/-!
# Running the shell

The shell reads commands line by line and changes a session.  What a command prints
and whether it fails depends on the session and, for `check`, on the open windows if
they are known; a failing command is reported and the shell goes on.  A line that is
not text ends the shell at once, and so does `quit`.

Windows open and close while the shell runs, and it may become impossible to ask for
them.  So the windows are asked for at each line anew (`WindowSource`).

`step` handles one line and `run` a whole script; the output of a run is the list of
what its lines print, so that a shell at a terminal can print each part in time.
-/

namespace WindowRules
namespace Shell

/-- The text that `help` prints. -/
def helpText : String :=
  "\n".intercalate
    ["commands:",
     "  list                      list active rules",
     "  show <n>                  print rule n as DSL",
     "  set <n> <key> <value...>  set a field (e.g. set 0 workspace 2 silent)",
     "  unset <n> <key>           clear a field",
     "  rename <n> [name...]      rename rule n (no name clears it)",
     "  delete <n>                delete rule n",
     "  disable <n>               disable rule n",
     "  undo | redo               walk the change history",
     "  history                   list recorded changes",
     "  explain <class> [title...]  show the cascade for a window",
     "  check                     analyze the ruleset",
     "  export                    print the ruleset as DSL",
     "  quit"]

/-- Why a line fails. -/
inductive LineError where
  | command (e : CommandError)
  /-- There is no rule to show at an index. -/
  | noRule (index : Nat)
  | session (e : SessionError)
  deriving DecidableEq

/-- The text of the error. -/
def LineError.message : LineError → String
  | .command e => e.message
  | .noRule index => "No rule at index " ++ toString index
  | .session e => e.message

/-! ## What commands print -/

/-- The active rules, one a line. -/
def rulesText (rules : Ruleset) : String :=
  String.join (rules.zipIdx.map fun p => toString p.2 ++ ": " ++ p.1.displayName p.2 ++ "\n")

/-- What `list` prints. -/
def listText (s : Session) : String :=
  rulesText s.rules ++
    if s.disabled.isEmpty then "" else "(" ++ toString s.disabled.length ++ " disabled)\n"

/-- One change, with a blank before those that can be undone and a tilde before those
that can be redone. -/
def changeLine (cursor : Nat) (p : Change × Nat) : String :=
  (if p.2 < cursor then " " else "~") ++ p.1.time ++ " " ++ p.1.kind.name ++ " [" ++
    toString p.1.index ++ "] " ++ p.1.description ++ "\n"

/-- What `history` prints. -/
def historyText (h : History) : String :=
  if h.isEmpty then "no changes recorded\n"
  else
    toString h.size ++ "/" ++ toString h.capacity ++ " change(s), " ++ toString h.cursor ++
      " undoable\n" ++ String.join (h.changes.zipIdx.map (changeLine h.cursor))

/-- What `check` prints. -/
def auditText (s : Session) (r : Report) : String :=
  if r.isClean then "no issues in " ++ toString s.rules.length ++ " rule(s)\n" else r.text ++ "\n"

/-! ## Executing -/

/-- The session after a command, and what it prints or why it fails. -/
abbrev Reply := Session × Except LineError String

/-- The reply to a change: the new session, or the old one and the error. -/
def changed (s : Session) : Except SessionError (Session × String) → Reply
  | .ok (s', out) => (s', .ok out)
  | .error e => (s, .error (.session e))

/-- The reply to a step through the history. -/
def walked (done none : String) : Session.StepResult → Reply
  | (.ok (some kind), s) => (s, .ok (done ++ " " ++ kind.name ++ "\n"))
  | (.ok .none, s) => (s, .ok (none ++ "\n"))
  | (.error e, s) => (s, .error (.session e))

/-- Executes a command, given the open windows if they are known. -/
def execute (windows : Option (List Window)) (s : Session) : Command → Reply
  | .listRules => (s, .ok (listText s))
  | .showRule i =>
    match s.rules[i]? with
    | some r => (s, .ok (Config.writeRule r))
    | none => (s, .error (.noRule i))
  | .setField i key value => changed s ((s.setField i key value).map fun s => (s, ""))
  | .unsetField i key =>
    changed s ((s.unsetField i key).map fun p =>
      (p.2, if p.1 then "" else key ++ " was not set\n"))
  | .rename i name => changed s ((s.rename i name).map fun s => (s, ""))
  | .delete i => changed s ((s.delete i).map fun p => (p.2, ""))
  | .disable i => changed s ((s.disable i).map fun s => (s, ""))
  | .undo => walked "undid" "nothing to undo" s.undo
  | .redo => walked "redid" "nothing to redo" s.redo
  | .showHistory => (s, .ok (historyText s.history))
  | .explain w => let (c, s) := s.resolve w; (s, .ok c.text)
  | .audit => let (r, s) := s.audit windows; (s, .ok (auditText s r))
  | .showConfig => (s, .ok s.toConfig)
  | .help => (s, .ok (helpText ++ "\n"))
  | .quit => (s, .ok "")

/-- What a line prints. -/
def printed : Except LineError String → String
  | .ok out => out
  | .error e => "error: " ++ e.message ++ "\n"

/-- The session after a line and what the line prints, unless it ends the shell. -/
def step (windows : Option (List Window)) (s : Session) (line : List Char) :
    Option (Session × String) :=
  match Command.read line with
  | .ok none => some (s, "")
  | .ok (some .quit) => none
  | .ok (some c) => let (s, r) := execute windows s c; some (s, printed r)
  | .error e => some (s, printed (.error (.command e)))

/-! ## Where windows come from -/

/-- What the shell is told about the open windows as it goes on. -/
structure WindowSource where
  /-- The windows that are open at a line, by the number of lines before it, if they can be
  had then. -/
  seen : Nat → Option (List Window)

namespace WindowSource

/-- A source that always tells the same. -/
def always (windows : Option (List Window)) : WindowSource := ⟨fun _ => windows⟩

instance : Coe (Option (List Window)) WindowSource := ⟨always⟩

/-- What the source tells at the next line. -/
def now (source : WindowSource) : Option (List Window) := source.seen 0

/-- The source after the next line. -/
def later (source : WindowSource) : WindowSource := ⟨fun n => source.seen (n + 1)⟩

end WindowSource

/-! ## Running a script -/

/-- The course of a shell. -/
structure Transcript where
  /-- The session at the end. -/
  session : Session
  /-- What was printed, in parts. -/
  output : List String := []
  /-- Whether the shell ended at a line that is not text. -/
  broken : Bool := false

/-- The transcript with something printed before it. -/
def Transcript.after (t : Transcript) (out : String) : Transcript :=
  { t with output := out :: t.output }

/-- Runs lines one after the other; `none` stands for a line that is not text. -/
def runLines (windows : WindowSource) (s : Session) : List (Option (List Char)) → Transcript
  | [] => { session := s }
  | none :: _ => { session := s, broken := true }
  | some line :: rest =>
    match step windows.now s line with
    | none => { session := s }
    | some (s, out) => (runLines windows.later s rest).after out

/-- The line that greets the user. -/
def banner (path : String) (s : Session) : String :=
  "editing " ++ path ++ " (" ++ toString s.rules.length ++ " rule(s), 'help' lists commands)\n"

/-- Runs the shell over a script, for a session whose rules came from a file. -/
def run (path : String) (windows : WindowSource) (s : Session)
    (script : List (Option (List Char))) : Transcript :=
  (runLines windows s script).after (banner path s)

end Shell
end WindowRules
