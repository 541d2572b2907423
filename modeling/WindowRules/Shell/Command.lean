import WindowRules.Text.Blank
import WindowRules.Text.Number
import WindowRules.Window

/-!
# Shell commands

A line of the editing shell is cut into words.  The first says what to do; an index
is a word, and a value, a name or a title is the rest of the line, with its inner
spacing kept.  A line without words is no command and no error.

A command that is given too few words gets its synopsis as the error; `set` and
`unset` look at the number of words first and at the index then.
-/

namespace WindowRules
namespace Shell

/-- What a line can ask for. -/
inductive Command where
  | listRules
  | showRule (index : Nat)
  | setField (index : Nat) (key value : String)
  | unsetField (index : Nat) (key : String)
  | rename (index : Nat) (name : String)
  | delete (index : Nat)
  | disable (index : Nat)
  | undo
  | redo
  | showHistory
  | explain (window : Window)
  | audit
  | showConfig
  | help
  | quit
  deriving DecidableEq

/-- Why a line is no command. -/
inductive CommandError where
  /-- The words do not fit the synopsis. -/
  | usage (synopsis : String)
  /-- A word is not the number of a rule. -/
  | badIndex (word : String)
  /-- The first word is not known. -/
  | unknown (word : String)
  deriving DecidableEq

/-- The text of the error. -/
def CommandError.message : CommandError → String
  | .usage synopsis => "Usage: " ++ synopsis
  | .badIndex word => "Invalid rule index: " ++ word
  | .unknown word => "Unknown command: " ++ word ++ " (try 'help')"

namespace Command

/-- The first of some words as the index of a rule. -/
def indexOf (synopsis : String) : List (List Char) → Except CommandError Nat
  | [] => .error (.usage synopsis)
  | w :: _ =>
    match Text.readNumber? w with
    | some n => .ok n
    | none => .error (.badIndex (.ofList w))

/-- Reads the words and the rest of a `set` line. -/
def readSet (args : List (List Char)) (value : List Char) : Except CommandError Command :=
  let synopsis := "set <n> <key> <value...>"
  match args with
  | _ :: key :: _ :: _ =>
    (indexOf synopsis args).map fun n => .setField n (.ofList key) (.ofList value)
  | _ => .error (.usage synopsis)

/-- Reads the words of an `unset` line. -/
def readUnset (args : List (List Char)) : Except CommandError Command :=
  let synopsis := "unset <n> <key>"
  match args with
  | [_, key] => (indexOf synopsis args).map fun n => .unsetField n (.ofList key)
  | _ => .error (.usage synopsis)

/-- Reads the words and the rest of an `explain` line.  A window without a title is
not one with an empty title. -/
def readExplain (args : List (List Char)) (title : List Char) : Except CommandError Command :=
  match args with
  | [] => .error (.usage "explain <class> [title...]")
  | c :: _ =>
    .ok (.explain
      { windowClass := some (.ofList c),
        title := if title.isEmpty then none else some (.ofList title) })

/-- Reads a line that has a first word and other words. -/
def ofWords (line : List Char) (args : List (List Char)) (word : String) :
    Except CommandError Command :=
  match word with
  | "list" | "ls" => .ok .listRules
  | "show" => (indexOf "show <n>" args).map .showRule
  | "set" => readSet args (Text.afterWords line 3)
  | "unset" => readUnset args
  | "rename" =>
    (indexOf "rename <n> [name...]" args).map fun n =>
      .rename n (.ofList (Text.afterWords line 2))
  | "delete" | "rm" => (indexOf "delete <n>" args).map .delete
  | "disable" => (indexOf "disable <n>" args).map .disable
  | "undo" => .ok .undo
  | "redo" => .ok .redo
  | "history" => .ok .showHistory
  | "explain" => readExplain args (Text.afterWords line 2)
  | "check" => .ok .audit
  | "export" => .ok .showConfig
  | "help" | "?" => .ok .help
  | "quit" | "exit" => .ok .quit
  | _ => .error (.unknown word)

/-- Reads a line.  A line without words holds no command. -/
def read (line : List Char) : Except CommandError (Option Command) :=
  match Text.words line with
  | [] => .ok none
  | w :: args => (ofWords line args (.ofList w)).map some

end Command

end Shell
end WindowRules
