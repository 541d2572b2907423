/-!
# Options, and how they are explained

A program has subcommands and a subcommand has options.  An option either takes the
next argument as its value or is a switch.  Both the reading of arguments and the
help texts follow from the same data.

## Asking for help

`--help` and `help` may stand anywhere before a `--` and do not end the reading: a
positional argument is still refused after them, and so is an option.  Before the
name of a subcommand they ask for the help of that subcommand.
-/

namespace WindowRules
namespace CommandLine

/-- An option of a subcommand. -/
structure Choice where
  /-- The name, with its two hyphens. -/
  name : String
  /-- What the help text calls the value, unless the option is a switch. -/
  placeholder : Option String
  required : Bool := false
  description : String

/-- A subcommand. -/
structure Subcommand where
  name : String
  description : String
  choices : List Choice

/-- Why arguments cannot be read. -/
inductive UsageError where
  | unrecognized (argument : String)
  | noValue (option : String)
  | repeated (option value : String)
  | afterHelp
  | missing (options : List String)
  deriving DecidableEq

/-- The text of the error. -/
def UsageError.message : UsageError → String
  | .unrecognized argument => "Unrecognized argument: " ++ argument ++ "\n"
  | .noValue option => "No value provided for option '" ++ option ++ "'.\n"
  | .repeated option value =>
    "Error parsing option '" ++ option ++ "' with value '" ++ value ++
      "': duplicate values provided\n"
  | .afterHelp => "Trailing arguments are not allowed after `help`."
  | .missing options =>
    "Required options not provided:" ++ String.join (options.map ("\n    " ++ ·)) ++ "\n"

/-! ## Reading arguments -/

/-- What was given to a subcommand. -/
structure Given where
  values : List (String × String) := []
  switches : List String := []

/-- The value of an option. -/
def Given.value? (g : Given) (option : String) : Option String := g.values.lookup option

/-- Whether a switch was given. -/
def Given.has (g : Given) (switch : String) : Bool := g.switches.contains switch

/-- The arguments that ask for help. -/
def helpWords : List String := ["--help", "help"]

/-- The argument after which nothing is an option. -/
def endOfOptions : String := "--"

/-- Whether an argument looks like an option. -/
def isOption (argument : String) : Bool := argument.startsWith "-"

/-- The required options that were not given. -/
def Subcommand.missing (c : Subcommand) (g : Given) : List String :=
  (c.choices.filter fun o => o.required && (g.value? o.name).isNone).map (·.name)

/-- Reads the arguments of a subcommand, where help may have been asked for and the
options may have ended.  The result is nothing if help is asked for. -/
def Subcommand.readArguments (c : Subcommand) :
    (help ended : Bool) → Given → List String → Except UsageError (Option Given)
  | help, _, g, [] =>
    if help then .ok none
    else
      match c.missing g with
      | [] => .ok (some g)
      | names => .error (.missing names)
  | help, ended, g, a :: rest =>
    if !ended && helpWords.contains a then c.readArguments true ended g rest
    else if ended || !isOption a then .error (.unrecognized a)
    else if a = endOfOptions then c.readArguments help true g rest
    else if help then .error .afterHelp
    else
      match c.choices.find? (·.name = a), rest with
      | none, _ => .error (.unrecognized a)
      | some ⟨_, none, _, _⟩, rest =>
        c.readArguments help ended { g with switches := a :: g.switches } rest
      | some _, [] => .error (.noValue a)
      | some _, v :: rest =>
        if (g.value? a).isSome then .error (.repeated a v)
        else c.readArguments help ended { g with values := (a, v) :: g.values } rest

/-- What the arguments of a program ask for. -/
inductive Invocation where
  /-- Nothing, or help. -/
  | help
  /-- The help of a subcommand. -/
  | helpOn (c : Subcommand)
  | run (c : Subcommand) (g : Given)

/-- Reads the arguments of a program, where help may have been asked for and the
options may have ended. -/
def readInvocation (commands : List Subcommand) :
    (help ended : Bool) → List String → Except UsageError Invocation
  | _, _, [] => .ok .help
  | help, ended, a :: rest =>
    if !ended && helpWords.contains a then readInvocation commands true ended rest
    else if !ended && a = endOfOptions then readInvocation commands help true rest
    else if !ended && isOption a then
      .error (if help then .afterHelp else .unrecognized a)
    else
      match commands.find? (·.name = a) with
      | none => .error (.unrecognized a)
      | some c =>
        (c.readArguments help false {} rest).map fun
          | none => .helpOn c
          | some g => .run c g

/-! ## Help texts -/

/-- How many characters a line of a help text has. -/
def lineWidth : Nat := 80

/-- Where the descriptions start. -/
def descriptionColumn : Nat := 20

/-- A line filled up to the column where the descriptions start. -/
def padded (line : String) : String :=
  line ++ .ofList (.replicate (descriptionColumn - line.length) ' ')

/-- A line that goes on with words, and the lines that this takes. -/
def wrapWords (line : String) : List String → List String
  | [] => [line]
  | w :: ws =>
    if lineWidth < line.length + w.length + 1 then line :: wrapWords (padded "" ++ w) ws
    else wrapWords (line ++ " " ++ w) ws

/-- The lines that describe something with a name. -/
def described (name description : String) : String :=
  match description.splitOn " " with
  | [] => ""
  | w :: ws => String.join ((wrapWords (padded ("  " ++ name) ++ w) ws).map ("\n" ++ ·))

/-- An option in the first line of a help text. -/
def Choice.usage (o : Choice) : String :=
  let form := match o.placeholder with
    | none => o.name
    | some value => o.name ++ " <" ++ value ++ ">"
  " " ++ if o.required then form else "[" ++ form ++ "]"

/-- The line that explains how to ask for help. -/
def helpLine : String := described "--help, help" "display usage information"

/-- The help text of a subcommand. -/
def Subcommand.helpText (program : String) (c : Subcommand) : String :=
  "Usage: " ++ program ++ " " ++ c.name ++ String.join (c.choices.map Choice.usage) ++
    "\n\n" ++ c.description ++ "\n\nOptions:" ++
    String.join (c.choices.map fun o => described o.name o.description) ++ helpLine ++ "\n"

/-- The help text of a program. -/
def helpText (program summary : String) (commands : List Subcommand) : String :=
  "Usage: " ++ program ++ " [<command>] [<args>]\n\n" ++ summary ++ "\n\nOptions:" ++ helpLine ++
    "\n\nCommands:" ++ String.join (commands.map fun c => described c.name c.description) ++ "\n"

end CommandLine
end WindowRules
