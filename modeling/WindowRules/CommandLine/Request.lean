import WindowRules.CommandLine.Usage
import WindowRules.Window

/-!
# What the program can be asked for

The subcommands with their options, and the requests that they stand for.  Every
subcommand that looks at rules can be given the path of the config file.
-/

namespace WindowRules
namespace CommandLine

/-- What the program can be asked for. -/
inductive Request where
  | help
  | helpOn (c : Subcommand)
  | version
  /-- An audit, against saved or live windows if they are given. -/
  | audit (config clients : Option String) (live json : Bool)
  | explain (config : Option String) (window : Window)
  | listRules (config : Option String)
  | showConfig (config : Option String)
  | windows (config clients : Option String)
  | suggest (config : Option String) (catalog : String)
  | shell (config clients : Option String)

/-- The name of the program. -/
def programName : String := "madori"

/-- What the program is for. -/
def programSummary : String := "Madori - inspect and edit Hyprland window rules"

/-! ## Options -/

/-- An option with a value, called by a word. -/
def valued (word description : String) : Choice where
  name := "--" ++ word
  placeholder := some word
  description := description

/-- A switch, called by a word. -/
def switched (word description : String) : Choice where
  name := "--" ++ word
  placeholder := none
  description := description

def configChoice : Choice := valued "config" "config file to read instead of the default"

def clientsChoice (purpose : String) : Choice :=
  valued "clients" ("saved `hyprctl clients -j` output " ++ purpose)

/-! ## Subcommands -/

def checkCommand : Subcommand where
  name := "check"
  description := "Analyze the rules for duplicates, conflicts and dead patterns"
  choices :=
    [configChoice, clientsChoice "used for orphan detection",
     switched "live" "query the running compositor for orphan detection",
     switched "json" "print the report as JSON"]

def explainCommand : Subcommand where
  name := "explain"
  description := "Show which rules apply to a window and what they change"
  choices :=
    [configChoice, valued "class" "window class", valued "title" "window title",
     valued "initial-class" "class the window was created with",
     valued "initial-title" "title the window was created with",
     valued "workspace" "workspace name"]

def listCommand : Subcommand where
  name := "list"
  description := "List rules in cascade order"
  choices := [configChoice]

def exportCommand : Subcommand where
  name := "export"
  description := "Print the rules back as windowrule blocks"
  choices := [configChoice]

def windowsCommand : Subcommand where
  name := "windows"
  description := "Show the cascade summary for every open window"
  choices := [configChoice, clientsChoice "instead of the live list"]

def suggestCommand : Subcommand where
  name := "suggest"
  description := "Suggest rules for catalog applications no rule covers"
  choices :=
    [configChoice, { valued "catalog" "application catalog (JSON)" with required := true }]

def shellCommand : Subcommand where
  name := "shell"
  description := "Edit the rules interactively, reading commands from stdin"
  choices := [configChoice, clientsChoice "used by `check`"]

def versionCommand : Subcommand where
  name := "version"
  description := "Show version information"
  choices := []

/-- All subcommands, in the order they are explained. -/
def commands : List Subcommand :=
  [checkCommand, explainCommand, listCommand, exportCommand, windowsCommand, suggestCommand,
   shellCommand, versionCommand]

/-! ## Requests -/

/-- The window that options describe. -/
def Given.window (g : Given) : Window where
  windowClass := g.value? "--class"
  title := g.value? "--title"
  initialClass := g.value? "--initial-class"
  initialTitle := g.value? "--initial-title"
  workspaceName := g.value? "--workspace"

/-- The request that a subcommand with options stands for. -/
def Request.ofGiven (name : String) (g : Given) : Request :=
  let config := g.value? "--config"
  let clients := g.value? "--clients"
  match name with
  | "check" => .audit config clients (g.has "--live") (g.has "--json")
  | "explain" => .explain config g.window
  | "list" => .listRules config
  | "export" => .showConfig config
  | "windows" => .windows config clients
  | "suggest" => .suggest config ((g.value? "--catalog").getD "")
  | "shell" => .shell config clients
  | "version" => .version
  | _ => .help

/-- The request that arguments stand for. -/
def Request.ofArguments (arguments : List String) : Except UsageError Request :=
  (readInvocation commands false false arguments).map fun
    | .help => .help
    | .helpOn c => .helpOn c
    | .run c g => .ofGiven c.name g

end CommandLine
end WindowRules
