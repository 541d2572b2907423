import WindowRules.History
import WindowRules.Text.Blank
import WindowRules.Text.Number

/-!
# Settings

Where the config file is and how much history is kept.  A path that is given counts
most, then the one in the environment, then the usual place below the directory for
configuration.  A capacity that is not a positive number is left aside.
-/

namespace WindowRules

/-- Where a program runs. -/
structure Environment where
  /-- The value of a variable. -/
  get? : String → Option String
  /-- The home directory that the account has, whatever the variables say. -/
  accountHome : Option String := none

namespace Environment

/-- The value of a variable, unless it is empty. -/
def given? (e : Environment) (name : String) : Option String := (e.get? name).filter (!·.isEmpty)

/-- The home directory. -/
def home? (e : Environment) : Option String := (e.given? "HOME").or e.accountHome

end Environment

/-- The path of something in a directory. -/
def pathIn (directory name : String) : String :=
  if directory.isEmpty || directory.endsWith "/" then directory ++ name
  else directory ++ "/" ++ name

/-- Whether a path starts at the root. -/
def isAbsolute (path : String) : Bool := path.startsWith "/"

/-- The directory for configuration. -/
def configDirectory (e : Environment) : String :=
  match (e.get? "XDG_CONFIG_HOME").filter isAbsolute with
  | some directory => directory
  | none =>
    match e.home? with
    | some home => pathIn home ".config"
    | none => ".config"

/-- What a session is started with. -/
structure Settings where
  /-- The path of the config file. -/
  path : String
  /-- How many changes the history keeps. -/
  capacity : Nat
  deriving DecidableEq

namespace Settings

/-- The usual place of the config file. -/
def defaultPath (e : Environment) : String :=
  pathIn (pathIn (configDirectory e) "hypr") "hyprland.conf"

/-- The settings when nothing is said about them. -/
def default (e : Environment) : Settings := ⟨defaultPath e, History.defaultCapacity⟩

/-- The capacity that a text asks for. -/
def readCapacity? (s : String) : Option Nat :=
  (Text.readNumber? (Text.trim s.toList)).filter (0 < ·)

/-- The settings in an environment, given a path or not. -/
def resolve (e : Environment) (path : Option String) : Settings where
  path := (path.or (e.given? "MADORI_CONFIG")).getD (defaultPath e)
  capacity :=
    ((e.get? "MADORI_HISTORY_CAPACITY").bind readCapacity?).getD History.defaultCapacity

end Settings

end WindowRules
