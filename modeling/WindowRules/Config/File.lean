import WindowRules.Config.Reader
import WindowRules.File

/-!
# Config files

A config file that can be read at all gives a ruleset: its text may be anything.
So the only errors are those of the file itself.
-/

namespace WindowRules
namespace Config

/-- A config file that cannot be read. -/
structure LoadError where
  path : String
  fault : FileFault
  deriving DecidableEq

/-- The text of the error. -/
def LoadError.message (e : LoadError) : String :=
  "cannot read config file " ++ e.path ++ ": " ++ e.fault.message

/-- The rules of a config file. -/
def load (path : String) (content : FileContent) : Except LoadError Ruleset :=
  match content.text path with
  | .ok s => .ok (read s)
  | .error fault => .error ⟨path, fault⟩

end Config
end WindowRules
