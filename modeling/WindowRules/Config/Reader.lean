import WindowRules.Config.Block
import WindowRules.Ruleset

/-!
# Reading a config file

Every text can be read: what is no rule block is passed over, and what a block has
besides assignments is passed over too.
-/

namespace WindowRules
namespace Config

/-- The rule that a list of assignments describes, later ones added to an earlier
rule. -/
def assignAll (r : Rule) (entries : List (String × String)) : Rule :=
  entries.foldl (fun r e => r.assign e.1 e.2) r

/-- The rule that the body of a block describes. -/
def readBody (body : List Token) : Rule := assignAll {} (assignments 0 body)

/-- The rules that a list of tokens describes. -/
def readTokens (ts : List Token) : Ruleset := (locateBlocks ts).map fun r => readBody (slice ts r)

/-- The rules of a config file, as a list of characters. -/
def readChars (s : List Char) : Ruleset := readTokens (tokenize (stripComments s))

/-- The rules of a config file. -/
def read (source : String) : Ruleset := readChars source.toList

end Config
end WindowRules
