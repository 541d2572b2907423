import WindowRules.Text.Blank
import WindowRules.Text.Lines

/-!
# Tokens of a config file

A config file is cut into words, braces, and equals signs with the value that
follows each.  Comments go first, and nothing protects a number sign from starting
one.  A value runs to the end of its line or to a closing brace; it may hold
opening braces and further equals signs, and its inner blanks are kept.
-/

namespace WindowRules
namespace Config

open Text

/-- A token of a config file.  Every equals sign is followed by a value. -/
inductive Token where
  | word (w : String)
  | value (v : String)
  | openBrace
  | closeBrace
  | equals
  deriving DecidableEq

/-- A text without its comments: of every line, what stands before the first number
sign. -/
def stripComments (s : List Char) : List Char :=
  unlines ((lines s).map (·.takeWhile (· != '#')))

/-- Whether a character can be part of a word. -/
def isWordChar (c : Char) : Bool := !isBlank c && c != '{' && c != '}' && c != '='

/-- Whether a character can be part of a value. -/
def isValueChar (c : Char) : Bool := c != '\n' && c != '}'

/-- Whether a character is dropped between an equals sign and its value. -/
def isValuePadding (c : Char) : Bool := c == ' ' || c == '\t'

theorem length_dropWhile_le (p : Char → Bool) (s : List Char) :
    (s.dropWhile p).length ≤ s.length :=
  (List.dropWhile_sublist p).length_le

/-- The tokens of a text without comments. -/
def tokenize : List Char → List Token
  | [] => []
  | c :: cs =>
    if c = '{' then .openBrace :: tokenize cs
    else if c = '}' then .closeBrace :: tokenize cs
    else if c = '=' then
      let value := cs.dropWhile isValuePadding
      .equals :: .value (.ofList (trimEnd (value.takeWhile isValueChar))) ::
        tokenize (value.dropWhile isValueChar)
    else if isBlank c then tokenize cs
    else .word (.ofList (c :: cs.takeWhile isWordChar)) :: tokenize (cs.dropWhile isWordChar)
termination_by s => s.length
decreasing_by
  all_goals simp only [List.length_cons]
  · omega
  · omega
  · have h1 := length_dropWhile_le isValueChar (cs.dropWhile isValuePadding)
    have h2 := length_dropWhile_le isValuePadding cs
    omega
  · omega
  · have h := length_dropWhile_le isWordChar cs
    omega

end Config
end WindowRules
