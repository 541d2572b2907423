/-!
# Writing JSON texts

A value is written over several lines, two blanks deeper for each level; an empty
list takes no lines of its own.  Strings are written with quotes, and quotes,
backslashes and control characters in them are escaped.
-/

namespace WindowRules
namespace Json

/-- A value to be written. -/
inductive Value where
  | text (s : String)
  | number (n : Nat)
  | list (elements : List Value)
  | record (members : List (String × Value))

/-- The digit of a number below sixteen. -/
def hexDigit (n : Nat) : Char := "0123456789abcdef".toList.getD n '0'

/-- A character as it is written in a string. -/
def escape (c : Char) : List Char :=
  match c with
  | '"' => ['\\', '"']
  | '\\' => ['\\', '\\']
  | '\x08' => ['\\', 'b']
  | '\x0c' => ['\\', 'f']
  | '\n' => ['\\', 'n']
  | '\r' => ['\\', 'r']
  | '\t' => ['\\', 't']
  | c =>
    if c < ' ' then ['\\', 'u', '0', '0', hexDigit (c.toNat / 16), hexDigit (c.toNat % 16)]
    else [c]

/-- A string as it is written. -/
def quote (s : String) : String := .ofList ('"' :: s.toList.flatMap escape ++ ['"'])

/-- The line break before something at a level. -/
def newLine (level : Nat) : String := "\n" ++ .ofList (.replicate (2 * level) ' ')

/-- Parts between two marks, one a line. -/
def block (level : Nat) (opening closing : String) (parts : List String) : String :=
  if parts.isEmpty then opening ++ closing
  else
    opening ++ newLine (level + 1) ++ (("," ++ newLine (level + 1)).intercalate parts) ++
      newLine level ++ closing

mutual

/-- A value as it is written at a level. -/
def Value.write (level : Nat) : Value → String
  | .text s => quote s
  | .number n => toString n
  | .list elements => block level "[" "]" (writeAll (level + 1) elements)
  | .record members => block level "\x7b" "\x7d" (writeMembers (level + 1) members)

/-- Some elements as they are written. -/
def writeAll (level : Nat) : List Value → List String
  | [] => []
  | v :: vs => v.write level :: writeAll level vs

/-- Some members as they are written. -/
def writeMembers (level : Nat) : List (String × Value) → List String
  | [] => []
  | (k, v) :: ms => (quote k ++ ": " ++ v.write level) :: writeMembers level ms

end

/-- A value as a text. -/
def Value.toText (v : Value) : String := v.write 0

end Json
end WindowRules
