import WindowRules.Text.Blank

/-!
# Flags of a pattern

A pattern can switch its own reading: `(?i)` for the rest of the group it stands
in, `(?i:...)` for a group of its own.  With the flag `x`, blanks and comments
between the parts of a pattern do not count.
-/

namespace WindowRules
namespace Pattern

open Text (isBlank)

/-- How a pattern is read at some place of it. -/
structure Flags where
  /-- Case does not count. -/
  ignoreCase : Bool := false
  /-- The line anchors hold at every line, not just at the ends of the text. -/
  multiLine : Bool := false
  /-- The dot matches a newline too. -/
  dotAll : Bool := false
  /-- Lines may end with a carriage return. -/
  crlf : Bool := false
  /-- Blanks and comments do not count. -/
  spaced : Bool := false
  /-- Classes of characters reach beyond ASCII. -/
  unicode : Bool := true
  deriving DecidableEq

namespace Flags

/-- Switches the flag with a given letter.  Greed does not change which texts a
pattern occurs in, so its letter is accepted and has no effect. -/
def switch? (f : Flags) (letter : Char) (on : Bool) : Option Flags :=
  match letter with
  | 'i' => some { f with ignoreCase := on }
  | 'm' => some { f with multiLine := on }
  | 's' => some { f with dotAll := on }
  | 'R' => some { f with crlf := on }
  | 'x' => some { f with spaced := on }
  | 'u' => some { f with unicode := on }
  | 'U' => some f
  | _ => none

/-- A row of flag letters that has been read. -/
structure Row where
  flags : Flags
  /-- Whether the row has no letter and no hyphen. -/
  isEmpty : Bool
  /-- What ended the row: a colon or a closing parenthesis. -/
  finish : Char
  rest : List Char

/-- Reads a row of flag letters.  After a hyphen they switch off.  No letter may
stand twice in it, nor the hyphen, which must not come last. -/
def readRow (seen : List Char) (f : Flags) : List Char → Option Row
  | [] => none
  | c :: cs =>
    if c = ':' ∨ c = ')' then
      if seen.head? = some '-' then none else some ⟨f, seen.isEmpty, c, cs⟩
    else if seen.contains c then none
    else if c = '-' then readRow (c :: seen) f cs
    else do readRow (c :: seen) (← f.switch? c (!seen.contains '-')) cs

end Flags

/-! ## Blanks that do not count -/

/-- Drops blanks and comments.  A comment runs from a number sign to the end of the
line. -/
def dropSpacing (inComment : Bool) : List Char → List Char
  | [] => []
  | c :: cs =>
    if inComment then dropSpacing (c != '\n') cs
    else if isBlank c then dropSpacing false cs
    else if c = '#' then dropSpacing true cs
    else c :: cs

/-- Drops what does not count at the front of the rest of a pattern. -/
def Flags.skip (f : Flags) (cs : List Char) : List Char :=
  if f.spaced then dropSpacing false cs else cs

@[simp] theorem Flags.skip_default (cs : List Char) : ({} : Flags).skip cs = cs := rfl

end Pattern
end WindowRules
