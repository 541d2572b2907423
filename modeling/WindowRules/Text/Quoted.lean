import WindowRules.Unicode.Trait

/-!
# Quoted text

Reports quote patterns so that every character of them can be seen: between
double quotes, with the usual escapes, and with the code point in place of any
character that has no shape of its own or that would join the one before it.
-/

namespace WindowRules
namespace Text

open Unicode

/-- Whether a character has a visible shape: any but controls, formats, private
and unassigned ones, and separators other than the space. -/
def isPrintable (c : Char) : Bool :=
  if c.toNat < 0x80 then 0x20 ≤ c.toNat && c.toNat < 0x7f
  else !(categories ["cc", "cf", "co", "cn", "zl", "zp", "zs"]).mem c

/-- The code point of a character between braces. -/
def escapedCodePoint (c : Char) : List Char :=
  ['\\', 'u', '{'] ++ Nat.toDigits 16 c.toNat ++ ['}']

/-- A character as it stands inside quotes. -/
def quoteChar (c : Char) : List Char :=
  if c = '\x00' then ['\\', '0']
  else if c = '\t' then ['\\', 't']
  else if c = '\r' then ['\\', 'r']
  else if c = '\n' then ['\\', 'n']
  else if c = '\\' then ['\\', '\\']
  else if c = '"' then ['\\', '"']
  else if c.toNat < 0x80 then if isPrintable c then [c] else escapedCodePoint c
  else if graphemeExtend.mem c then escapedCodePoint c
  else if isPrintable c then [c]
  else escapedCodePoint c

/-- A text between double quotes. -/
def quoted (s : String) : String :=
  .ofList ('"' :: s.toList.flatMap quoteChar ++ ['"'])

end Text
end WindowRules
