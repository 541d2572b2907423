import WindowRules.Unicode.Trait

/-!
# Lower case of a text

A text is put in lower case character by character, with one exception: a capital
sigma becomes the final form of the letter where it ends a word.  It does so when
a cased letter stands before it and none after it, characters that case ignores
left out on both sides.

Characters below 0x80 are settled without the property tables.
-/

namespace WindowRules
namespace Text

open Unicode

/-- Whether a character has case. -/
def isCased (c : Char) : Bool :=
  if c.toNat < 0x80 then c.isAlpha else cased.mem c

/-- Whether a character may stand inside a word without counting as a letter. -/
def isCaseIgnorable (c : Char) : Bool :=
  if c.toNat < 0x80 then c = '\'' || c = '.' || c = ':' || c = '^' || c = '\x60'
  else caseIgnorable.mem c

/-- Whether a cased letter comes first, once what case ignores is left out. -/
def startsCased (s : List Char) : Bool :=
  match s.dropWhile isCaseIgnorable with
  | [] => false
  | c :: _ => isCased c

/-- The lower-case form of a character.  The text before it is given backwards. -/
def lowerAt (before : List Char) (c : Char) (after : List Char) : List Char :=
  if c = 'Σ' then [if startsCased before && !startsCased after then 'ς' else 'σ']
  else lowerChar c

/-- The lower-case form of what follows a text, which is given backwards. -/
def lowerFrom (before : List Char) : List Char → List Char
  | [] => []
  | c :: cs => lowerAt before c cs ++ lowerFrom (c :: before) cs

/-- A text in lower case. -/
def toLower (s : List Char) : List Char := lowerFrom [] s

end Text
end WindowRules
