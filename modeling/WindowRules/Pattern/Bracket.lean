import WindowRules.Pattern.Escape

/-!
# Classes in brackets

A class in brackets lists characters, ranges and other classes.  Two classes can be
combined by `&&`, `--` and `~~`, which group to the left and bind less than
listing.  Brackets nest, so reading keeps a stack: what has been listed outside an
open bracket, and what stands to the left of an operator.

The depth of nesting is kept along, because a pattern may not nest too deeply.
-/

namespace WindowRules
namespace Pattern

/-- What has been listed so far between two operators or brackets. -/
structure Listing where
  set : CharSet := .empty
  /-- The number of things listed. -/
  count : Nat := 0
  /-- The depth of the deepest of them. -/
  depth : Nat := 0

namespace Listing

/-- Lists one more set. -/
def add (l : Listing) (s : CharSet) (depth : Nat) : Listing :=
  ⟨l.set.union s, l.count + 1, max l.depth depth⟩

/-- The depth of the listing as a whole: listing several things is a level. -/
def level (l : Listing) : Nat := if 1 < l.count then l.depth + 1 else l.depth

end Listing

/-- The ways to combine two classes. -/
inductive SetOp where
  | inter
  | diff
  | symmDiff
  deriving DecidableEq

/-- Combines two classes. -/
def SetOp.apply : SetOp → CharSet → CharSet → CharSet
  | .inter, a, b => a.inter b
  | .diff, a, b => a.diff b
  | .symmDiff, a, b => a.symmDiff b

/-- What is open while a class is read. -/
inductive OpenSet where
  /-- A bracket, with what was listed before it. -/
  | bracket (outer : Listing) (denied : Bool)
  /-- An operator, with what stands to its left. -/
  | op (o : SetOp) (left : CharSet) (depth : Nat)

/-- A class that has been read. -/
structure ReadSet where
  set : CharSet
  depth : Nat
  rest : List Char

/-- Combines what was listed last with the left side of an open operator. -/
def applyOpen (f : Flags) (l : Listing) : List OpenSet → CharSet × Nat × List OpenSet
  | .op o left depth :: outer =>
    (o.apply (f.fold left) (f.fold l.set), max depth l.level + 1, outer)
  | outer => (l.set, l.level, outer)

/-! ## Named ASCII classes -/

/-- The ASCII classes with a name of their own. -/
def asciiClass? (name : List Char) : Option CharSet :=
  match String.ofList name with
  | "alnum" => some (.ofText "30-39 41-5a 61-7a")
  | "alpha" => some (.ofText "41-5a 61-7a")
  | "ascii" => some (.ofText "0-7f")
  | "blank" => some (.ofText "9 20")
  | "cntrl" => some (.ofText "0-1f 7f")
  | "digit" => some asciiDigits
  | "graph" => some (.ofText "21-7e")
  | "lower" => some (.ofText "61-7a")
  | "print" => some (.ofText "20-7e")
  | "punct" => some (.ofText "21-2f 3a-40 5b-60 7b-7e")
  | "space" => some asciiBlanks
  | "upper" => some (.ofText "41-5a")
  | "word" => some asciiWordChars
  | "xdigit" => some (.ofText "30-39 41-46 61-66")
  | _ => none

/-- Reads a named class such as `[:alpha:]`, after its bracket.  Anything else is no
named class, and is left to be read as a bracket. -/
def readAsciiClass : List Char → Option (CharSet × Bool × List Char)
  | ':' :: cs => do
    let (denied, cs) := match cs with
      | '^' :: cs => (true, cs)
      | cs => (false, cs)
    let (name, rest) := (cs.takeWhile (· != ':'), cs.dropWhile (· != ':'))
    match rest with
    | ':' :: ']' :: rest => return (← asciiClass? name, denied, rest)
    | _ => none
  | _ => none

/-! ## Reading -/

/-- The next character that counts, as far as it decides whether a hyphen makes a
range.  A number sign starts a comment, and of the comment only its first character
that is no blank is looked at. -/
def peekAfterHyphen (f : Flags) (cs : List Char) : Option Char :=
  if f.spaced then (peek false cs).or cs.head? else cs.head?
where
  peek (inComment : Bool) : List Char → Option Char
    | [] => none
    | c :: cs =>
      if Text.isBlank c then peek inComment cs
      else if !inComment && c == '#' then peek true cs
      else some c

/-- Reads one character or escape of a class. -/
def readSetItem (f : Flags) : List Char → Option (Primitive × List Char)
  | [] => none
  | '\\' :: cs => readEscape f cs
  | c :: cs => some (.literal c false, cs)

/-- The character that an item of a class gives.  Within ASCII it has to be an ASCII
character. -/
def Primitive.setChar? (f : Flags) : Primitive → Option Char
  | .literal c _ => if f.unicode || c.toNat < 0x80 then some c else none
  | _ => none

/-- The characters that an item of a class gives.  An anchor gives none and does not
belong there. -/
def Primitive.setOf? (f : Flags) (p : Primitive) : Option CharSet :=
  match p with
  | .set s => some s
  | .anchor _ => none
  | .literal _ _ => (p.setChar? f).map .singleton

/-- Reads an item or a range. -/
def readRange (f : Flags) (cs : List Char) : Option (CharSet × List Char) := do
  let (first, rest) ← readSetItem f cs
  match f.skip rest with
  | [] => none
  | '-' :: after =>
    if peekAfterHyphen f after = some ']' ∨ peekAfterHyphen f after = some '-' then
      return (← first.setOf? f, '-' :: after)
    else
      let (last, rest) ← readSetItem f (f.skip after)
      let lo ← first.setChar? f
      let hi ← last.setChar? f
      if lo ≤ hi then return (⟨[(lo.toNat, hi.toNat)]⟩, rest) else none
  | rest => return (← first.setOf? f, rest)

/-- Reads the hyphens that stand first in a class and are plain characters there. -/
def readHyphens (f : Flags) : Nat → Listing → List Char → Option (Listing × List Char)
  | 0, _, _ => none
  | _ + 1, _, [] => none
  | fuel + 1, l, c :: cs =>
    if c = '-' then readHyphens f fuel (l.add (.singleton '-') 0) (f.skip cs)
    else some (l, c :: cs)

/-- Reads the start of a class, after its bracket: whether it is denied, and the
hyphens and the closing bracket that are plain characters there. -/
def openSet (f : Flags) (cs : List Char) : Option (Bool × Listing × List Char) := do
  let (denied, cs) := match f.skip cs with
    | '^' :: cs => (true, f.skip cs)
    | cs => (false, cs)
  let (l, rest) ← readHyphens f (cs.length + 1) {} cs
  match rest with
  | ']' :: rest =>
    if l.count = 0 then
      match f.skip rest with
      | [] => none
      | rest => return (denied, l.add (.singleton ']') 0, rest)
    else return (denied, l, ']' :: rest)
  | _ => return (denied, l, rest)

/-- Reads a class from some place inside it on. -/
def readSetFrom (f : Flags) : Nat → List OpenSet → Listing → List Char → Option ReadSet
  | 0, _, _, _ => none
  | fuel + 1, stack, l, cs =>
    let operator (o : SetOp) (cs : List Char) : Option ReadSet :=
      let (left, depth, outer) := applyOpen f l stack
      readSetFrom f fuel (.op o left depth :: outer) {} cs
    match f.skip cs with
    | [] => none
    | '[' :: cs =>
      match readAsciiClass cs with
      | some (s, denied, rest) => do
        readSetFrom f fuel stack (l.add (← f.finishSet denied s) 0) rest
      | none => do
        let (denied, inner, rest) ← openSet f cs
        readSetFrom f fuel (.bracket l denied :: stack) inner rest
    | ']' :: cs =>
      let (s, depth, outer) := applyOpen f l stack
      match outer with
      | .bracket before denied :: outer => do
        let s ← f.finishSet denied s
        if outer.isEmpty then return ⟨s, depth + 1, cs⟩
        else readSetFrom f fuel outer (before.add s (depth + 1)) cs
      | _ => none
    | '&' :: '&' :: cs => operator .inter cs
    | '-' :: '-' :: cs => operator .diff cs
    | '~' :: '~' :: cs => operator .symmDiff cs
    | cs => do
      let (s, rest) ← readRange f cs
      readSetFrom f fuel stack (l.add s 0) rest

/-- Reads a class, after its opening bracket. -/
def readSet (f : Flags) (cs : List Char) : Option ReadSet := do
  let (denied, l, rest) ← openSet f cs
  readSetFrom f (cs.length + 1) [.bracket {} denied] l rest

end Pattern
end WindowRules
