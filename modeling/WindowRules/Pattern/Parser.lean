import WindowRules.Pattern.Bracket

/-!
# Reading a pattern

A pattern is read from left to right.  What is open is kept on a stack of groups:
each holds what stands before the group, and the flags to return to at its end.
Inside a group the reader has the alternatives that are complete and the parts of
the one being read.

Each step reads at least one character, so a pattern is read in at most as many
steps as it has characters.
-/

namespace WindowRules
namespace Pattern

/-- How deeply a pattern may nest. -/
def nestingLimit : Nat := 250

/-- One more than the largest count of a repetition. -/
def countLimit : Nat := Nat.pow 2 32

/-- A part of a pattern. -/
structure Part where
  expr : Expr
  /-- How deeply the part nests. -/
  depth : Nat := 0
  /-- Whether the part just switches flags, so that it cannot be repeated. -/
  isSwitch : Bool := false

/-- Parts one after the other, given in reverse.  Two parts and more are a level. -/
def Part.inSequence (parts : List Part) : Part :=
  match parts with
  | [] => ⟨.empty, 0, false⟩
  | [p] => ⟨p.expr, p.depth, false⟩
  | _ => ⟨.seqs (parts.reverse.filter (!·.isSwitch) |>.map (·.expr)),
      (parts.map (·.depth)).foldl max 0 + 1, false⟩

/-- The alternatives of a group, given in reverse.  Two and more are a level. -/
def Part.inChoice (branches : List Part) : Part :=
  match branches with
  | [] => ⟨.empty, 0, false⟩
  | [p] => p
  | _ => ⟨.alts (branches.reverse.map (·.expr)),
      (branches.map (·.depth)).foldl max 0 + 1, false⟩

/-- What has been read of a group, in reverse. -/
structure Level where
  branches : List Part := []
  parts : List Part := []

/-- The group as a part of what surrounds it. -/
def Level.close (l : Level) : Part :=
  .inChoice (.inSequence l.parts :: l.branches)

/-- An open group. -/
structure OpenGroup where
  /-- What stands before the group. -/
  before : Level
  /-- The flags to return to. -/
  flags : Flags
  captures : Bool

/-- What has been read of a pattern. -/
structure Reader where
  flags : Flags := {}
  level : Level := {}
  groups : List OpenGroup := []
  /-- The names of groups so far. -/
  names : List (List Char) := []

namespace Reader

/-- Adds a part to what is being read. -/
def push (r : Reader) (p : Part) : Reader :=
  { r with level := { r.level with parts := p :: r.level.parts } }

/-- Opens a group. -/
def openGroup (r : Reader) (flags : Flags) (captures : Bool) : Reader :=
  { r with flags := flags, level := {}, groups := ⟨r.level, r.flags, captures⟩ :: r.groups }

/-- Closes the innermost group. -/
def closeGroup (r : Reader) : Option Reader :=
  match r.groups with
  | [] => none
  | g :: outer =>
    let inner := r.level.close
    let expr := if g.captures then .capture inner.expr else inner.expr
    let part : Part := ⟨expr, inner.depth + 1, false⟩
    some { r with flags := g.flags, level := ⟨g.before.branches, part :: g.before.parts⟩,
                  groups := outer }

/-- Ends an alternative. -/
def nextBranch (r : Reader) : Reader :=
  { r with level := ⟨.inSequence r.level.parts :: r.level.branches, []⟩ }

/-- Repeats the last part. -/
def repeatLast (r : Reader) (min : Nat) (max : Option Nat) : Option Reader :=
  match r.level.parts with
  | [] => none
  | p :: parts =>
    if p.isSwitch then none
    else
      let part : Part := ⟨p.expr.repeated min max, p.depth + 1, false⟩
      some { r with level := { r.level with parts := part :: parts } }

end Reader

/-! ## Characters -/

/-- The expression for a character.  Within ASCII a byte beyond ASCII is not text. -/
def charExpr? (f : Flags) (c : Char) (asByte : Bool) : Option Expr :=
  if !f.unicode && asByte && 0x80 ≤ c.toNat then none
  else
    some (.ofSet (f.fold (.singleton c)))

/-- The expression for an escape or a plain character. -/
def Primitive.expr? (f : Flags) : Primitive → Option Expr
  | .literal c asByte => charExpr? f c asByte
  | .set s => some (.ofSet s)
  | .anchor a => some (.anchor a)

/-- The characters that the dot stands for.  Within ASCII the dot is refused, because
it would match a byte of a longer character. -/
def dotSet? (f : Flags) : Option CharSet :=
  if !f.unicode then none
  else if f.dotAll then some .full
  else if f.crlf then some (CharSet.ofText "a d").complement
  else some (CharSet.ofText "a").complement

/-- The anchor that a circumflex stands for. -/
def startAnchor (f : Flags) : Anchor :=
  if !f.multiLine then .textStart else if f.crlf then .lineStartCrlf else .lineStart

/-- The anchor that a dollar sign stands for. -/
def endAnchor (f : Flags) : Anchor :=
  if !f.multiLine then .textEnd else if f.crlf then .lineEndCrlf else .lineEnd

/-! ## Repetitions -/

/-- Reads a count.  Blanks around it do not count, whatever the flags. -/
def readCount (f : Flags) (cs : List Char) : Option (Nat × List Char) := do
  let cs := Text.trimStart cs
  let (digits, rest) := digitsOf (cs.length + 1) cs
  let n ← valueOf digits
  if n < countLimit then return (n, dropBlanks (rest.length + 1) rest) else none
where
  /-- Takes digits, and drops what does not count between them. -/
  digitsOf : Nat → List Char → List Char × List Char
    | 0, cs => ([], cs)
    | _ + 1, [] => ([], [])
    | fuel + 1, c :: cs =>
      if c.isDigit then
        let (ds, rest) := digitsOf fuel (f.skip cs)
        (c :: ds, rest)
      else ([], c :: cs)
  /-- The value of a row of digits. -/
  valueOf (digits : List Char) : Option Nat :=
    if digits.isEmpty then none
    else some (digits.foldl (fun n c => n * 10 + (c.toNat - '0'.toNat)) 0)
  /-- Drops blanks, and what does not count after each of them. -/
  dropBlanks : Nat → List Char → List Char
    | 0, cs => cs
    | _ + 1, [] => []
    | fuel + 1, c :: cs => if Text.isBlank c then dropBlanks fuel (f.skip cs) else c :: cs

/-- Drops the question mark that makes a repetition prefer fewer copies. -/
def dropLazy : List Char → List Char
  | '?' :: cs => cs
  | cs => cs

/-- Reads the bounds of a repetition, after the opening brace. -/
def readBounds (f : Flags) (cs : List Char) : Option (Nat × Option Nat × List Char) := do
  let (min, rest) ← readCount f (f.skip cs)
  let (max, rest) ← readMax min rest
  match rest with
  | '}' :: rest =>
    if max.all (min ≤ ·) then return (min, max, dropLazy (f.skip rest)) else none
  | _ => none
where
  /-- Reads what follows the first count: nothing, a comma, or a comma and a count. -/
  readMax (min : Nat) : List Char → Option (Option Nat × List Char)
    | ',' :: rest =>
      match f.skip rest with
      | '}' :: rest => some (none, '}' :: rest)
      | rest => (readCount f rest).map fun p => (some p.1, p.2)
    | rest => some (some min, rest)

/-! ## Groups -/

/-- Whether a character may stand in the name of a group, and start it. -/
def isNameChar (first : Bool) (c : Char) : Bool :=
  let letter := if c.toNat < 0x80 then c.isAlpha else Unicode.alphabetic.mem c
  let digit :=
    if c.toNat < 0x80 then c.isDigit else (Unicode.categories ["nd", "nl", "no"]).mem c
  c == '_' || letter || (!first && (digit || c == '.' || c == '[' || c == ']'))

/-- Reads the name of a group, up to and with the angle bracket that ends it.  The
name must be new and not empty. -/
def readName (names : List (List Char)) (cs : List Char) :
    Option (List Char × List Char) :=
  let name := cs.takeWhile (· != '>')
  match name, cs.dropWhile (· != '>') with
  | c :: more, '>' :: rest =>
    if isNameChar true c && more.all (isNameChar false) && !names.contains name then
      some (name, rest)
    else none
  | _, _ => none

/-- Reads the start of a group, or a switch of flags, after the parenthesis. -/
def readGroup (r : Reader) (cs : List Char) : Option (Reader × List Char) :=
  match r.flags.skip cs with
  | '?' :: 'P' :: '<' :: cs => named cs
  | '?' :: '=' :: _ | '?' :: '!' :: _ => none
  | '?' :: '<' :: '=' :: _ | '?' :: '<' :: '!' :: _ => none
  | '?' :: '<' :: cs => named cs
  | '?' :: cs => do
    let row ← Flags.readRow [] r.flags cs
    if row.finish = ':' then return (r.openGroup row.flags false, row.rest)
    else if row.isEmpty then none
    else return ({ r with flags := row.flags }.push ⟨.empty, 0, true⟩, row.rest)
  | cs => some (r.openGroup r.flags true, cs)
where
  /-- Opens a group with a name. -/
  named (cs : List Char) : Option (Reader × List Char) := do
    let (name, rest) ← readName r.names cs
    return ({ r with names := name :: r.names }.openGroup r.flags true, rest)

/-! ## The whole -/

/-- Reads one piece of a pattern: its first character and what belongs to it. -/
def readPiece (r : Reader) (c : Char) (cs : List Char) : Option (Reader × List Char) :=
  match c with
  | '(' => readGroup r cs
  | ')' => r.closeGroup.map (·, cs)
  | '|' => some (r.nextBranch, cs)
  | '[' => do
    let s ← readSet r.flags cs
    return (r.push ⟨.ofSet s.set, s.depth, false⟩, s.rest)
  | '?' => (r.repeatLast 0 (some 1)).map (·, dropLazy cs)
  | '*' => (r.repeatLast 0 none).map (·, dropLazy cs)
  | '+' => (r.repeatLast 1 none).map (·, dropLazy cs)
  | '{' => do
    let (min, max, rest) ← readBounds r.flags cs
    return (← r.repeatLast min max, rest)
  | '\\' => do
    let (p, rest) ← readEscape r.flags cs
    return (r.push ⟨← p.expr? r.flags, 0, false⟩, rest)
  | '.' => do return (r.push ⟨.set (← dotSet? r.flags), 0, false⟩, cs)
  | '^' => some (r.push ⟨.anchor (startAnchor r.flags), 0, false⟩, cs)
  | '$' => some (r.push ⟨.anchor (endAnchor r.flags), 0, false⟩, cs)
  | c => do return (r.push ⟨← charExpr? r.flags c false, 0, false⟩, cs)

/-- Reads the rest of a pattern, piece by piece. -/
def readPieces : Nat → Reader → List Char → Option Reader
  | 0, r, cs => if (r.flags.skip cs).isEmpty then some r else none
  | fuel + 1, r, cs =>
    match r.flags.skip cs with
    | [] => some r
    | c :: cs => do
      let (r, rest) ← readPiece r c cs
      readPieces fuel r rest

/-- Reads a pattern.  Every group has to be closed, and the pattern must not nest too
deeply. -/
def parse? (text : List Char) : Option Expr := do
  let r ← readPieces text.length {} text
  if r.groups.isEmpty then
    let whole := r.level.close
    if whole.depth ≤ nestingLimit then some whole.expr else none
  else none

end Pattern
end WindowRules
