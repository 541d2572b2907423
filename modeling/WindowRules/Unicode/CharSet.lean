import WindowRules.Text.Number

/-!
# Sets of characters

A set of characters is a list of closed ranges of code points, in increasing
order and with a gap between any two of them.  Every operation goes through
`CharSet.ofRanges`, which restores that order, so two sets with the same members
are the same value.

Tables of character data are kept as text: code points in hexadecimal, a range
as two of them with a hyphen between, ranges apart by blanks.
`CharSet.ofText` reads that form.
-/

namespace WindowRules

/-- A set of characters, as closed ranges of code points. -/
structure CharSet where
  ranges : List (Nat × Nat)
  deriving DecidableEq, Inhabited

namespace CharSet

/-- The largest code point. -/
def lastCodePoint : Nat := 0x10ffff

/-- Whether a character lies in one of the ranges. -/
def mem (s : CharSet) (c : Char) : Bool :=
  s.ranges.any fun r => r.1 ≤ c.toNat && c.toNat ≤ r.2

/-- The set with no members. -/
def empty : CharSet := ⟨[]⟩

/-- The set with one member. -/
def singleton (c : Char) : CharSet := ⟨[(c.toNat, c.toNat)]⟩

/-- Every character. -/
def full : CharSet := ⟨[(0, lastCodePoint)]⟩

def isEmpty (s : CharSet) : Bool := s.ranges.isEmpty

/-- Whether every member is an ASCII character. -/
def isAscii (s : CharSet) : Bool := s.ranges.all fun r => r.2 < 0x80

/-- Ranges are ordered by their lower end, and of two with the same lower end
the longer comes first. -/
def rangeLe (a b : Nat × Nat) : Bool := a.1 < b.1 || (a.1 == b.1 && b.2 ≤ a.2)

/-- The set of all characters in some range of a list, in any order. -/
def ofRanges (rs : List (Nat × Nat)) : CharSet :=
  ⟨coalesce none (rs.mergeSort rangeLe)⟩
where
  /-- Carries the range being built along an ordered list. -/
  coalesce : Option (Nat × Nat) → List (Nat × Nat) → List (Nat × Nat)
    | none, [] => []
    | some cur, [] => [cur]
    | none, r :: rest => coalesce (some r) rest
    | some cur, r :: rest =>
      if r.1 ≤ cur.2 + 1 then coalesce (some (cur.1, max cur.2 r.2)) rest
      else cur :: coalesce (some r) rest

def union (a b : CharSet) : CharSet := ofRanges (a.ranges ++ b.ranges)

/-- The union of a list of sets. -/
def unions (sets : List CharSet) : CharSet := ofRanges (sets.flatMap (·.ranges))

/-- The gaps between ordered ranges, from `start` to the last code point. -/
def gaps (start : Nat) : List (Nat × Nat) → List (Nat × Nat)
  | [] => if start ≤ lastCodePoint then [(start, lastCodePoint)] else []
  | r :: rest =>
    if start < r.1 then (start, r.1 - 1) :: gaps (r.2 + 1) rest else gaps (r.2 + 1) rest

/-- Every character that is not a member. -/
def complement (s : CharSet) : CharSet := ⟨gaps 0 s.ranges⟩

def inter (a b : CharSet) : CharSet := (a.complement.union b.complement).complement

/-- The members of the first set that are not members of the second. -/
def diff (a b : CharSet) : CharSet := a.inter b.complement

/-- The members of exactly one of two sets. -/
def symmDiff (a b : CharSet) : CharSet := (a.diff b).union (b.diff a)

/-! ## Reading tables -/

/-- What has been read of a table of ranges. -/
structure TableReader where
  /-- The ranges read so far, the latest first. -/
  done : List (Nat × Nat) := []
  /-- The lower end of a range whose hyphen has been read. -/
  lower : Option Nat := none
  /-- The number being read. -/
  current : Option Nat := none

/-- Ends the number being read, and with it the range. -/
def TableReader.finish (t : TableReader) : TableReader :=
  match t.current with
  | none => t
  | some n => ⟨(t.lower.getD n, n) :: t.done, none, none⟩

/-- Reads one character of a table. -/
def TableReader.read (t : TableReader) (c : Char) : TableReader :=
  match Text.hexDigit? c with
  | some d => { t with current := some (t.current.getD 0 * 16 + d) }
  | none => if c = '-' then { t with lower := t.current, current := none } else t.finish

/-- The ranges that a table names, in the order of the table. -/
def readTable (text : String) : List (Nat × Nat) :=
  (text.toList.foldl TableReader.read {}).finish.done.reverse

/-- The set that a table describes. -/
def ofText (text : String) : CharSet := ⟨readTable text⟩

end CharSet

end WindowRules
