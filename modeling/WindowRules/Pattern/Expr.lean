import WindowRules.Unicode.Trait

/-!
# Pattern expressions

A pattern stands for an expression that says which stretches of a text it
matches.  Grouping, flags and the many spellings of a character leave no trace in
the expression, except that a group which captures is kept: it takes room in a
compiled pattern, and the room is limited (see `Pattern.Footprint`).

`Expr.Spans` is what the expression means.  It relates an expression to the start
and the end of a stretch, because anchors look at what stands around it.
-/

namespace WindowRules
namespace Pattern

/-- Which characters words are made of. -/
inductive WordKind where
  /-- Letters, marks, digits and connectors of every script. -/
  | unicode
  /-- ASCII letters, digits and the underscore. -/
  | ascii
  deriving DecidableEq

/-- What a word anchor asks of the two characters it stands between. -/
inductive WordEdge where
  /-- Just one of the two belongs to a word. -/
  | boundary
  /-- Both belong to a word, or neither does. -/
  | noBoundary
  /-- Only the one after it belongs to a word. -/
  | start
  /-- Only the one before it belongs to a word. -/
  | finish
  /-- The one before it does not belong to a word. -/
  | startHalf
  /-- The one after it does not belong to a word. -/
  | finishHalf
  deriving DecidableEq

/-- A condition on a place between two characters. -/
inductive Anchor where
  | textStart
  | textEnd
  /-- After a newline, or at the start of the text. -/
  | lineStart
  /-- Before a newline, or at the end of the text. -/
  | lineEnd
  /-- The start of a line, where a carriage return, a newline, or the two in this
  order end a line. -/
  | lineStartCrlf
  /-- The end of a line in the same sense. -/
  | lineEndCrlf
  | word (edge : WordEdge) (kind : WordKind)
  deriving DecidableEq

/-- A pattern expression. -/
inductive Expr where
  /-- Matches the empty stretch. -/
  | empty
  | char (c : Char)
  | set (s : CharSet)
  | anchor (a : Anchor)
  | seq (first second : Expr)
  | alt (first second : Expr)
  /-- At least `min` copies of an expression in a row and, if there is a bound, at
  most that many. -/
  | repetition (body : Expr) (min : Nat) (max : Option Nat)
  | capture (body : Expr)
  deriving Inhabited

namespace Expr

/-- The expressions of a list one after the other. -/
def seqs : List Expr → Expr
  | [] => .empty
  | [e] => e
  | e :: es => .seq e (seqs es)

/-- One character of a set.  A set with one member is that character. -/
def ofSet (s : CharSet) : Expr :=
  match s.ranges with
  | [(n, m)] => if n = m ∧ n.isValidChar then .char (Char.ofNat n) else .set s
  | _ => .set s

/-- The one character that an expression stands for. -/
def char? : Expr → Option CharSet
  | .char c => some (.singleton c)
  | _ => none

/-- The set that an expression stands for. -/
def set? : Expr → Option CharSet
  | .set s => some s
  | _ => none

/-- A choice between the expressions of a list. -/
def choice : List Expr → Expr
  | [] => .set .empty
  | [e] => e
  | e :: es => .alt e (choice es)

/-- Any one of the expressions of a list.  Characters alone, or sets alone, are one set
together. -/
def alts : List Expr → Expr
  | [e] => e
  | es =>
    if es.all (·.char?.isSome) then ofSet (.unions (es.filterMap char?))
    else if es.all (·.set?.isSome) then ofSet (.unions (es.filterMap set?))
    else choice es

/-- Whether an expression can match only the empty stretch. -/
def onlyEmpty : Expr → Bool
  | .empty | .anchor _ => true
  | .char _ | .set _ => false
  | .seq a b | .alt a b => a.onlyEmpty && b.onlyEmpty
  | .repetition _ _ (some 0) => true
  | .repetition e _ _ => e.onlyEmpty
  | .capture e => e.onlyEmpty

/-- A repetition.  More than one copy of what matches only the empty stretch is
the same as one; no copies are the empty expression, and one is the expression
itself. -/
def repeated (e : Expr) (min : Nat) (max : Option Nat) : Expr :=
  let lo := if e.onlyEmpty then Nat.min min 1 else min
  let hi := if e.onlyEmpty then some (Nat.min (max.getD 1) 1) else max
  if lo = 0 ∧ hi = some 0 then .empty
  else if lo = 1 ∧ hi = some 1 then e
  else .repetition e lo hi

end Expr

/-! ## Meaning -/

/-- Whether a character belongs to words. -/
def WordKind.has : WordKind → Char → Bool
  | .unicode, c => Unicode.wordChars.mem c
  | .ascii, c => c.isAlphanum || c == '_'

/-- Whether a word anchor holds, given which of its neighbours belong to words. -/
def WordEdge.holds : WordEdge → Bool → Bool → Bool
  | .boundary, before, after => before != after
  | .noBoundary, before, after => before == after
  | .start, before, after => !before && after
  | .finish, before, after => before && !after
  | .startHalf, before, _ => !before
  | .finishHalf, _, after => !after

/-- Whether an anchor holds between two neighbours, of which the text has none
beyond its ends. -/
def Anchor.holds : Anchor → Option Char → Option Char → Bool
  | .textStart, before, _ => before.isNone
  | .textEnd, _, after => after.isNone
  | .lineStart, before, _ => before.isNone || before == some '\n'
  | .lineEnd, _, after => after.isNone || after == some '\n'
  | .lineStartCrlf, before, after =>
    before.isNone || before == some '\n' || (before == some '\r' && after != some '\n')
  | .lineEndCrlf, before, after =>
    after.isNone || after == some '\r' || (after == some '\n' && before != some '\r')
  | .word edge kind, before, after =>
    edge.holds (before.any kind.has) (after.any kind.has)

/-- The character before a place of a text. -/
def charBefore (text : List Char) : Nat → Option Char
  | 0 => none
  | i + 1 => text[i]?

/-- The relation `e.Spans text i j` says that `e` matches the stretch of `text` from
place `i` to place `j`. -/
inductive Expr.Spans (text : List Char) : Expr → Nat → Nat → Prop
  | empty {i : Nat} (h : i ≤ text.length) : Spans text .empty i i
  | char {c : Char} {i : Nat} (h : text[i]? = some c) : Spans text (.char c) i (i + 1)
  | set {s : CharSet} {c : Char} {i : Nat} (h : text[i]? = some c) (hc : s.mem c = true) :
      Spans text (.set s) i (i + 1)
  | anchor {a : Anchor} {i : Nat} (h : i ≤ text.length)
      (ha : a.holds (charBefore text i) text[i]? = true) : Spans text (.anchor a) i i
  | seq {a b : Expr} {i j k : Nat} (ha : Spans text a i j) (hb : Spans text b j k) :
      Spans text (.seq a b) i k
  | altLeft {a b : Expr} {i j : Nat} (h : Spans text a i j) : Spans text (.alt a b) i j
  | altRight {a b : Expr} {i j : Nat} (h : Spans text b i j) : Spans text (.alt a b) i j
  | stop {e : Expr} {max : Option Nat} {i : Nat} (h : i ≤ text.length) :
      Spans text (.repetition e 0 max) i i
  | more {e : Expr} {min : Nat} {max : Option Nat} {i j k : Nat} (hmax : max ≠ some 0)
      (h : Spans text e i j)
      (hrest : Spans text (.repetition e (min - 1) (max.map (· - 1))) j k) :
      Spans text (.repetition e min max) i k
  | capture {e : Expr} {i j : Nat} (h : Spans text e i j) : Spans text (.capture e) i j

/-- An expression occurs in a text if it matches some stretch of it. -/
def Expr.OccursIn (e : Expr) (text : List Char) : Prop := ∃ i j, e.Spans text i j

end Pattern
end WindowRules
