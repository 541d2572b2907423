import WindowRules.Pattern.Expr
import WindowRules.Pattern.Utf8

/-!
# The room a compiled pattern takes

A pattern is refused when its compiled form is too large.  The compiled form is a
pair of state machines over UTF-8, one that reads a text forwards and one that
reads it backwards, and each of them has to fit in ten mebibytes.  Repetitions are
unrolled, so a few characters of a pattern can ask for a great deal of room; the
room is computed here without building the machines.

A state takes thirty-two bytes.  A state that branches takes four more for each
branch, and a state that tells ranges of bytes apart eight more for each range.
Captures are kept track of by the forward machine alone.
-/

namespace WindowRules
namespace Pattern

/-- The way a machine reads a text. -/
inductive Direction where
  | forward
  | backward
  deriving DecidableEq

/-- The bytes that each machine may take. -/
def footprintLimit : Nat := 10 * Nat.pow 2 20

/-- The bytes of a state, without what it branches to. -/
def stateSize : Nat := 32

/-- The bytes of a state with so many branches. -/
def branchSize (branches : Nat) : Nat := stateSize + 4 * branches

/-- The bytes of a state that tells so many ranges of bytes apart. -/
def rangesSize (ranges : Nat) : Nat := stateSize + 8 * ranges

/-! ## Sets of characters -/

/-- Groups neighbouring sequences that begin with the same range. -/
def groupByHead : List (List ByteRange) → List (ByteRange × List (List ByteRange))
  | [] => []
  | [] :: rest => groupByHead rest
  | (b :: bs) :: rest =>
    match groupByHead rest with
    | (h, g) :: groups => if h = b then (h, bs :: g) :: groups else (b, [bs]) :: (h, g) :: groups
    | [] => [(b, [bs])]

/-- A state of the machine for a set: what it branches to on which range. -/
abbrev SetState := List (ByteRange × Nat)

/-- Adds the state that reads the given sequences, if there is none like it yet,
and returns its number.  The final state has the number 0. -/
def addSetState : Nat → List (List ByteRange) → List SetState → Nat × List SetState
  | 0, _, states => (0, states)
  | depth + 1, sequences, states =>
    if sequences.all (·.isEmpty) then (0, states)
    else
      let (branches, states) :=
        (groupByHead sequences).foldl
          (fun acc group =>
            let (target, states) := addSetState depth group.2 acc.2
            (acc.1 ++ [(group.1, target)], states))
          ([], states)
      match states.idxOf? branches with
      | some i => (states.length - i, states)
      | none => (states.length + 1, branches :: states)

/-- The number of ranges at the start of two sequences that are the same. -/
def commonHead : List ByteRange → List ByteRange → Nat
  | a :: as, b :: bs => if a = b then commonHead as bs + 1 else 0
  | _, _ => 0

/-- The number of different beginnings that ordered sequences have. -/
def countBeginnings (previous : List ByteRange) : List (List ByteRange) → Nat
  | [] => 0
  | s :: rest => s.length - commonHead previous s + countBeginnings s rest

/-- The bytes that a set of characters takes.  Forwards, states that read the same
are shared; backwards, sequences share the states of their common beginning. -/
def setSize (dir : Direction) (s : CharSet) : Nat :=
  if s.isAscii then stateSize + rangesSize s.ranges.length
  else
    let sequences := s.ranges.flatMap byteSequences
    match dir with
    | .forward =>
      let states := (addSetState 5 sequences []).2
      stateSize + states.foldr (fun branches bytes => rangesSize branches.length + bytes) 0
    | .backward =>
      stateSize + branchSize sequences.length + stateSize * countBeginnings [] sequences

/-! ## Expressions -/

/-- Whether every stretch that an expression matches has a character. -/
def Expr.consumes : Expr → Bool
  | .empty | .anchor _ => false
  | .char _ => true
  | .set s => !s.isEmpty
  | .seq a b => a.consumes || b.consumes
  | .alt a b => a.consumes && b.consumes
  | .repetition e min _ => min != 0 && e.consumes
  | .capture e => e.consumes

/-- What an expression asks for, alone or as one of several. -/
structure Room where
  /-- The bytes of the expression on its own. -/
  bytes : Nat
  /-- The bytes it takes as a part of a sequence. -/
  inSequence : Nat
  /-- The bytes that its alternatives take together. -/
  inChoice : Nat
  /-- The number of its alternatives. -/
  choices : Nat

/-- The room of an expression that is not a choice. -/
def Room.plain (bytes : Nat) : Room := ⟨bytes, bytes, bytes, 1⟩

/-- The bytes of a repetition of what takes `n` bytes. -/
def repetitionSize (n : Nat) (consumes : Bool) (min : Nat) (max : Option Nat) : Nat :=
  match min, max with
  | 0, some 1 => branchSize 2 + n + stateSize
  | 0, none =>
    if consumes then branchSize 1 + n
    else n + branchSize 2 + branchSize 2 + stateSize
  | min, none => min * n + branchSize 1
  | min, some max =>
    let required := if min = 0 then stateSize else min * n
    if min = max then required
    else required + stateSize + (max - min) * (branchSize 2 + n)

/-- The room of an expression in one of the machines. -/
def Expr.room (dir : Direction) : Expr → Room
  | .empty => { Room.plain stateSize with inSequence := 0 }
  | .char c => .plain (stateSize * (utf8Bytes c.toNat).length)
  | .set s => .plain (setSize dir s)
  | .anchor _ => .plain stateSize
  | .seq a b => .plain ((a.room dir).inSequence + (b.room dir).inSequence)
  | .alt a b =>
    let left := a.room dir
    let right := b.room dir
    let parts := left.inChoice + right.inChoice
    let choices := left.choices + right.choices
    let whole := branchSize choices + stateSize + parts
    ⟨whole, whole, parts, choices⟩
  | .repetition e min max => .plain (repetitionSize (e.room dir).bytes e.consumes min max)
  | .capture e =>
    .plain ((e.room dir).bytes + if dir = .forward then 2 * stateSize else 0)

/-- What every machine has besides the expression: the loop that lets a match start
anywhere, and the final state. -/
def frameSize : Nat := branchSize 1 + stateSize + rangesSize 1 + stateSize

/-- Whether the machine for one direction fits. -/
def Expr.fitsIn (dir : Direction) (e : Expr) : Bool :=
  let whole := match dir with
    | .forward => Expr.capture e
    | .backward => e
  frameSize + (whole.room dir).bytes ≤ footprintLimit

/-- Whether both machines fit. -/
def Expr.fits (e : Expr) : Bool := e.fitsIn .forward && e.fitsIn .backward

end Pattern
end WindowRules
