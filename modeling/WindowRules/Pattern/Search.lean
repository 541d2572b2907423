import WindowRules.Pattern.Expr

/-!
# Searching a text

A search carries the set of all places that a match could have reached so far.
A set of places is a number whose bits are its members: a text with `n`
characters has the places `0` to `n`.  An expression takes the set of places a
match may start from to the set of places it may end at, so no starting place and
no way of matching is ever tried twice over, and there is no backtracking.

An expression is first laid over the text.  Each of its parts that looks at
characters then knows the places it holds at, as a number (`Walk`), and the search
is arithmetic.

An unbounded repetition stops as soon as a round brings no new place.  Every
other round brings one, so on a text with `n` characters `n + 1` rounds are
enough, and laying the expression over the text replaces "without bound" by that
number.
-/

namespace WindowRules
namespace Pattern

/-- An expression laid over a text. -/
inductive Walk where
  /-- Stays, at those of the places in a set. -/
  | stay (places : Nat)
  /-- Goes on by one character, from those of the places in a set. -/
  | step (places : Nat)
  | seq (first second : Walk)
  | alt (first second : Walk)
  /-- So many rounds, and then up to `extra` more. -/
  | rounds (body : Walk) (min extra : Nat)
  /-- At least `min` rounds, where `limit` more are as good as any number. -/
  | forever (body : Walk) (min limit : Nat)

/-- The places of a text whose next character satisfies a condition. -/
def placesBefore (p : Char → Bool) : List Char → Nat
  | [] => 0
  | c :: cs => (p c).toNat + 2 * placesBefore p cs

/-- The places of a text at which an anchor holds, given the character before the
text. -/
def placesOf (a : Anchor) : Option Char → List Char → Nat
  | before, [] => (a.holds before none).toNat
  | before, c :: cs => (a.holds before (some c)).toNat + 2 * placesOf a (some c) cs

/-- Every place of a text. -/
def allPlaces (text : List Char) : Nat := Nat.pow 2 (text.length + 1) - 1

/-- Repeats a walk without bound.  Repeating what is itself repeated without bound
needs one loop only. -/
def Walk.unbounded (limit : Nat) (body : Walk) (min : Nat) : Walk :=
  match body with
  | .forever inner m l => if m ≤ 1 ∧ min ≤ 1 then .forever inner (m * min) l
    else .forever body min limit
  | _ => .forever body min limit

/-- Repeats a walk up to a bound. -/
def Walk.bounded (body : Walk) (min max : Nat) : Walk :=
  match body with
  | .forever inner m l => if m ≤ 1 ∧ min ≤ 1 ∧ 1 ≤ max then .forever inner (m * min) l
    else .rounds body min (max - min)
  | _ => .rounds body min (max - min)

/-- Lays an expression over a text. -/
def Expr.over (text : List Char) : Expr → Walk
  | .empty => .stay (allPlaces text)
  | .char c => .step (placesBefore (· == c) text)
  | .set s => .step (placesBefore s.mem text)
  | .anchor a => .stay (placesOf a none text)
  | .seq a b => .seq (a.over text) (b.over text)
  | .alt a b => .alt (a.over text) (b.over text)
  | .repetition e min none => .unbounded (text.length + 1) (e.over text) min
  | .repetition e min (some max) => .bounded (e.over text) min max
  | .capture e => e.over text

/-- Applies a step to a set of places so many times, unless none is left. -/
def iterateStep (f : Nat → Nat) : Nat → Nat → Nat
  | 0, places => places
  | n + 1, places => if places = 0 then 0 else iterateStep f n (f places)

/-- Adds to a set what a step reaches in up to so many rounds from the latest
places, and stops early when a round brings nothing new. -/
def extendBy (f : Nat → Nat) : Nat → Nat → Nat → Nat
  | 0, seen, _ => seen
  | n + 1, seen, latest =>
    let reached := f latest
    let fresh := reached ^^^ (reached &&& seen)
    if fresh = 0 then seen else extendBy f n (seen ||| fresh) fresh

/-- The places at which a walk may end, from those at which it may start. -/
def Walk.reach : Walk → Nat → Nat
  | .stay m, places => places &&& m
  | .step m, places => (places &&& m) <<< 1
  | .seq a b, places => b.reach (a.reach places)
  | .alt a b, places => a.reach places ||| b.reach places
  | .rounds body min extra, places =>
    let start := iterateStep body.reach min places
    extendBy body.reach extra start start
  | .forever body min limit, places =>
    let start := iterateStep body.reach min places
    extendBy body.reach limit start start

/-- Whether an expression matches some stretch of a text. -/
def Expr.foundIn (e : Expr) (text : List Char) : Bool :=
  (e.over text).reach (allPlaces text) != 0

end Pattern
end WindowRules
