import WindowRules.Pattern.Basic
import WindowRules.Rule.Basic
import WindowRules.Window

/-!
# Which rules match a window

A rule matches a window if every pattern it has matches the attribute it
constrains.  A rule without patterns matches every window; an absent attribute, and
a text that is no pattern, match nothing.

Turning a text into a pattern is the costly part, so an editing session keeps a
`PatternCache` of what it has turned so far.  Every function that looks a pattern up
comes in two forms: a plain one, which says what the answer is, and one in
`StateM PatternCache`, which gives the same answer and remembers the patterns it
needed.
-/

namespace WindowRules

/-- Whether a text is a pattern. -/
def isPattern (text : String) : Bool := (Pattern.compile? text).isSome

/-- Whether a text is a pattern that matches a value. -/
def patternMatches (text value : String) : Bool := (Pattern.compile? text).any (·.isMatch value)

/-- Whether a rule matches a window. -/
def Rule.matches (r : Rule) (w : Window) : Bool :=
  r.criteria.patterns.all fun p => (w.get p.1).any (patternMatches p.2)

/-- The rules that match a window, with their places. -/
def matchingRules (rs : List Rule) (w : Window) : List (Nat × Rule) :=
  (rs.zipIdx.filter fun p => p.1.matches w).map fun p => (p.2, p.1)

/-- The patterns of a rule that are none. -/
def Rule.brokenPatterns (r : Rule) : List (MatchField × String) :=
  r.criteria.patterns.filter fun p => !isPattern p.2

/-! ## Remembering patterns -/

/-- The texts that have been looked up, each with the pattern it stands for, if it is
one. -/
structure PatternCache where
  entries : List (String × Option Pattern) := []
  deriving Inhabited

namespace PatternCache

/-- What is remembered of a text. -/
def find? (c : PatternCache) (text : String) : Option (Option Pattern) :=
  (c.entries.find? (·.1 = text)).map (·.2)

/-- The texts that are remembered. -/
def texts (c : PatternCache) : List String := c.entries.map (·.1)

/-- Forgets the texts that do not satisfy a condition. -/
def retain (c : PatternCache) (keep : String → Bool) : PatternCache :=
  ⟨c.entries.filter fun e => keep e.1⟩

/-- The pattern that a text stands for, from memory if it is there. -/
def compile? (text : String) : StateM PatternCache (Option Pattern) := fun c =>
  match c.find? text with
  | some p => (p, c)
  | none =>
    let p := Pattern.compile? text
    (p, ⟨(text, p) :: c.entries⟩)

/-- Whether a text is a pattern that matches a value. -/
def isMatch (text value : String) : StateM PatternCache Bool := do
  return (← compile? text).any (·.isMatch value)

/-- Whether a text is a pattern. -/
def isPattern (text : String) : StateM PatternCache Bool := do
  return (← compile? text).isSome

/-- Whether a window satisfies some patterns.  The first one that fails decides, and
those after it are not looked up. -/
def satisfies (w : Window) : List (MatchField × String) → StateM PatternCache Bool
  | [] => pure true
  | p :: ps =>
    match w.get p.1 with
    | none => pure false
    | some value => do
      if ← isMatch p.2 value then satisfies w ps else pure false

/-- Whether a rule matches a window. -/
def ruleMatches (r : Rule) (w : Window) : StateM PatternCache Bool :=
  satisfies w r.criteria.patterns

/-- Whether a rule matches some window of a list.  The first one decides. -/
def matchesSome (r : Rule) : List Window → StateM PatternCache Bool
  | [] => pure false
  | w :: ws => do
    if ← ruleMatches r w then pure true else matchesSome r ws

/-- The rules that match a window, with their places, the first of which is given. -/
def matchingFrom (w : Window) : Nat → List Rule → StateM PatternCache (List (Nat × Rule))
  | _, [] => pure []
  | i, r :: rs => do
    let hit ← ruleMatches r w
    let rest ← matchingFrom w (i + 1) rs
    return if hit then (i, r) :: rest else rest

/-- Those of some patterns that are none. -/
def brokenPatterns :
    List (MatchField × String) → StateM PatternCache (List (MatchField × String))
  | [] => pure []
  | p :: ps => do
    let fine ← isPattern p.2
    let rest ← brokenPatterns ps
    return if fine then rest else p :: rest

end PatternCache

end WindowRules
