import WindowRules.Pattern.Footprint
import WindowRules.Pattern.Parser
import WindowRules.Pattern.Search

/-!
# Patterns

A rule constrains an attribute of a window by a pattern.  Patterns are not tied to
the ends of the attribute: a pattern matches a text if it matches any stretch of
it.  Not every text is a pattern, and a pattern whose compiled form is too large
counts as none.
-/

namespace WindowRules

/-- A pattern that has been read and found to fit. -/
structure Pattern where
  expr : Pattern.Expr

namespace Pattern

/-- The pattern that a text stands for, if it is one. -/
def compile? (text : String) : Option Pattern := do
  let e ← parse? text.toList
  if e.fits then some ⟨e⟩ else none

/-- Whether a pattern matches somewhere in a text. -/
def isMatch (p : Pattern) (text : String) : Bool := p.expr.foundIn text.toList

end Pattern
end WindowRules
