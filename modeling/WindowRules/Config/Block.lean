import WindowRules.Config.Token

/-!
# Rule blocks

A rule is written as a block: the word `windowrule`, an opening brace, and
everything up to the closing brace that balances it.  A block without such a brace
is no block, and the search goes on just after its opening brace, so a block that
was left open hides none of those that follow.
-/

namespace WindowRules
namespace Config

/-- The word that starts a block. -/
def blockWord : String := "windowrule"

/-- The number of tokens before the closing brace that balances an open one, where
`depth` further braces are open. -/
def findClose? (depth : Nat) : List Token → Option Nat
  | [] => none
  | .openBrace :: ts => (findClose? (depth + 1) ts).map (· + 1)
  | .closeBrace :: ts =>
    match depth with
    | 0 => some 0
    | d + 1 => (findClose? d ts).map (· + 1)
  | _ :: ts => (findClose? depth ts).map (· + 1)

/-- The bodies of all blocks, each from its first token up to its closing brace, as
places in the list of tokens.  The first token of the given list has place `pos`. -/
def locateFrom (pos : Nat) : List Token → List (Nat × Nat)
  | [] => []
  | .word w :: .openBrace :: ts =>
    if w = blockWord then
      match findClose? 0 ts with
      | some n => (pos + 2, pos + 2 + n) :: locateFrom (pos + 2 + n + 1) (ts.drop (n + 1))
      | none => locateFrom (pos + 2) ts
    else locateFrom (pos + 1) (.openBrace :: ts)
  | _ :: ts => locateFrom (pos + 1) ts
termination_by ts => ts.length

/-- The bodies of all blocks, as places in the list of tokens. -/
def locateBlocks (ts : List Token) : List (Nat × Nat) := locateFrom 0 ts

/-- The tokens from one place up to another. -/
def slice (ts : List Token) (r : Nat × Nat) : List Token := (ts.drop r.1).take (r.2 - r.1)

/-- The assignments in the body of a block, where `depth` braces are open inside it.
Only those outside inner braces count. -/
def assignments (depth : Nat) : List Token → List (String × String)
  | [] => []
  | .openBrace :: ts => assignments (depth + 1) ts
  | .closeBrace :: ts => assignments (depth - 1) ts
  | .word key :: .equals :: .value v :: ts =>
    if depth = 0 then (key, v) :: assignments depth ts else assignments depth ts
  | _ :: ts => assignments depth ts

end Config
end WindowRules
