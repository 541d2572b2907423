/-!
# One text inside another

Coverage of a window class and the comparison of two class patterns both ask
whether one text occurs in another as a contiguous piece.
-/

namespace WindowRules
namespace Text

/-- Whether the first text occurs in the second as a contiguous piece. -/
def occursIn (piece : List Char) : List Char → Bool
  | [] => piece.isEmpty
  | c :: cs => piece.isPrefixOf (c :: cs) || occursIn piece cs

theorem occursIn_iff {piece s : List Char} : occursIn piece s = true ↔ piece <:+: s := by
  induction s with
  | nil => simp [occursIn]
  | cons c cs ih =>
    rw [occursIn, Bool.or_eq_true, ih, List.infix_cons_iff, List.isPrefixOf_iff_prefix]

end Text
end WindowRules
