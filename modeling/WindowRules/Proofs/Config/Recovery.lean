import WindowRules.Proofs.Config.Blocks

/-!
# Recovery from broken config text

Reading never fails, so what matters about broken text is how far the damage goes.  The answer is:
not past the end of a line.  Whatever stands in a text (blocks left open, closing braces on their
own, other settings, half a comment), text that follows on new lines is read as it is read alone,
and the broken text is read as if nothing followed.

Two conditions are needed, and both are about the text that follows.  It must not close a brace that
it did not open, or it would close one that was left open before it; and it must not begin with the
brace of a block whose word ends the text before it.
-/

namespace WindowRules
namespace Config

/-- **Errors stay where they are.**  Text on new lines adds its own rules to those of the text
before it, and changes none of them, provided that it closes no more braces than it opens at any
point and that the two do not form the head of a block where they meet. -/
theorem read_append_newline (a b : String) (hb : Opening (tokens b.toList))
    (hjoin : ¬ Joins (tokens a.toList) (tokens b.toList)) :
    read (a ++ "\n" ++ b) = read a ++ read b := by
  have htokens : tokens (a ++ "\n" ++ b).toList = tokens a.toList ++ tokens b.toList := by
    rw [String.toList_append, String.toList_append, List.append_assoc]
    exact tokens_append_newline a.toList b.toList
  rw [read_eq_map_bodies, read_eq_map_bodies a, read_eq_map_bodies b, htokens,
    bodies_append hb hjoin, List.map_append]

/-- A text with two blocks left open, the second inside a brace of the first, and with a comment and
a value that are cut off by the end of a line. -/
def brokenText : String :=
  "windowrule \x7b float = 1\n\x7b windowrule \x7b tag = a\r\n# \x7d\nsize ="

/-- A block, and the head of something else. -/
def blockText : String := "windowrule \x7b pin = 1 \x7d\ngeneral \x7b"

theorem read_brokenText_append_newline :
    Opening (tokens blockText.toList) ∧
      ¬ Joins (tokens brokenText.toList) (tokens blockText.toList) ∧
      read (brokenText ++ "\n" ++ blockText) = read brokenText ++ read blockText := by
  have hb : Opening (tokens blockText.toList) := by decide +kernel
  have hjoin : ¬ Joins (tokens brokenText.toList) (tokens blockText.toList) := by decide +kernel
  exact ⟨hb, hjoin, read_append_newline brokenText blockText hb hjoin⟩

end Config
end WindowRules
