/-!
# Lines

A line ends at a newline, and a carriage return just before that newline is part
of the line's end.  What follows the last newline is a line only if it is not
empty; such a last line keeps a carriage return at its end.
-/

namespace WindowRules
namespace Text

/-- The lines of a text, without their ends. -/
def lines : List Char → List (List Char)
  | [] => []
  | '\n' :: cs => [] :: lines cs
  | '\r' :: '\n' :: cs => [] :: lines cs
  | c :: cs =>
    match lines cs with
    | [] => [[c]]
    | l :: ls => (c :: l) :: ls

/-- Lines put together again, with a newline between any two. -/
def unlines (ls : List (List Char)) : List Char := ['\n'].intercalate ls

@[simp] theorem lines_nil : lines [] = [] := rfl

@[simp] theorem lines_newline (cs : List Char) : lines ('\n' :: cs) = [] :: lines cs := by
  simp [lines]

end Text
end WindowRules
