/-!
# Blank characters, trimming and words

A blank is a character with the White_Space property.  The config format, the
shell and the settings all cut their input at blanks, and all three mean this
class, so it is spelled out here as ranges of numbers: nothing below depends on
a property table.
-/

namespace WindowRules
namespace Text

/-- Whether a character is blank: tab to carriage return, the space, the next-line
control, and the wider and narrower spaces and separators. -/
def isBlank (c : Char) : Bool :=
  let n := c.toNat
  (9 ≤ n && n ≤ 13) || n == 0x20 || n == 0x85 || n == 0xa0 || n == 0x1680 ||
    (0x2000 ≤ n && n ≤ 0x200a) || n == 0x2028 || n == 0x2029 || n == 0x202f ||
    n == 0x205f || n == 0x3000

/-- Drops the blanks at the front. -/
def trimStart (s : List Char) : List Char := s.dropWhile isBlank

/-- Drops the blanks at the end. -/
def trimEnd : List Char → List Char
  | [] => []
  | c :: cs =>
    match trimEnd cs with
    | [] => if isBlank c then [] else [c]
    | d :: ds => c :: d :: ds

/-- Drops the blanks at both ends. -/
def trim (s : List Char) : List Char := trimEnd (trimStart s)

/-- The words of a text: its longest pieces without blanks, in order. -/
def words : List Char → List (List Char)
  | [] => []
  | c :: cs =>
    if isBlank c then words cs
    else
      match cs with
      | [] => [[c]]
      | d :: _ =>
        if isBlank d then [c] :: words cs
        else
          match words cs with
          | [] => [[c]]
          | w :: ws => (c :: w) :: ws

/-- The text after its first word and the blanks that follow. -/
def dropWord (s : List Char) : List Char := trimStart (s.dropWhile (!isBlank ·))

/-- The text after its first `k` words and the blanks that follow them. -/
def dropWords : Nat → List Char → List Char
  | 0, s => s
  | k + 1, s => dropWords k (dropWord s)

/-- What follows the first `k` words, without blanks at its ends but with its
inner spacing kept. -/
def afterWords (s : List Char) (k : Nat) : List Char :=
  trimEnd (dropWords k (trimStart s))

@[simp] theorem trimStart_nil : trimStart [] = [] := rfl

@[simp] theorem trimEnd_nil : trimEnd [] = [] := rfl

@[simp] theorem words_nil : words [] = [] := rfl

end Text
end WindowRules
