/-!
# Numbers as text

The value of a digit, decimal or hexadecimal, and the numbers that users write.
Rule indices and the history's capacity are read as unsigned numbers of 64 bits:
an optional plus sign and at least one decimal digit, with a value below `2 ^ 64`.
-/

namespace WindowRules
namespace Text

/-- The value of a decimal digit. -/
def digit? (c : Char) : Option Nat :=
  if '0' ≤ c ∧ c ≤ '9' then some (c.toNat - '0'.toNat) else none

/-- The value of a hexadecimal digit. -/
def hexDigit? (c : Char) : Option Nat :=
  if '0' ≤ c ∧ c ≤ '9' then some (c.toNat - '0'.toNat)
  else if 'a' ≤ c ∧ c ≤ 'f' then some (c.toNat - 'a'.toNat + 10)
  else if 'A' ≤ c ∧ c ≤ 'F' then some (c.toNat - 'A'.toNat + 10)
  else none

/-- The value of a row of decimal digits, continuing a number. -/
def digitsFrom (n : Nat) : List Char → Option Nat
  | [] => some n
  | c :: cs => do digitsFrom (n * 10 + (← digit? c)) cs

/-- The value of a non-empty row of decimal digits. -/
def digits? : List Char → Option Nat
  | [] => none
  | c :: cs => digitsFrom 0 (c :: cs)

/-- The first number that does not fit. -/
def wordLimit : Nat := Nat.pow 2 64

/-- Reads an unsigned number. -/
def readNumber? (s : List Char) : Option Nat := do
  let n ← digits? (match s with | '+' :: cs => cs | cs => cs)
  if n < wordLimit then some n else none

end Text
end WindowRules
