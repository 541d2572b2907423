import WindowRules.Unicode.CharSet

/-!
# Ranges of characters as sequences of byte ranges

A compiled pattern reads UTF-8, so a range of code points becomes a list of
sequences of byte ranges: every choice of one byte from each range of a sequence
spells one character of the range, and each character is spelt once.  A range is
cut at the surrogates, where the encoded length changes, and where a leading byte
would not combine with every continuation byte.
-/

namespace WindowRules
namespace Pattern

/-- A range of bytes. -/
abbrev ByteRange := Nat × Nat

/-- The UTF-8 form of a code point. -/
def utf8Bytes (n : Nat) : List Nat :=
  if n < 0x80 then [n]
  else if n < 0x800 then [0xc0 + n / 0x40, 0x80 + n % 0x40]
  else if n < 0x10000 then [0xe0 + n / 0x1000, 0x80 + n / 0x40 % 0x40, 0x80 + n % 0x40]
  else [0xf0 + n / 0x40000, 0x80 + n / 0x1000 % 0x40, 0x80 + n / 0x40 % 0x40, 0x80 + n % 0x40]

/-- Cuts a range so that none of its parts goes beyond a limit and past it. -/
def cutAfter (limit : Nat) (r : Nat × Nat) : List (Nat × Nat) :=
  if r.1 ≤ limit ∧ limit < r.2 then [(r.1, limit), (limit + 1, r.2)] else [r]

/-- Leaves the surrogates out of a range. -/
def withoutSurrogates (r : Nat × Nat) : List (Nat × Nat) :=
  ((cutAfter 0xd7ff r).flatMap (cutAfter 0xdfff)).filter fun p => p.2 < 0xd800 || 0xdfff < p.1

/-- Cuts a range so that in each part all code points whose last continuation
bytes differ range over all values of those bytes. -/
def cutAtBlock (block : Nat) (r : Nat × Nat) : List (Nat × Nat) :=
  if r.1 / block = r.2 / block then [r]
  else
    let firstEnd := r.1 - r.1 % block + (block - 1)
    let lastStart := r.2 - r.2 % block
    let head := if r.1 % block = 0 then [] else [(r.1, firstEnd)]
    let tail := if r.2 % block = block - 1 then [] else [(lastStart, r.2)]
    let middleStart := if r.1 % block = 0 then r.1 else firstEnd + 1
    let middleEnd := if r.2 % block = block - 1 then r.2 else lastStart - 1
    let middle := if middleStart ≤ middleEnd then [(middleStart, middleEnd)] else []
    head ++ middle ++ tail

/-- The sequences of byte ranges that spell the characters of a range. -/
def byteSequences (r : Nat × Nat) : List (List ByteRange) :=
  let parts := (withoutSurrogates r).flatMap fun p =>
    (cutAfter 0x7f p).flatMap fun p => (cutAfter 0x7ff p).flatMap (cutAfter 0xffff)
  let parts := parts.flatMap fun p =>
    if p.2 < 0x80 then [p]
    else (cutAtBlock 0x40 p).flatMap fun p =>
      if p.2 < 0x800 then [p]
      else (cutAtBlock 0x1000 p).flatMap fun p =>
        if p.2 < 0x10000 then [p] else cutAtBlock 0x40000 p
  parts.map fun p => (utf8Bytes p.1).zip (utf8Bytes p.2)

end Pattern
end WindowRules
