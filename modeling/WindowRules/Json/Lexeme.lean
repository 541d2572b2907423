import WindowRules.Text.Number

/-!
# Lexemes of JSON

Strings, numbers and words as they stand in a JSON text.  What is wrong with a
lexeme depends on whether it is read or only skipped: a string that is skipped may
hold one half of a surrogate pair, and a number that is skipped has no value.  So a
lexeme keeps both answers, and who comes to it picks one.
-/

namespace WindowRules
namespace Json

/-- Why a JSON text cannot be read. -/
inductive Fault where
  /-- The text is not JSON. -/
  | malformed
  /-- The text ends too early. -/
  | cutShort
  /-- What the text says is not what is asked for. -/
  | unfit
  deriving DecidableEq

/-- The fault of a text that should go on in some way but continues like this. -/
def Fault.ofRest : List Char → Fault
  | [] => .cutShort
  | _ :: _ => .malformed

/-! ## Strings -/

/-- The value of four hexadecimal digits. -/
def hexUnit? (a b c d : Char) : Option Nat := do
  return (← Text.hexDigit? a) * 4096 + (← Text.hexDigit? b) * 256 +
    (← Text.hexDigit? c) * 16 + (← Text.hexDigit? d)

/-- The character that a backslash before a character stands for. -/
def escaped? : Char → Option Char
  | '"' => some '"'
  | '\\' => some '\\'
  | '/' => some '/'
  | 'b' => some '\x08'
  | 'f' => some '\x0c'
  | 'n' => some '\n'
  | 'r' => some '\r'
  | 't' => some '\t'
  | _ => none

/-- A part of a string: a character, or a code unit that is given by its number. -/
inductive Piece where
  | char (c : Char)
  | unit (n : Nat)

/-- The parts of a string, and what follows its closing quote. -/
structure Scan where
  pieces : List Piece
  rest : Except Fault (List Char)

/-- One part before others. -/
def Scan.cons (p : Piece) (s : Scan) : Scan := { s with pieces := p :: s.pieces }

/-- A scan that stops. -/
def Scan.stop (f : Fault) : Scan := ⟨[], .error f⟩

/-- How many bytes the number of a code unit takes. -/
def unitBytes : Nat := 4

/-- Scans what follows an opening quote. -/
def scanString : List Char → Scan
  | [] => .stop .cutShort
  | '"' :: cs => ⟨[], .ok cs⟩
  | '\\' :: 'u' :: a :: b :: c :: d :: cs =>
    match hexUnit? a b c d with
    | some n => (scanString cs).cons (.unit n)
    | none => .stop .malformed
  | '\\' :: 'u' :: cs =>
    .stop (if (String.ofList cs).utf8ByteSize < unitBytes then .cutShort else .malformed)
  | '\\' :: c :: cs =>
    match escaped? c with
    | some d => (scanString cs).cons (.char d)
    | none => .stop .malformed
  | c :: cs =>
    if c = '\\' then .stop .cutShort
    else if c < ' ' then .stop .malformed
    else (scanString cs).cons (.char c)

theorem length_rest_scanString {s r : List Char} (h : (scanString s).rest = .ok r) :
    r.length < s.length := by
  fun_induction scanString s generalizing r with
  | case1 => cases h
  | case2 cs => cases h; exact Nat.lt_succ_self _
  | case3 a b c d cs n hn ih => have := ih h; simp only [List.length_cons]; omega
  | case4 => cases h
  | case5 => cases h
  | case6 c cs _ _ d hd ih => have := ih h; simp only [List.length_cons]; omega
  | case7 => cases h
  | case8 => cases h
  | case9 => cases h
  | case10 c cs _ _ _ _ _ _ ih => have := ih h; simp only [List.length_cons]; omega

/-- Whether a code unit is the first half of a pair. -/
def isHighSurrogate (n : Nat) : Bool := 0xd800 ≤ n && n ≤ 0xdbff

/-- Whether a code unit is the second half of a pair. -/
def isLowSurrogate (n : Nat) : Bool := 0xdc00 ≤ n && n ≤ 0xdfff

/-- The character of a pair. -/
def pairChar (high low : Nat) : Char := .ofNat (0x10000 + (high - 0xd800) * 0x400 + (low - 0xdc00))

/-- The text that the parts of a string spell, if the string stops for some reason. -/
def spell (stop : Option Fault) : List Piece → Except Fault (List Char)
  | [] =>
    match stop with
    | none => .ok []
    | some f => .error f
  | .char c :: ps => (spell stop ps).map (c :: ·)
  | .unit n :: ps =>
    if isLowSurrogate n then .error .malformed
    else if isHighSurrogate n then
      match ps with
      | [] => .error (stop.getD .malformed)
      | .char _ :: _ => .error .malformed
      | .unit m :: qs =>
        if isLowSurrogate m then (spell stop qs).map (pairChar n m :: ·) else .error .malformed
    else (spell stop ps).map (.ofNat n :: ·)

/-! ## Numbers -/

/-- A number as it is written. -/
structure Numeral where
  negative : Bool
  /-- Its digits before the exponent, as one number. -/
  digits : Nat
  /-- How many of these digits follow the point. -/
  places : Nat
  exponent : Int
  /-- Whether there is neither a point nor an exponent. -/
  isWhole : Bool

/-- Whether a character is a decimal digit. -/
def isDigit (c : Char) : Bool := '0' ≤ c && c ≤ '9'

/-- The value of decimal digits, after others. -/
def valueFrom (n : Nat) (ds : List Char) : Nat :=
  ds.foldl (fun n d => n * 10 + (d.toNat - '0'.toNat)) n

/-- The digits at the front of a text, at least one, and what follows. -/
def scanDigits (s : List Char) : Except Fault (List Char × List Char) :=
  let rest := s.dropWhile isDigit
  match s.takeWhile isDigit with
  | [] => .error (Fault.ofRest rest)
  | d :: ds => .ok (d :: ds, rest)

/-- The digits before the point: a zero alone, or digits that start with no zero. -/
def scanWhole (s : List Char) : Except Fault (List Char × List Char) := do
  let (ds, rest) ← scanDigits s
  match ds with
  | '0' :: _ :: _ => .error .malformed
  | _ => .ok (ds, rest)

/-- The digits after a point, if there is one. -/
def scanFraction : List Char → Except Fault (List Char × List Char)
  | '.' :: cs => scanDigits cs
  | cs => .ok ([], cs)

/-- The exponent, if there is one. -/
def scanExponent : List Char → Except Fault (Option Int × List Char)
  | [] => .ok (none, [])
  | c :: cs =>
    if c = 'e' ∨ c = 'E' then do
      let (sign, cs) : Int × List Char :=
        match cs with
        | '+' :: cs => (1, cs)
        | '-' :: cs => (-1, cs)
        | cs => (1, cs)
      let (ds, rest) ← scanDigits cs
      return (some (sign * valueFrom 0 ds), rest)
    else .ok (none, c :: cs)

/-- Scans a number without its sign. -/
def scanNumeral (negative : Bool) (s : List Char) : Except Fault (Numeral × List Char) := do
  let (whole, s) ← scanWhole s
  let (fraction, s) ← scanFraction s
  let (exponent, s) ← scanExponent s
  return ({ negative, digits := valueFrom (valueFrom 0 whole) fraction, places := fraction.length,
            exponent := exponent.getD 0, isWhole := fraction.isEmpty && exponent.isNone }, s)

theorem length_scanDigits {s ds r : List Char} (h : scanDigits s = .ok (ds, r)) :
    r.length < s.length := by
  have hs := congrArg List.length (List.takeWhile_append_dropWhile (p := isDigit) (l := s))
  simp only [List.length_append] at hs
  unfold scanDigits at h
  split at h
  · cases h
  · next heq =>
    obtain ⟨-, rfl⟩ := Prod.mk.inj (Except.ok.inj h)
    rw [heq, List.length_cons] at hs
    omega

theorem length_scanWhole {s ds r : List Char} (h : scanWhole s = .ok (ds, r)) :
    r.length < s.length := by
  unfold scanWhole at h
  cases hd : scanDigits s with
  | error f => rw [hd] at h; cases h
  | ok p =>
    rw [hd] at h
    simp only [bind, Except.bind] at h
    split at h
    · cases h
    · cases h; exact length_scanDigits hd

theorem length_scanFraction {s ds r : List Char} (h : scanFraction s = .ok (ds, r)) :
    r.length ≤ s.length := by
  unfold scanFraction at h
  split at h
  · exact Nat.le_of_lt (Nat.lt_succ_of_lt (length_scanDigits h))
  · cases h; exact Nat.le_refl _

theorem length_scanExponent {s r : List Char} {e : Option Int}
    (h : scanExponent s = .ok (e, r)) : r.length ≤ s.length := by
  unfold scanExponent at h
  split at h
  · cases h; exact Nat.le_refl _
  · next c cs =>
    split at h
    · simp only [bind, Except.bind, pure, Except.pure] at h
      split at h
      · cases h
      · next hd =>
        cases h
        have := length_scanDigits hd
        simp only [List.length_cons]
        split at this <;> simp_all <;> omega
    · cases h; exact Nat.le_refl _

theorem length_scanNumeral {b : Bool} {s r : List Char} {n : Numeral}
    (h : scanNumeral b s = .ok (n, r)) : r.length < s.length := by
  unfold scanNumeral at h
  cases hw : scanWhole s with
  | error f => rw [hw] at h; cases h
  | ok p =>
    rw [hw] at h
    cases hf : scanFraction p.2 with
    | error f => simp only [bind, Except.bind, hf] at h; cases h
    | ok q =>
      cases he : scanExponent q.2 with
      | error f => simp only [bind, Except.bind, hf, he] at h; cases h
      | ok t =>
        simp only [bind, Except.bind, pure, Except.pure, hf, he] at h
        cases h
        have h1 := length_scanWhole hw
        have h2 := length_scanFraction hf
        have h3 := length_scanExponent he
        omega

/-- The first number that is nearer to `2 ^ 1024` than to any smaller number of 53
significant bits. -/
def tooLargeFrom : Nat := (Nat.pow 2 54 - 1) * Nat.pow 2 970

/-- A power of ten above that number. -/
def tooLargeExponent : Nat := 309

/-- Whether a number is too large for double precision. -/
def Numeral.isTooLarge (n : Numeral) : Bool :=
  if n.digits = 0 then false
  else
    match n.exponent - n.places with
    | .ofNat e => tooLargeExponent ≤ e || tooLargeFrom ≤ n.digits * Nat.pow 10 e
    | .negSucc e => e ≤ n.digits.log2 && tooLargeFrom * Nat.pow 10 (e + 1) ≤ n.digits

/-- The integer that a number is, unless it is written like a fraction or is minus
zero. -/
def Numeral.toInt? (n : Numeral) : Option Int :=
  if !n.isWhole then none
  else if n.negative then (if n.digits = 0 then none else some (-n.digits))
  else some n.digits

/-! ## Words -/

/-- What follows a word at the front of a text. -/
def scanWord : List Char → List Char → Except Fault (List Char)
  | [], s => .ok s
  | _ :: _, [] => .error .cutShort
  | w :: ws, c :: cs => if c = w then scanWord ws cs else .error .malformed

theorem length_scanWord {w s r : List Char} (h : scanWord w s = .ok r) : r.length ≤ s.length := by
  fun_induction scanWord w s with
  | case1 => simp_all
  | case2 => simp at h
  | case3 _ _ _ ih => exact Nat.le_succ_of_le (ih h)
  | case4 => simp at h

end Json
end WindowRules
