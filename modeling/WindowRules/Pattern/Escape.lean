import WindowRules.Pattern.Expr
import WindowRules.Pattern.Flags
import WindowRules.Unicode.PropertyName

/-!
# Escapes

A backslash makes a special character plain, and a plain one special: it starts a
character given by its number, a class of characters, or an anchor.  Letters and
digits without such a meaning are refused.  `escape` goes the other way and writes
a text so that the pattern stands for that text.
-/

namespace WindowRules
namespace Pattern

/-- What an escape, or a character that needs none, stands for. -/
inductive Primitive where
  /-- A character.  It may have been given as a byte, by two hexadecimal digits. -/
  | literal (c : Char) (asByte : Bool)
  | set (s : CharSet)
  | anchor (a : Anchor)

/-- The characters with a special meaning somewhere in a pattern. -/
def specialChars : List Char :=
  ['\\', '.', '+', '*', '?', '(', ')', '|', '[', ']', '{', '}', '^', '$', '#', '&', '-', '~']

def isSpecial (c : Char) : Bool := specialChars.contains c

/-- Writes a text as a pattern for it. -/
def escape (s : List Char) : List Char :=
  s.flatMap fun c => if isSpecial c then ['\\', c] else [c]

/-- Whether a backslash before a character just gives the character: any special
one, and any other of ASCII that is no letter, no digit and no angle bracket. -/
def isEscapable (c : Char) : Bool :=
  isSpecial c || (c.toNat < 0x80 && !c.isAlphanum && c != '<' && c != '>')

/-! ## Characters by number -/

/-- The character with a code point, if there is one. -/
def charOfCode? (n : Nat) : Option Char :=
  if n < 0xd800 ∨ (0xdfff < n ∧ n < 0x110000) then some (Char.ofNat n) else none

/-- Reads a fixed number of hexadecimal digits. -/
def readHexDigits (f : Flags) : Nat → Nat → List Char → Option (Nat × List Char)
  | 0, value, cs => some (value, cs)
  | _ + 1, _, [] => none
  | k + 1, value, c :: cs => do
    readHexDigits f k (value * 16 + (← Text.hexDigit? c)) (f.skip cs)

/-- Reads what stands before a closing brace, without what does not count. -/
def readBraced (f : Flags) : Nat → List Char → Option (List Char × List Char)
  | 0, _ => none
  | _ + 1, [] => none
  | _ + 1, '}' :: cs => some ([], cs)
  | fuel + 1, c :: cs => do
    let (inside, rest) ← readBraced f fuel (f.skip cs)
    return (c :: inside, rest)

/-- The value of a row of hexadecimal digits. -/
def hexValue? (digits : List Char) : Option Nat :=
  if digits.isEmpty then none
  else digits.foldlM (fun value c => do return value * 16 + (← Text.hexDigit? c)) 0

/-- Reads a character given by its number, after the letter that announces it.  The
letter says how many digits there are if they are not in braces. -/
def readNumbered (f : Flags) (letter : Char) (cs : List Char) :
    Option (Primitive × List Char) :=
  match f.skip cs with
  | '{' :: cs => do
    let (digits, rest) ← readBraced f (cs.length + 1) (f.skip cs)
    let c ← charOfCode? (← hexValue? digits)
    return (.literal c false, f.skip rest)
  | cs => do
    let count := if letter = 'x' then 2 else if letter = 'u' then 4 else 8
    let (value, rest) ← readHexDigits f count 0 cs
    let c ← charOfCode? value
    return (.literal c (letter = 'x'), rest)

/-! ## Classes -/

/-- Splits a text at the first place where a piece of it stands. -/
def splitAtPiece? (piece : List Char) : List Char → Option (List Char × List Char)
  | [] => none
  | c :: cs =>
    if piece.isPrefixOf (c :: cs) then some ([], (c :: cs).drop piece.length)
    else (splitAtPiece? piece cs).map fun p => (c :: p.1, p.2)

/-- The characters that the text of a property names. -/
def namedProperty? (name : List Char) : Option CharSet :=
  match splitAtPiece? ['!', '='] name with
  | some (property, value) => (Unicode.propertyValue? property value)
  | none =>
    match splitAtPiece? [':'] name <|> splitAtPiece? ['='] name with
    | some (property, value) => Unicode.propertyValue? property value
    | none => Unicode.property? name

/-- Whether the text of a property asks for what the property does not have. -/
def deniesProperty (name : List Char) : Bool := (splitAtPiece? ['!', '='] name).isSome

/-- The set closed under case, if case does not count. -/
def Flags.fold (f : Flags) (s : CharSet) : CharSet :=
  if f.ignoreCase then if f.unicode then s.closeUnderCase else s.closeUnderAsciiCase else s

/-- The set as a class of the pattern has it, denied or not.  Within ASCII no class
may be denied, because what is left would not be text any more. -/
def Flags.finishSet (f : Flags) (denied : Bool) (s : CharSet) : Option CharSet :=
  if denied then if f.unicode then some (f.fold s).complement else none else some (f.fold s)

/-- Reads a class given by a property, after the letter that announces it. -/
def readProperty (f : Flags) (denied : Bool) (cs : List Char) :
    Option (Primitive × List Char) := do
  let (name, rest) ← match f.skip cs with
    | [] => none
    | '{' :: cs => readBraced f (cs.length + 1) (f.skip cs)
    | '\\' :: _ => none
    | c :: cs => some ([c], f.skip cs)
  if !f.unicode then none
  else
    let s ← f.finishSet (denied != deniesProperty name) (← namedProperty? name)
    return (.set s, rest)

def asciiBlanks : CharSet := .ofText "9-d 20"

def asciiDigits : CharSet := .ofText "30-39"

def asciiWordChars : CharSet := .ofText "30-39 41-5a 5f 61-7a"

/-- The class that one letter stands for; the capital denies it. -/
def letterClass? (f : Flags) (letter : Char) : Option CharSet := do
  let s ← match letter.toLower with
    | 'd' => some (if f.unicode then Unicode.decimalDigits else asciiDigits)
    | 's' => some (if f.unicode then Unicode.blanks else asciiBlanks)
    | 'w' => some (if f.unicode then Unicode.wordChars else asciiWordChars)
    | _ => none
  if letter.isUpper then if f.unicode then some s.complement else none else some s

/-! ## Anchors -/

/-- The kind of words that word anchors look for. -/
def Flags.wordKind (f : Flags) : WordKind := if f.unicode then .unicode else .ascii

/-- Reads the rest of a word anchor: its edge in braces, if what follows can be one.
Otherwise what follows is left alone, because it may be a repetition. -/
def readWordEdge (f : Flags) (cs : List Char) : Option (WordEdge × List Char) :=
  match cs with
  | '{' :: inner =>
    match f.skip inner with
    | [] => none
    | c :: rest =>
      if c.isAlpha || c == '-' then do
        let (name, rest) ← readBraced f (rest.length + 2) (c :: rest)
        match String.ofList name with
        | "start" => some (.start, rest)
        | "end" => some (.finish, rest)
        | "start-half" => some (.startHalf, rest)
        | "end-half" => some (.finishHalf, rest)
        | _ => none
      else some (.boundary, cs)
  | _ => some (.boundary, cs)

/-! ## Reading an escape -/

/-- The control characters that have a letter of their own. -/
def controlOf? (letter : Char) : Option Char :=
  match letter with
  | 'a' => some '\x07'
  | 'f' => some '\x0c'
  | 't' => some '\t'
  | 'n' => some '\n'
  | 'r' => some '\r'
  | 'v' => some '\x0b'
  | _ => none

/-- Reads an escape, after its backslash. -/
def readEscape (f : Flags) : List Char → Option (Primitive × List Char)
  | [] => none
  | c :: cs =>
    if isEscapable c then some (.literal c false, cs)
    else if c = 'x' ∨ c = 'u' ∨ c = 'U' then readNumbered f c cs
    else if c = 'p' ∨ c = 'P' then readProperty f (c = 'P') cs
    else
      match c with
      | 'A' => some (.anchor .textStart, cs)
      | 'z' => some (.anchor .textEnd, cs)
      | 'b' => do
        let (edge, rest) ← readWordEdge f cs
        return (.anchor (.word edge f.wordKind), rest)
      | 'B' => some (.anchor (.word .noBoundary f.wordKind), cs)
      | '<' => some (.anchor (.word .start f.wordKind), cs)
      | '>' => some (.anchor (.word .finish f.wordKind), cs)
      | _ =>
        match controlOf? c with
        | some control => some (.literal control false, cs)
        | none => (letterClass? f c).map fun s => (.set s, cs)

end Pattern
end WindowRules
