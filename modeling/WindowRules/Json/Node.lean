import WindowRules.Json.Lexeme

/-!
# JSON texts as trees

A text is cut into tokens and the tokens are put together to nodes.  Neither step
fails: where the text is wrong the tokens end, the tree gets a node or an ending that
says why, and what stood before stays as it is.  So whoever reads a tree from front
to back comes to the first thing that is wrong, be it the text or what it says.

Nodes that are still open stand on a list, the innermost first, so that no recursion
follows the depth of the text.
-/

namespace WindowRules
namespace Json

/-- A part of a JSON text. -/
inductive Node where
  | null
  | switch (on : Bool)
  | number (n : Numeral)
  /-- A string, unless it holds one half of a surrogate pair. -/
  | text (value : Except Fault String)
  /-- A list, with what is wrong after its last element. -/
  | list (elements : List Node) (ending : Option Fault)
  /-- A record, with what is wrong after its last member. -/
  | record (members : List (Except Fault String × Node)) (ending : Option Fault)
  /-- No value: the fault for who reads it, and the one for who skips it. -/
  | broken (read skipped : Fault)

/-! ## Tokens -/

/-- The marks between values. -/
inductive Mark where
  | openList
  | closeList
  | openRecord
  | closeRecord
  | comma
  | colon
  deriving DecidableEq

/-- What a text is cut into. -/
inductive Token where
  | mark (m : Mark)
  /-- A string that is closed. -/
  | text (value : Except Fault String)
  /-- A string that is not closed. -/
  | openText (read skipped : Fault)
  /-- Another value, or the broken beginning of one. -/
  | leaf (n : Node)
  /-- A character that begins nothing. -/
  | stray

/-- The mark that a character is. -/
def mark? : Char → Option Mark
  | '[' => some .openList
  | ']' => some .closeList
  | '{' => some .openRecord
  | '}' => some .closeRecord
  | ',' => some .comma
  | ':' => some .colon
  | _ => none

/-- Whether a character may stand between tokens. -/
def isSpace (c : Char) : Bool := c = ' ' || c = '\n' || c = '\t' || c = '\r'

/-- The fault of a string that cannot be read, given the fault at its end. -/
def openFault (end_ : Fault) (ps : List Piece) : Fault :=
  match spell (some end_) ps with
  | .ok _ => end_
  | .error f => f

/-- The token for a string, and what follows it if it is closed. -/
def textToken (s : List Char) : Token × List Char :=
  let scan := scanString s
  match scan.rest with
  | .ok rest => (.text ((spell none scan.pieces).map String.ofList), rest)
  | .error f => (.openText (openFault f scan.pieces) f, [])

/-- The token for a number, and what follows it. -/
def numberToken (negative : Bool) (s : List Char) : Token × List Char :=
  match scanNumeral negative s with
  | .ok (n, rest) => (.leaf (.number n), rest)
  | .error f => (.leaf (.broken f .malformed), [])

/-- The token for a word that stands for a value, and what follows it. -/
def wordToken (value : Node) (word s : List Char) : Token × List Char :=
  match scanWord word s with
  | .ok rest => (.leaf value, rest)
  | .error f => (.leaf (.broken f f), [])

/-- The token that begins with a character, and what follows it. -/
def scanToken (c : Char) (cs : List Char) : Token × List Char :=
  match mark? c with
  | some m => (.mark m, cs)
  | none =>
    match c with
    | '"' => textToken cs
    | '-' => numberToken true cs
    | 'n' => wordToken .null "ull".toList cs
    | 't' => wordToken (.switch true) "rue".toList cs
    | 'f' => wordToken (.switch false) "alse".toList cs
    | _ => if isDigit c then numberToken false (c :: cs) else (.stray, [])

theorem length_scanToken (c : Char) (cs : List Char) :
    (scanToken c cs).2.length ≤ cs.length := by
  have text (s : List Char) : (textToken s).2.length ≤ s.length := by
    simp only [textToken]
    split
    · next h => exact Nat.le_of_lt (length_rest_scanString h)
    · exact Nat.zero_le _
  have number (b : Bool) (s : List Char) : (numberToken b s).2.length ≤ s.length - 1 := by
    unfold numberToken
    split
    · next h => have := length_scanNumeral h; simp only; omega
    · exact Nat.zero_le _
  have word (n : Node) (w s : List Char) : (wordToken n w s).2.length ≤ s.length := by
    unfold wordToken
    split
    · next h => exact length_scanWord h
    · exact Nat.zero_le _
  unfold scanToken
  split
  · exact Nat.le_refl _
  · split
    · exact text _
    · exact Nat.le_trans (number _ _) (Nat.sub_le _ _)
    · exact word _ _ _
    · exact word _ _ _
    · exact word _ _ _
    · split
      · exact number _ _
      · exact Nat.zero_le _

/-- Cuts a text into tokens, up to the first that is not whole. -/
def tokens : List Char → List Token
  | [] => []
  | c :: cs =>
    if isSpace c then tokens cs
    else (scanToken c cs).1 :: tokens (scanToken c cs).2
termination_by s => s.length
decreasing_by
  · exact Nat.lt_succ_self _
  · exact Nat.lt_succ_of_le (length_scanToken c cs)

/-! ## Nodes -/

/-- A list or a record that is still open, the latest part first. -/
inductive Frame where
  | list (elements : List Node)
  /-- A record that waits for the value of a key. -/
  | member (members : List (Except Fault String × Node)) (key : Except Fault String)

/-- A frame with one more value, closed for some reason. -/
def Frame.close (ending : Option Fault) (n : Node) : Frame → Node
  | .list elements => .list (elements.reverse ++ [n]) ending
  | .member members key => .record (members.reverse ++ [(key, n)]) ending

/-- The whole tree when the text is wrong right after a node. -/
def abandon (f : Fault) (n : Node) (frames : List Frame) : Node :=
  frames.foldl (fun n frame => frame.close (some f) n) n

/-- A node for a value that is not there. -/
def Node.missing (f : Fault) : Node := .broken f f

/-- The fault of tokens that should go on in some way but continue like this. -/
def faultOf : List Token → Fault
  | [] => .cutShort
  | _ :: _ => .malformed

mutual

/-- Reads a value inside some frames.  Returns the whole tree, and the tokens after
it. -/
def readValue (frames : List Frame) : List Token → Node × List Token
  | .mark .openList :: .mark .closeList :: ts => readNext (.list [] none) frames ts
  | .mark .openList :: ts => readValue (.list [] :: frames) ts
  | .mark .openRecord :: .mark .closeRecord :: ts => readNext (.record [] none) frames ts
  | .mark .openRecord :: ts => readKey [] frames ts
  | .text s :: ts => readNext (.text s) frames ts
  | .openText read skipped :: _ => (abandon skipped (.broken read skipped) frames, [])
  | .leaf (.broken read skipped) :: _ => (abandon skipped (.broken read skipped) frames, [])
  | .leaf n :: ts => readNext n frames ts
  | ts => (abandon (faultOf ts) (.missing (faultOf ts)) frames, [])
termination_by structural ts => ts

/-- Goes on after a value. -/
def readNext (n : Node) (frames : List Frame) (ts : List Token) : Node × List Token :=
  match frames, ts with
  | [], ts => (n, ts)
  | .list ns :: frames, .mark .comma :: ts => readValue (.list (n :: ns) :: frames) ts
  | .list ns :: frames, .mark .closeList :: ts =>
    readNext (Frame.close none n (.list ns)) frames ts
  | .member ms k :: frames, .mark .comma :: ts => readKey ((k, n) :: ms) frames ts
  | .member ms k :: frames, .mark .closeRecord :: ts =>
    readNext (Frame.close none n (.member ms k)) frames ts
  | frames, ts => (abandon (faultOf ts) n frames, [])
termination_by structural ts

/-- Reads a key and goes on with its value. -/
def readKey (members : List (Except Fault String × Node)) (frames : List Frame) :
    List Token → Node × List Token
  | .text k :: .mark .colon :: ts => readValue (.member members k :: frames) ts
  | .text k :: ts =>
    (abandon (faultOf ts) (.missing (faultOf ts)) (.member members k :: frames), [])
  | .openText read skipped :: _ =>
    (abandon skipped (.missing skipped) (.member members (.error read) :: frames), [])
  | ts =>
    (abandon (faultOf ts) (.record members.reverse (some (faultOf ts))) frames, [])
termination_by structural ts => ts

end

/-- The tree of a text, and whether something follows it. -/
def Node.ofText (s : List Char) : Node × Bool :=
  let (n, rest) := readValue [] (tokens s)
  (n, !rest.isEmpty)

/-! ## Skipping -/

mutual

/-- What is wrong with a node that is not read. -/
def Node.skipFault? : Node → Option Fault
  | .list elements ending => skipAll? elements ending
  | .record members ending => skipMembers? members ending
  | .broken _ f => some f
  | _ => none

/-- What is wrong with some elements and what follows them. -/
def skipAll? : List Node → Option Fault → Option Fault
  | [], ending => ending
  | n :: ns, ending => n.skipFault? <|> skipAll? ns ending

/-- What is wrong with some members and what follows them. -/
def skipMembers? : List (Except Fault String × Node) → Option Fault → Option Fault
  | [], ending => ending
  | (_, n) :: ms, ending => n.skipFault? <|> skipMembers? ms ending

end

end Json
end WindowRules
