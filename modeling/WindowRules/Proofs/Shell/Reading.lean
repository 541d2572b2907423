import WindowRules.Proofs.Shell.Run
import WindowRules.Proofs.Text.Numerals
import WindowRules.Proofs.Text.Spacing

/-!
# What is typed is what is read

A command that takes a value or a name is read in two ways at once: its index and its key are words
of the line, and the value or the name is what follows them.  The two ways agree on where the words
end (`Text.RestAfter`), so a line is read as what was typed, however it is spaced: the inner blanks
of a value are kept, and those around it are not.

An index is a numeral.  One that is too large for an index makes the line an error, and a command
never has another index than the one in its line (`Command.index_of_read`).
-/

namespace WindowRules
namespace Shell

open Text

/-- The first words of the commands that take the index of a rule. -/
def indexedWords : List String := ["show", "set", "unset", "rename", "delete", "rm", "disable"]

namespace Command

theorem read_of_words {line w : List Char} {args : List (List Char)} (h : words line = w :: args) :
    read line = (ofWords line args (.ofList w)).map some := by
  rw [read, h]

/-- The index that a command was given. -/
def index? : Command → Option Nat
  | .showRule n | .setField n _ _ | .unsetField n _ | .rename n _ | .delete n | .disable n => some n
  | .listRules | .undo | .redo | .showHistory | .explain _ | .audit | .showConfig | .help | .quit =>
      none

/-! ## Indices -/

theorem indexOf_cons (synopsis : String) {w : List Char} {n : Nat} (hw : Numeral w n)
    (ws : List (List Char)) :
    indexOf synopsis (w :: ws) =
      if n < wordLimit then .ok n else .error (.badIndex (.ofList w)) := by
  split
  · next hlt => rw [indexOf, readNumber?_eq_some_iff.mpr ⟨hw, hlt⟩]
  · next hle => rw [indexOf, readNumber?_eq_none_of_le hw (Nat.not_lt.mp hle)]

/-- An index is the value of the first word. -/
theorem exists_of_indexOf_eq_ok {synopsis : String} {ws : List (List Char)} {n : Nat}
    (h : indexOf synopsis ws = .ok n) : ∃ w ∈ ws.head?, Numeral w n ∧ n < wordLimit := by
  cases ws with
  | nil => cases h
  | cons w ws =>
    rw [indexOf] at h
    split at h
    · next m hm =>
      obtain rfl := Except.ok.inj h
      exact ⟨w, rfl, readNumber?_eq_some_iff.mp hm⟩
    · cases h

theorem exists_of_map_indexOf_eq_ok {synopsis : String} {ws : List (List Char)} {f : Nat → Command}
    {c : Command} (hf : ∀ m, (f m).index? = some m)
    (h : (indexOf synopsis ws).map f = .ok c) {n : Nat} (hn : c.index? = some n) :
    ∃ w ∈ ws.head?, Numeral w n ∧ n < wordLimit := by
  obtain ⟨m, hm, rfl⟩ := Session.exists_of_map_eq_ok h
  rw [hf m] at hn
  obtain rfl := Option.some.inj hn
  exact exists_of_indexOf_eq_ok hm

theorem index_of_ofWords {line : List Char} {args : List (List Char)} {word : String} {c : Command}
    (h : ofWords line args word = .ok c) {n : Nat} (hn : c.index? = some n) :
    ∃ w ∈ args.head?, Numeral w n ∧ n < wordLimit := by
  unfold ofWords at h
  split at h
  case h_3 | h_6 | h_7 | h_8 | h_9 => exact exists_of_map_indexOf_eq_ok (fun _ => rfl) h hn
  case h_4 =>
    unfold readSet at h
    split at h
    · exact exists_of_map_indexOf_eq_ok (fun _ => rfl) h hn
    · exact absurd h nofun
  case h_5 =>
    unfold readUnset at h
    split at h
    · exact exists_of_map_indexOf_eq_ok (fun _ => rfl) h hn
    · exact absurd h nofun
  case h_13 =>
    unfold readExplain at h
    split at h
    · exact absurd h nofun
    · obtain rfl := Except.ok.inj h
      exact absurd hn nofun
  case h_20 => exact absurd h nofun
  -- the other commands have no index
  all_goals
    obtain rfl := Except.ok.inj h
    exact absurd hn nofun

/-- **A command has the index that its line has**, as the second word. -/
theorem index_of_read {line : List Char} {c : Command} (h : read line = .ok (some c)) {n : Nat}
    (hn : c.index? = some n) : ∃ w, (words line)[1]? = some w ∧ Numeral w n ∧ n < wordLimit := by
  cases hwords : words line with
  | nil =>
    rw [read, hwords] at h
    exact absurd h nofun
  | cons w args =>
    rw [read_of_words hwords] at h
    obtain ⟨d, hd, hc⟩ := Session.exists_of_map_eq_ok h
    obtain rfl := Option.some.inj hc
    obtain ⟨v, hv, hindex⟩ := index_of_ofWords hd hn
    refine ⟨v, ?_, hindex⟩
    rw [List.getElem?_cons_succ, ← List.head?_eq_getElem?]
    exact hv

/-- **An index that is too large** makes the line an error. -/
theorem exists_read_eq_error {line word w : List Char} {args : List (List Char)} {n : Nat}
    (hwords : words line = word :: w :: args) (hword : String.ofList word ∈ indexedWords)
    (hw : Numeral w n) (hn : wordLimit ≤ n) : ∃ e, read line = .error e := by
  have hindex : ∀ (synopsis : String) (f : Nat → Command),
      (indexOf synopsis (w :: args)).map f = .error (.badIndex (.ofList w)) := by
    intro synopsis f
    rw [indexOf_cons synopsis hw, if_neg (Nat.not_lt.mpr hn)]
    rfl
  have herror : ∃ e, ofWords line (w :: args) (.ofList word) = .error e := by
    simp only [indexedWords, List.mem_cons, List.not_mem_nil, or_false] at hword
    rcases hword with h | h | h | h | h | h | h <;> rw [h]
    case inr.inl =>
      show ∃ e, readSet (w :: args) (afterWords line 3) = .error e
      unfold readSet
      split
      · exact ⟨_, hindex _ _⟩
      · exact ⟨_, rfl⟩
    case inr.inr.inl =>
      show ∃ e, readUnset (w :: args) = .error e
      unfold readUnset
      split
      · exact ⟨_, hindex _ _⟩
      · exact ⟨_, rfl⟩
    all_goals exact ⟨_, hindex _ _⟩
  obtain ⟨e, he⟩ := herror
  exact ⟨e, by rw [read_of_words hwords, he]; rfl⟩

/-! ## Values and names -/

section Spaced

variable {line num : List Char} {n : Nat}

/-- **A typed value is set as it was typed.** -/
theorem read_set {key value : List Char} (hline : Spaced ["set".toList, num, key] value line)
    (hvalue : Trimmed value) (hne : value ≠ []) (hnum : Numeral num n) :
    read line = if n < wordLimit then .ok (some (.setField n (.ofList key) (.ofList value)))
      else .error (.badIndex (.ofList num)) := by
  obtain ⟨v, vs, hv⟩ := List.exists_cons_of_ne_nil (mt hvalue.words_eq_nil_iff.mp hne)
  have hwords : words line = "set".toList :: num :: key :: v :: vs := by
    rw [hline.words_eq, hv]
    rfl
  have hrest : afterWords line 3 = value := hline.afterWords_eq.trans hvalue.trim_eq
  have hset : ofWords line (num :: key :: v :: vs) (.ofList "set".toList) =
      (indexOf "set <n> <key> <value...>" (num :: key :: v :: vs)).map fun n =>
        .setField n (.ofList key) (.ofList value) := by
    rw [String.ofList_toList, ← hrest]
    rfl
  rw [read_of_words hwords, hset, indexOf_cons _ hnum]
  split <;> rfl

/-- **A typed name is given as it was typed**, and no name is the empty one. -/
theorem read_rename {name : List Char} (hline : Spaced ["rename".toList, num] name line)
    (hname : Trimmed name) (hnum : Numeral num n) :
    read line = if n < wordLimit then .ok (some (.rename n (.ofList name)))
      else .error (.badIndex (.ofList num)) := by
  have hwords : words line = "rename".toList :: num :: words name := hline.words_eq
  have hrest : afterWords line 2 = name := hline.afterWords_eq.trans hname.trim_eq
  have hrename : ofWords line (num :: words name) (.ofList "rename".toList) =
      (indexOf "rename <n> [name...]" (num :: words name)).map fun n =>
        .rename n (.ofList name) := by
    rw [String.ofList_toList, ← hrest]
    rfl
  rw [read_of_words hwords, hrename, indexOf_cons _ hnum]
  split <;> rfl

end Spaced

end Command

/-- **The two ways of cutting a line agree.**  What follows some words of a line is the part of the
line from the next word to its end, and its words are the others.  So a line that sets a value or
gives a name is read with exactly the index, the key and the value or name that were typed, however
it is spaced.  A numeral that is too large, `2 ^ 64` or more, is an error with all commands that
take an index, and no command has another index than the value of the second word. -/
theorem typed_is_read :
    (∀ (line : List Char) (k : Nat), RestAfter line k (afterWords line k)) ∧
    (∀ (line num key value : List Char) (n : Nat), Spaced ["set".toList, num, key] value line →
      Trimmed value → value ≠ [] → Numeral num n →
        Command.read line =
          if n < wordLimit then .ok (some (.setField n (.ofList key) (.ofList value)))
          else .error (.badIndex (.ofList num))) ∧
    (∀ (line num name : List Char) (n : Nat), Spaced ["rename".toList, num] name line →
      Trimmed name → Numeral num n →
        Command.read line =
          if n < wordLimit then .ok (some (.rename n (.ofList name)))
          else .error (.badIndex (.ofList num))) ∧
    (∀ (line word num : List Char) (args : List (List Char)) (n : Nat),
      words line = word :: num :: args → String.ofList word ∈ indexedWords → Numeral num n →
        wordLimit ≤ n → ∃ e, Command.read line = .error e) ∧
    (∀ (line : List Char) (c : Command) (n : Nat), Command.read line = .ok (some c) →
      c.index? = some n → ∃ num, (words line)[1]? = some num ∧ Numeral num n ∧ n < wordLimit) := by
  refine ⟨restAfter_afterWords, ?_, ?_, ?_, ?_⟩
  · exact fun _ _ _ _ _ hline hvalue hne hnum => Command.read_set hline hvalue hne hnum
  · exact fun _ _ _ _ hline hname hnum => Command.read_rename hline hname hnum
  · exact fun _ _ _ _ _ hwords hword hnum hn => Command.exists_read_eq_error hwords hword hnum hn
  · exact fun _ _ _ hread hn => Command.index_of_read hread hn

/-- A line with the largest index, a value with a gap inside it, and blanks of several kinds around
the words; a name that is left empty; and the first index that is too large. -/
theorem typed_is_read_largest :
    Command.read "\u00a0set\t18446744073709551615 move  100\u2003 100 ".toList =
        .ok (some (.setField 18446744073709551615 "move" "100\u2003 100")) ∧
      Command.read " rename 3 ".toList = .ok (some (.rename 3 "")) ∧
      (∃ e, Command.read "show 18446744073709551616".toList = .error e) ∧
      (∃ num, (words "show +7".toList)[1]? = some num ∧ Numeral num 7 ∧ 7 < wordLimit) := by
  obtain ⟨hrest, hset, hrename, hlarge, hindex⟩ := typed_is_read
  refine ⟨?_, ?_, ?_, ?_⟩
  · obtain ⟨hline, hvalue, -, -⟩ :=
      hrest "\u00a0set\t18446744073709551615 move  100\u2003 100 ".toList 3
    have hwords : (words "\u00a0set\t18446744073709551615 move  100\u2003 100 ".toList).take 3 =
        ["set".toList, Nat.toDigits 10 18446744073709551615, "move".toList] := by decide
    have hafter : afterWords "\u00a0set\t18446744073709551615 move  100\u2003 100 ".toList 3 =
        "100\u2003 100".toList := by decide
    rw [hafter] at hline hvalue
    rw [hwords] at hline
    exact hset _ _ _ _ 18446744073709551615 hline hvalue (by decide) (numeral_toDigits _)
  · obtain ⟨hline, hname, -, -⟩ := hrest " rename 3 ".toList 2
    have hwords :
        (words " rename 3 ".toList).take 2 = ["rename".toList, Nat.toDigits 10 3] := by decide
    have hafter : afterWords " rename 3 ".toList 2 = [] := by decide
    rw [hafter] at hline hname
    rw [hwords] at hline
    exact hrename _ _ _ 3 hline hname (numeral_toDigits 3)
  · have hwords : words "show 18446744073709551616".toList =
        "show".toList :: Nat.toDigits 10 wordLimit :: [] := by decide
    exact hlarge _ _ _ [] wordLimit hwords (by decide) (numeral_toDigits _) le_rfl
  · exact hindex _ (.showRule 7) 7 (by decide) rfl

end Shell
end WindowRules
