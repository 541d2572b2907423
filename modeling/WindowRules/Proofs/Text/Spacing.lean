import WindowRules.Proofs.Text.Words

/-!
# Words and the rest of a line

A line is cut in two ways.  `words` gives all its words; `afterWords` skips some words and gives
what is left, with the blanks inside it as they are.  Here the two are compared through a third
notion, which is about neither: `Spaced ws rest line` says that the line is written as some words
and a rest, with blanks between them and around them.

* `Spaced.words_eq`, `Spaced.afterWords_eq`: both ways of cutting find the words and the rest.
* `spaced_afterWords`: and every line is written so, with as many words in front as one likes, up to
  all.
* `words_afterWords`: so the words of what is left are the words that were not skipped.
-/

namespace WindowRules
namespace Text

/-! ## Words and blanks -/

/-- A text without blanks, and not empty. -/
structure Solid (w : List Char) : Prop where
  ne_nil : w ≠ []
  isBlank_eq_false : ∀ c ∈ w, isBlank c = false

/-- A text that stands apart from a word in front of it: it is empty or begins with a blank. -/
def Apart (t : List Char) : Prop := ∀ c ∈ t.head?, isBlank c = true

/-- A text without blanks at its ends. -/
structure Trimmed (s : List Char) : Prop where
  head : ∀ c ∈ s.head?, isBlank c = false
  last : ∀ c ∈ s.getLast?, isBlank c = false

theorem words_cons_of_isBlank {c : Char} (hc : isBlank c = true) (s : List Char) :
    words (c :: s) = words s := by
  rw [words.eq_def]
  exact if_pos hc

theorem AllBlank.words_append {g : List Char} (hg : AllBlank g) (s : List Char) :
    words (g ++ s) = words s := by
  induction g with
  | nil => rfl
  | cons c g ih =>
    obtain ⟨hc, hg⟩ := List.forall_mem_cons.mp hg
    rw [List.cons_append, words_cons_of_isBlank hc, ih hg]

theorem AllBlank.words_eq_nil {g : List Char} (hg : AllBlank g) : words g = [] := by
  rw [← List.append_nil g, hg.words_append, words_nil]

/-- A word in front of a text that stands apart from it is the first word. -/
theorem Solid.words_append {w t : List Char} (hw : Solid w) (ht : Apart t) :
    words (w ++ t) = w :: words t := by
  obtain ⟨hne, hchars⟩ := hw
  induction w with
  | nil => exact absurd rfl hne
  | cons c cs ih =>
    obtain ⟨hc, hcs⟩ := List.forall_mem_cons.mp hchars
    rw [List.cons_append, words.eq_def]
    dsimp only
    rw [if_neg (Bool.eq_false_iff.mp hc)]
    cases cs with
    | nil =>
      cases t with
      | nil => rfl
      | cons d ds => exact if_pos (ht d rfl)
    | cons d ds =>
      have hd : isBlank d = false := hcs d List.mem_cons_self
      rw [List.cons_append]
      dsimp only
      rw [if_neg (Bool.eq_false_iff.mp hd), ← List.cons_append, ih (List.cons_ne_nil d ds) hcs]

theorem Solid.dropWord_append {w t : List Char} (hw : Solid w) (ht : Apart t) :
    dropWord (w ++ t) = trimStart t := by
  have hall : ∀ c ∈ w, (!isBlank c) = true := fun c hc => by rw [hw.isBlank_eq_false c hc]; rfl
  rw [dropWord, List.dropWhile_append_of_pos hall]
  cases t with
  | nil => rfl
  | cons c t => rw [List.dropWhile_cons_of_neg (by rw [ht c rfl]; decide)]

theorem Solid.trimStart_append {w : List Char} (hw : Solid w) (t : List Char) :
    trimStart (w ++ t) = w ++ t := by
  obtain ⟨c, cs, rfl⟩ := List.exists_cons_of_ne_nil hw.ne_nil
  exact List.dropWhile_cons_of_neg (Bool.eq_false_iff.mp (hw.isBlank_eq_false c List.mem_cons_self))

/-- A text is blank, or it has a first word. -/
theorem allBlank_or_word (s : List Char) :
    AllBlank s ∨ ∃ g w t, s = g ++ (w ++ t) ∧ AllBlank g ∧ Solid w ∧ Apart t := by
  induction s with
  | nil => exact .inl fun _ hc => absurd hc List.not_mem_nil
  | cons c s ih =>
    cases hc : isBlank c with
    | true =>
      rcases ih with hs | ⟨g, w, t, rfl, hg, hw, ht⟩
      · exact .inl (List.forall_mem_cons.mpr ⟨hc, hs⟩)
      · exact .inr ⟨c :: g, w, t, rfl, List.forall_mem_cons.mpr ⟨hc, hg⟩, hw, ht⟩
    | false =>
      refine .inr ⟨[], (c :: s).takeWhile (!isBlank ·), (c :: s).dropWhile (!isBlank ·),
        List.takeWhile_append_dropWhile.symm, fun _ hd => absurd hd List.not_mem_nil, ⟨?_, ?_⟩, ?_⟩
      · rw [List.takeWhile_cons_of_pos (by rw [hc]; rfl)]
        exact List.cons_ne_nil _ _
      · intro d hd
        have hword : (!isBlank d) = true := List.mem_takeWhile_imp (p := (!isBlank ·)) hd
        rwa [Bool.not_eq_true'] at hword
      · intro d hd
        have hend : (!isBlank d) = false := apply_head_dropWhile (p := (!isBlank ·)) hd
        rwa [Bool.not_eq_false'] at hend

theorem AllBlank.apart {g : List Char} (hg : AllBlank g) : Apart g :=
  fun c hc => hg c (List.mem_of_mem_head? hc)

theorem Apart.append {t : List Char} (ht : Apart t) {g : List Char} (hg : AllBlank g) :
    Apart (t ++ g) := by
  cases t with
  | nil => exact hg.apart
  | cons c t => exact fun d hd => ht d hd

/-- Blanks behind a text add no word and take none away. -/
theorem AllBlank.append_words {g : List Char} (hg : AllBlank g) (s : List Char) :
    words (s ++ g) = words s := by
  induction hn : s.length using Nat.strong_induction_on generalizing s with
  | h n ih =>
    subst hn
    rcases allBlank_or_word s with hs | ⟨g', w, t, rfl, hg', hw, ht⟩
    · rw [hs.words_append, hg.words_eq_nil, hs.words_eq_nil]
    · have hshorter : t.length < (g' ++ (w ++ t)).length := by
        have hpos := List.length_pos_of_ne_nil hw.ne_nil
        simp only [List.length_append]
        omega
      rw [List.append_assoc, List.append_assoc, hg'.words_append, hg'.words_append,
        hw.words_append (ht.append hg), hw.words_append ht, ih _ hshorter t rfl]

/-! ## Lines of words and a rest -/

/-- `Spaced ws rest line` says that the line is written as the words `ws` and then the rest, with
blanks between them and perhaps around them. -/
inductive Spaced : List (List Char) → List Char → List Char → Prop where
  | rest {g g' : List Char} (hg : AllBlank g) (hg' : AllBlank g') (rest : List Char) :
    Spaced [] rest (g ++ (rest ++ g'))
  | word {g w : List Char} (hg : AllBlank g) (hw : Solid w) {ws : List (List Char)}
    {rest line : List Char} (hline : Apart line) (h : Spaced ws rest line) :
    Spaced (w :: ws) rest (g ++ (w ++ line))

namespace Spaced

variable {ws : List (List Char)} {rest line : List Char}

/-- **The words of a line** are the words in front and those of the rest. -/
theorem words_eq (h : Spaced ws rest line) : words line = ws ++ words rest := by
  induction h with
  | rest hg hg' rest => rw [hg.words_append, hg'.append_words, List.nil_append]
  | word hg hw hline _ ih => rw [hg.words_append, hw.words_append hline, ih, List.cons_append]

/-- **What follows the words in front** is the rest, without the blanks at its ends. -/
theorem afterWords_eq (h : Spaced ws rest line) : afterWords line ws.length = trim rest := by
  induction h with
  | rest hg hg' rest =>
    rw [afterWords, List.length_nil, dropWords, hg.trimStart_append, ← trim, hg'.append_trim]
  | word hg hw hline _ ih =>
    rw [afterWords, hg.trimStart_append, hw.trimStart_append, List.length_cons, dropWords,
      hw.dropWord_append hline]
    exact ih

end Spaced

theorem Trimmed.trim_eq {s : List Char} (h : Trimmed s) : trim s = s := by
  have hstart : trimStart s = s := by
    cases s with
    | nil => rfl
    | cons c s => exact List.dropWhile_cons_of_neg (Bool.eq_false_iff.mp (h.head c rfl))
  rw [trim, hstart, trimEnd_eq_self h.last]

theorem trimmed_afterWords (s : List Char) (k : Nat) : Trimmed (afterWords s k) :=
  ⟨fun _ => isBlank_head?_afterWords, fun _ => isBlank_getLast?_afterWords⟩

theorem AllBlank.afterWords_eq_nil {g : List Char} (hg : AllBlank g) (k : Nat) :
    afterWords g k = [] := by
  by_contra hne
  obtain ⟨c, cs, hcs⟩ := List.exists_cons_of_ne_nil hne
  have hmem : c ∈ afterWords g k := hcs ▸ List.mem_cons_self
  have hhead : c ∈ (afterWords g k).head? := by
    rw [hcs]
    exact Option.mem_some_self c
  have hblank : isBlank c = true := hg c (afterWords_subset g k hmem)
  rw [isBlank_head?_afterWords hhead] at hblank
  exact Bool.false_ne_true hblank

/-- A text is what is left of it at its ends, between blanks. -/
theorem exists_eq_trim (s : List Char) :
    ∃ g g', AllBlank g ∧ AllBlank g' ∧ s = g ++ (trim s ++ g') := by
  refine ⟨s.takeWhile isBlank, (trimStart s).rtakeWhile isBlank, fun c => List.mem_takeWhile_imp,
    fun c => List.mem_rtakeWhile_imp, ?_⟩
  rw [trim, trimEnd_eq_rdropWhile, List.rdropWhile_append_rtakeWhile]
  exact List.takeWhile_append_dropWhile.symm

/-- **Every line is written as its first words and the rest**, for as many words as one likes. -/
theorem spaced_afterWords (line : List Char) (k : Nat) :
    Spaced ((words line).take k) (afterWords line k) line := by
  induction k generalizing line with
  | zero =>
    obtain ⟨g, g', hg, hg', hline⟩ := exists_eq_trim line
    have hspaced : Spaced [] (trim line) (g ++ (trim line ++ g')) := .rest hg hg' (trim line)
    rw [← hline] at hspaced
    exact hspaced
  | succ k ih =>
    rcases allBlank_or_word line with hline | ⟨g, w, t, rfl, hg, hw, ht⟩
    · have hspaced : Spaced [] [] (line ++ ([] ++ [])) := .rest hline (List.forall_mem_nil _) []
      rw [List.append_nil, List.append_nil] at hspaced
      rwa [hline.words_eq_nil, List.take_nil, hline.afterWords_eq_nil]
    · have hwords : words (g ++ (w ++ t)) = w :: words t := by
        rw [hg.words_append, hw.words_append ht]
      have hafter : afterWords (g ++ (w ++ t)) (k + 1) = afterWords t k := by
        rw [afterWords, hg.trimStart_append, hw.trimStart_append, dropWords, hw.dropWord_append ht,
          afterWords]
      rw [hwords, hafter, List.take_succ_cons]
      exact .word hg hw ht (ih t)

/-- **The words of what is left** are those that were not skipped. -/
theorem words_afterWords (line : List Char) (k : Nat) :
    words (afterWords line k) = (words line).drop k := by
  have hboth : (words line).take k ++ words (afterWords line k) =
      (words line).take k ++ (words line).drop k := by
    rw [← (spaced_afterWords line k).words_eq, List.take_append_drop]
  exact List.append_cancel_left hboth

theorem Trimmed.words_eq_nil_iff {s : List Char} (h : Trimmed s) : words s = [] ↔ s = [] := by
  constructor
  · intro hwords
    rcases allBlank_or_word s with hs | ⟨g, w, t, rfl, hg, hw, ht⟩
    · rw [← h.trim_eq]
      exact hs.afterWords_eq_nil 0
    · rw [hg.words_append, hw.words_append ht] at hwords
      exact absurd hwords (List.cons_ne_nil w _)
  · rintro rfl
    exact words_nil

/-- Nothing is left if all words are skipped, and only then. -/
theorem afterWords_eq_nil_iff (line : List Char) (k : Nat) :
    afterWords line k = [] ↔ (words line).length ≤ k := by
  rw [← (trimmed_afterWords line k).words_eq_nil_iff, words_afterWords, List.drop_eq_nil_iff]

/-- `RestAfter line k rest` says that `rest` is the part of the line from its word number `k`,
counted from zero, to its last character that is not blank, and that it is empty if there is no such
word. -/
structure RestAfter (line : List Char) (k : Nat) (rest : List Char) : Prop where
  spaced : Spaced ((words line).take k) rest line
  trimmed : Trimmed rest
  eq_nil_iff : rest = [] ↔ (words line).length ≤ k
  words_eq : words rest = (words line).drop k

theorem restAfter_afterWords (line : List Char) (k : Nat) :
    RestAfter line k (afterWords line k) where
  spaced := spaced_afterWords line k
  trimmed := trimmed_afterWords line k
  eq_nil_iff := afterWords_eq_nil_iff line k
  words_eq := words_afterWords line k

end Text
end WindowRules
