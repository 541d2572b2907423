import WindowRules.Config.Token
import WindowRules.Proofs.Text.Trimming

/-!
# Tokens, line by line

The tokens of a text are those of its lines, one line after the other: no word and no value
crosses a newline, and a comment ends where its line ends.  So a text can be cut at any newline
(`tokens_append_newline`), and what its two parts mean to the tokenizer does not depend on each
other.

## Carriage returns

Lines end in `\n` or in `\r\n`, and the text before a cut may end in a carriage return of its own,
which the cut turns into a part of the line's end.  This costs no token: a carriage return is a
blank, and a blank at the end of a line is between tokens or trimmed from a value
(`lineTokens_concat`).

* `tokenize_induction`: induction along the tokens of a text, one case for each kind of token.
* `tokens_eq_flatMap_lineTokens`: the tokens of a text, line by line.
* `tokens_append_newline`: cutting at a newline.
-/

namespace WindowRules
namespace Config

open Text

/-! ## One token at a time -/

@[simp] theorem tokenize_nil : tokenize [] = [] := by
  rw [tokenize]

theorem tokenize_openBrace (cs : List Char) :
    tokenize ('{' :: cs) = .openBrace :: tokenize cs := by
  rw [tokenize, if_pos rfl]

theorem tokenize_closeBrace (cs : List Char) :
    tokenize ('}' :: cs) = .closeBrace :: tokenize cs := by
  rw [tokenize, if_neg (by decide), if_pos rfl]

theorem tokenize_equals (cs : List Char) :
    tokenize ('=' :: cs) =
      .equals ::
        .value (.ofList (trimEnd ((cs.dropWhile isValuePadding).takeWhile isValueChar))) ::
          tokenize ((cs.dropWhile isValuePadding).dropWhile isValueChar) := by
  rw [tokenize, if_neg (by decide), if_neg (by decide), if_pos rfl]

/-- No blank is a brace or an equals sign. -/
theorem ne_of_isBlank {c d : Char} (hc : isBlank c = true) (hd : isBlank d = false) : c ≠ d := by
  rintro rfl
  rw [hc] at hd
  exact absurd hd (by decide)

theorem tokenize_blank {c : Char} (hc : isBlank c = true) (cs : List Char) :
    tokenize (c :: cs) = tokenize cs := by
  rw [tokenize, if_neg (ne_of_isBlank hc (by decide)), if_neg (ne_of_isBlank hc (by decide)),
    if_neg (ne_of_isBlank hc (by decide)), if_pos hc]

theorem isWordChar_iff {c : Char} :
    isWordChar c = true ↔ isBlank c = false ∧ c ≠ '{' ∧ c ≠ '}' ∧ c ≠ '=' := by
  simp [isWordChar, and_assoc]

theorem isValueChar_iff {c : Char} : isValueChar c = true ↔ c ≠ '\n' ∧ c ≠ '}' := by
  simp [isValueChar]

theorem isValuePadding_eq_false_iff {c : Char} :
    isValuePadding c = false ↔ c ≠ ' ' ∧ c ≠ '\t' := by
  simp [isValuePadding]

theorem tokenize_word {c : Char} (hc : isWordChar c = true) (cs : List Char) :
    tokenize (c :: cs) =
      .word (.ofList (c :: cs.takeWhile isWordChar)) :: tokenize (cs.dropWhile isWordChar) := by
  obtain ⟨hblank, hopen, hclose, hequals⟩ := isWordChar_iff.mp hc
  rw [tokenize, if_neg hopen, if_neg hclose, if_neg hequals, if_neg (by simp [hblank])]

/-- Induction along the tokens of a text: a step goes from what is left after a token, or after a
blank between tokens, to the text that has them in front. -/
@[elab_as_elim]
theorem tokenize_induction {P : List Char → Prop} (nil : P [])
    (openBrace : ∀ cs, P cs → P ('{' :: cs)) (closeBrace : ∀ cs, P cs → P ('}' :: cs))
    (equals : ∀ cs, P ((cs.dropWhile isValuePadding).dropWhile isValueChar) → P ('=' :: cs))
    (blank : ∀ c cs, isBlank c = true → P cs → P (c :: cs))
    (word : ∀ c cs, isWordChar c = true → P (cs.dropWhile isWordChar) → P (c :: cs))
    (s : List Char) : P s := by
  induction s using tokenize.induct with
  | case1 => exact nil
  | case2 cs ih => exact openBrace cs ih
  | case3 cs _ ih => exact closeBrace cs ih
  | case4 cs _ _ _ ih => exact equals cs ih
  | case5 c cs _ _ _ hc ih => exact blank c cs hc ih
  | case6 c cs hopen hclose hequals hc ih =>
    exact word c cs (isWordChar_iff.mpr ⟨Bool.eq_false_iff.mpr hc, hopen, hclose, hequals⟩) ih

/-! ## Cutting at a newline -/

/-- **A newline or a closing brace ends every token.** -/
theorem tokenize_append_cons {c : Char} (hc : isValueChar c = false) (a b : List Char) :
    tokenize (a ++ c :: b) = tokenize a ++ tokenize (c :: b) := by
  have hends : c = '\n' ∨ c = '}' := by
    by_contra h
    rw [not_or] at h
    rw [isValueChar_iff.mpr h] at hc
    exact absurd hc (by decide)
  have hpad : isValuePadding c = false := by
    rcases hends with rfl | rfl <;> decide
  have hword : isWordChar c = false := by
    rcases hends with rfl | rfl <;> decide
  induction a using tokenize_induction with
  | nil => rw [List.nil_append, tokenize_nil, List.nil_append]
  | openBrace cs ih =>
    rw [List.cons_append, tokenize_openBrace, tokenize_openBrace, ih, List.cons_append]
  | closeBrace cs ih =>
    rw [List.cons_append, tokenize_closeBrace, tokenize_closeBrace, ih, List.cons_append]
  | equals cs ih =>
    -- the padding before a value ends here at the latest, and so does the value
    rw [List.cons_append, tokenize_equals, tokenize_equals, dropWhile_append_cons hpad,
      takeWhile_append_cons hc, dropWhile_append_cons hc, ih]
    rfl
  | blank d cs hd ih => rw [List.cons_append, tokenize_blank hd, tokenize_blank hd, ih]
  | word d cs hd ih =>
    rw [List.cons_append, tokenize_word hd, tokenize_word hd, takeWhile_append_cons hword,
      dropWhile_append_cons hword, ih]
    rfl

/-- **No token crosses a newline.** -/
theorem tokenize_append_newline (a b : List Char) :
    tokenize (a ++ '\n' :: b) = tokenize a ++ tokenize b := by
  rw [tokenize_append_cons (by decide), tokenize_blank (by decide)]

/-- A blank at the end of a text is no part of a token. -/
theorem tokenize_concat {c : Char} (hc : isBlank c = true) (s : List Char) :
    tokenize (s ++ [c]) = tokenize s := by
  induction s using tokenize_induction with
  | nil => rw [List.nil_append, tokenize_blank hc]
  | openBrace cs ih => rw [List.cons_append, tokenize_openBrace, tokenize_openBrace, ih]
  | closeBrace cs ih => rw [List.cons_append, tokenize_closeBrace, tokenize_closeBrace, ih]
  | equals cs ih =>
    rw [List.cons_append, tokenize_equals, tokenize_equals]
    rcases dropWhile_concat isValuePadding cs c with hpad | ⟨hnil, hpad⟩
    · rw [hpad, trimEnd_takeWhile_concat hc]
      rcases dropWhile_concat isValueChar (cs.dropWhile isValuePadding) c with hval | ⟨hnil, hval⟩
      · rw [hval, ih]
      · rw [hval, hnil]
    · rw [hpad, hnil]
  | blank d cs hd ih => rw [List.cons_append, tokenize_blank hd, tokenize_blank hd, ih]
  | word d cs hd ih =>
    have hword : isWordChar c = false := by
      rw [Bool.eq_false_iff, Ne, isWordChar_iff, hc]
      exact fun h => absurd h.1 (by decide)
    rw [List.cons_append, tokenize_word hd, tokenize_word hd, takeWhile_append_cons hword,
      dropWhile_append_cons hword, ih]

/-! ## Lines -/

/-- The tokens of one line. -/
def lineTokens (l : List Char) : List Token := tokenize (l.takeWhile (· != '#'))

/-- The tokens of a text. -/
def tokens (s : List Char) : List Token := tokenize (stripComments s)

@[simp] theorem lineTokens_nil : lineTokens [] = [] := tokenize_nil

/-- A line that has no comment. -/
theorem lineTokens_eq_tokenize {l : List Char} (h : '#' ∉ l) : lineTokens l = tokenize l := by
  rw [lineTokens, List.takeWhile_eq_self_iff.mpr]
  exact fun c hc => bne_iff_ne.mpr (ne_of_mem_of_not_mem hc h)

/-- **A blank at the end of a line is no part of a token**, and neither is one in a comment. -/
theorem lineTokens_concat {c : Char} (hc : isBlank c = true) (l : List Char) :
    lineTokens (l ++ [c]) = lineTokens l := by
  have hhash : (c != '#') = true := bne_iff_ne.mpr (ne_of_isBlank hc (by decide))
  rw [lineTokens, lineTokens, List.takeWhile_append]
  split
  · next h =>
    rw [List.takeWhile_cons_of_pos (p := (· != '#')) hhash, List.takeWhile_nil, tokenize_concat hc,
      (List.takeWhile_prefix _).eq_of_length h]
  · rfl

theorem unlines_cons_cons (l m : List Char) (ls : List (List Char)) :
    unlines (l :: m :: ls) = l ++ '\n' :: unlines (m :: ls) := by
  simp [unlines, List.intercalate]

@[simp] theorem unlines_nil : unlines [] = [] := rfl

@[simp] theorem unlines_singleton (l : List Char) : unlines [l] = l := by
  simp [unlines, List.intercalate]

theorem tokenize_unlines (ls : List (List Char)) : tokenize (unlines ls) = ls.flatMap tokenize := by
  induction ls with
  | nil => rw [unlines_nil, tokenize_nil, List.flatMap_nil]
  | cons l ls ih =>
    cases ls with
    | nil => rw [unlines_singleton, List.flatMap_cons, List.flatMap_nil, List.append_nil]
    | cons m ls =>
      rw [unlines_cons_cons, tokenize_append_newline, ih]
      exact List.flatMap_cons.symm

/-- **The tokens of a text are those of its lines.** -/
theorem tokens_eq_flatMap_lineTokens (s : List Char) : tokens s = (lines s).flatMap lineTokens := by
  rw [tokens, stripComments, tokenize_unlines, List.flatMap_map]
  rfl

/-- Lines with something put in front of the first one. -/
def startLines (p : List Char) : List (List Char) → List (List Char)
  | [] => if p = [] then [] else [p]
  | l :: ls => (p ++ l) :: ls

@[simp] theorem startLines_nil (ls : List (List Char)) : startLines [] ls = ls := by
  cases ls <;> rfl

theorem startLines_startLines (p q : List Char) (ls : List (List Char)) :
    startLines p (startLines q ls) = startLines (p ++ q) ls := by
  cases ls with
  | nil => by_cases hq : q = [] <;> simp [startLines, hq]
  | cons l ls => rw [startLines, startLines, startLines, List.append_assoc]

theorem lines_cons {c : Char} {cs : List Char} (hnewline : c ≠ '\n')
    (hreturn : ∀ ds, c = '\r' → cs ≠ '\n' :: ds) : lines (c :: cs) = startLines [c] (lines cs) := by
  rw [lines.eq_4 c cs hnewline hreturn]
  cases lines cs <;> rfl

theorem flatMap_startLines_nil (p : List Char) :
    (startLines p []).flatMap lineTokens = lineTokens p := by
  by_cases hp : p = [] <;> simp [startLines, hp]

/-- A character that ends no line of a text may still end one of a longer text: it does if it is a
carriage return, the last of the text, and a newline follows. -/
theorem flatMap_startLines_cons {c : Char} {cs b : List Char} (hnewline : c ≠ '\n')
    (hreturn : ∀ ds, c = '\r' → cs ≠ '\n' :: ds)
    (ih : ∀ p, (startLines p (lines (cs ++ '\n' :: b))).flatMap lineTokens =
      (startLines p (lines cs)).flatMap lineTokens ++ (lines b).flatMap lineTokens)
    (p : List Char) :
    (startLines p (lines (c :: cs ++ '\n' :: b))).flatMap lineTokens =
      (startLines p (lines (c :: cs))).flatMap lineTokens ++ (lines b).flatMap lineTokens := by
  by_cases hlast : c = '\r' ∧ cs = []
  · obtain ⟨rfl, rfl⟩ := hlast
    rw [List.cons_append, List.nil_append, lines, lines_cons (by decide) (by simp), lines_nil,
      startLines_startLines, flatMap_startLines_nil, lineTokens_concat (by decide), startLines,
      List.append_nil, List.flatMap_cons]
  · have hreturn' : ∀ ds, c = '\r' → cs ++ '\n' :: b ≠ '\n' :: ds := by
      intro ds hc hds
      cases cs with
      | nil => exact hlast ⟨hc, rfl⟩
      | cons d cs => exact hreturn cs hc (by rw [(List.cons.inj hds).1])
    rw [List.cons_append, lines_cons hnewline hreturn', lines_cons hnewline hreturn,
      startLines_startLines, startLines_startLines, ih]

/-- What the lines of a text give when the first of them has begun before the text does.  The
induction goes through the text, and `p` collects the line that is open. -/
theorem flatMap_startLines_append_newline (p a b : List Char) :
    (startLines p (lines (a ++ '\n' :: b))).flatMap lineTokens =
      (startLines p (lines a)).flatMap lineTokens ++ (lines b).flatMap lineTokens := by
  induction a using lines.induct generalizing p with
  | case1 =>
    rw [List.nil_append, lines_newline, lines_nil, flatMap_startLines_nil, startLines,
      List.append_nil, List.flatMap_cons]
  | case2 cs ih =>
    have h := ih []
    rw [startLines_nil, startLines_nil] at h
    rw [List.cons_append, lines_newline, lines_newline, startLines, startLines, List.flatMap_cons,
      List.flatMap_cons, h, List.append_assoc]
  | case3 cs ih =>
    have h := ih []
    rw [startLines_nil, startLines_nil] at h
    rw [List.cons_append, List.cons_append, lines, lines, startLines, startLines,
      List.flatMap_cons, List.flatMap_cons, h, List.append_assoc]
  | case4 c cs hnewline hreturn _ ih => exact flatMap_startLines_cons hnewline hreturn ih p
  | case5 c cs hnewline hreturn _ _ _ ih => exact flatMap_startLines_cons hnewline hreturn ih p

/-- **A text can be cut at any newline.** -/
theorem tokens_append_newline (a b : List Char) :
    tokens (a ++ '\n' :: b) = tokens a ++ tokens b := by
  have h := flatMap_startLines_append_newline [] a b
  rw [startLines_nil, startLines_nil] at h
  rw [tokens_eq_flatMap_lineTokens, tokens_eq_flatMap_lineTokens, tokens_eq_flatMap_lineTokens, h]

@[simp] theorem tokens_nil : tokens [] = [] := tokenize_nil

/-- A text without newlines is one line. -/
theorem lines_of_notMem {l : List Char} (hne : l ≠ []) (h : '\n' ∉ l) : lines l = [l] := by
  induction l with
  | nil => exact absurd rfl hne
  | cons c cs ih =>
    rw [List.mem_cons, not_or] at h
    have hreturn : ∀ ds, c = '\r' → cs ≠ '\n' :: ds := by
      rintro ds - rfl
      exact h.2 List.mem_cons_self
    rw [lines_cons (Ne.symm h.1) hreturn]
    cases cs with
    | nil => rfl
    | cons d ds => rw [ih (List.cons_ne_nil d ds) h.2, startLines, List.singleton_append]

/-- The tokens of a text without newlines are those of one line. -/
theorem tokens_of_notMem {l : List Char} (h : '\n' ∉ l) : tokens l = lineTokens l := by
  cases l with
  | nil => rfl
  | cons c cs =>
    rw [tokens_eq_flatMap_lineTokens, lines_of_notMem (List.cons_ne_nil c cs) h, List.flatMap_cons,
      List.flatMap_nil, List.append_nil]

/-- A text without newlines and without comments is tokenized as it is. -/
theorem tokens_eq_tokenize {l : List Char} (hnewline : '\n' ∉ l) (hhash : '#' ∉ l) :
    tokens l = tokenize l := by
  rw [tokens_of_notMem hnewline, lineTokens_eq_tokenize hhash]

end Config
end WindowRules
