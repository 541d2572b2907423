import WindowRules.Proofs.Config.WellFormed

/-!
# Writing and reading

A config file that the library writes is read as the rules that it was written from, and every text
gives, once read, rules that can be written.  So writing is a normal form of config files: what a
text means can be written out, and writing it out again changes nothing.

The steps follow the reader.  A written line has three tokens, its key, the equals sign and its
value (`tokens_entryLine`), whatever else the value holds: a brace or an equals sign inside a value
is not a token.  A written rule is therefore a block whose body has no brace (`tokens_writeRule`),
the blocks are found one after the other (`bodies_flatMap_ruleTokens`), and the assignments of a
body are the lines that were written (`assignments_flatMap_entryTokens`).
-/

namespace WindowRules
namespace Config

open Text

/-! ## A line -/

/-- The tokens of a written assignment. -/
def entryTokens (e : String × String) : List Token := [.word e.1, .equals, .value e.2]

theorem IsWord.isWordChar {w : String} (h : IsWord w) {c : Char} (hc : c ∈ w.toList) :
    isWordChar c = true := by
  have hchar := h.chars c hc
  simp only [List.mem_cons, List.not_mem_nil, or_false, not_or] at hchar
  exact isWordChar_iff.mpr ⟨hchar.1, hchar.2.1, hchar.2.2.1, hchar.2.2.2.1⟩

theorem PlainValue.isValueChar {v : String} (h : PlainValue v) {c : Char} (hc : c ∈ v.toList) :
    isValueChar c = true := by
  have hchar := h.chars c hc
  simp only [List.mem_cons, List.not_mem_nil, or_false, not_or] at hchar
  exact isValueChar_iff.mpr ⟨hchar.1, hchar.2.2⟩

/-- A plain value behind an equals sign and a blank is scanned as it is. -/
theorem tokenize_plainValue {v : String} (hv : PlainValue v) :
    tokenize ('=' :: ' ' :: v.toList) = [.equals, .value v] := by
  have hpad : (' ' :: v.toList).dropWhile isValuePadding = v.toList := by
    rw [List.dropWhile_cons_of_pos (by decide), List.dropWhile_eq_self_iff]
    intro hlen
    have hhead := hv.head _ (List.head?_eq_some_iff.mpr ⟨_, (List.getElem_cons_drop hlen).symm⟩)
    rw [isValuePadding_eq_false_iff.mpr (by simpa using hhead)]
    exact Bool.false_ne_true
  have htake : v.toList.takeWhile isValueChar = v.toList :=
    List.takeWhile_eq_self_iff.mpr fun c hc => hv.isValueChar hc
  have hdrop : v.toList.dropWhile isValueChar = [] :=
    List.dropWhile_eq_nil_iff.mpr fun c hc => hv.isValueChar hc
  rw [tokenize_equals, hpad, htake, hdrop, trimEnd_eq_self hv.last, String.ofList_toList,
    tokenize_nil]

/-- A word in front of a blank is scanned as it is. -/
theorem tokenize_word_append {w : String} (hw : IsWord w) (s : List Char) :
    tokenize (w.toList ++ ' ' :: s) = .word w :: tokenize s := by
  obtain ⟨c, cs, hcs⟩ := List.exists_cons_of_ne_nil hw.ne_nil
  have hchars : ∀ d ∈ c :: cs, isWordChar d = true := fun d hd => hw.isWordChar (hcs ▸ hd)
  have hrest : ∀ d ∈ cs, isWordChar d = true := fun d hd => hchars d (List.mem_cons_of_mem c hd)
  rw [hcs, List.cons_append, tokenize_word (hchars c List.mem_cons_self),
    takeWhile_append_cons_of_all hrest (by decide), dropWhile_append_cons_of_all hrest (by decide),
    tokenize_blank (by decide), ← hcs, String.ofList_toList]

/-- A written assignment, without the newline. -/
def entryChars (e : String × String) : List Char :=
  ' ' :: ' ' :: ' ' :: ' ' :: (e.1.toList ++ ' ' :: '=' :: ' ' :: e.2.toList)

theorem toList_entryLine (e : String × String) : (entryLine e).toList = entryChars e ++ ['\n'] := by
  simp [entryLine, entryChars]

/-- A character of a written assignment is a blank, an equals sign, or from the key or the value. -/
theorem notMem_entryChars {e : String × String} {c : Char} (hblank : c ≠ ' ') (hequals : c ≠ '=')
    (hk : c ∉ e.1.toList) (hv : c ∉ e.2.toList) : c ∉ entryChars e := by
  simp [entryChars, hblank, hequals, hk, hv]

theorem IsWord.notMem {w : String} (h : IsWord w) {c : Char}
    (hc : isBlank c = true ∨ c ∈ ['{', '}', '=', '#']) : c ∉ w.toList := by
  intro hmem
  rcases hc with hc | hc
  · exact absurd (hc.symm.trans (h.chars c hmem).1) (by decide)
  · exact (h.chars c hmem).2 hc

/-- **A written line has three tokens.** -/
theorem tokens_entryLine {e : String × String} (hk : IsWord e.1) (hv : PlainValue e.2)
    (s : List Char) : tokens ((entryLine e).toList ++ s) = entryTokens e ++ tokens s := by
  have hnewline : '\n' ∉ entryChars e :=
    notMem_entryChars (by decide) (by decide) (hk.notMem (.inl (by decide)))
      fun hmem => hv.chars _ hmem (by decide)
  have hhash : '#' ∉ entryChars e :=
    notMem_entryChars (by decide) (by decide) (hk.notMem (.inr (by decide)))
      fun hmem => hv.chars _ hmem (by decide)
  rw [toList_entryLine, List.append_assoc, List.singleton_append, tokens_append_newline,
    tokens_eq_tokenize hnewline hhash, entryChars, tokenize_blank (by decide),
    tokenize_blank (by decide), tokenize_blank (by decide), tokenize_blank (by decide),
    tokenize_word_append hk, tokenize_plainValue hv]
  rfl

/-! ## A rule -/

/-- The tokens of a written rule. -/
def ruleTokens (r : Rule) : List Token :=
  .word blockWord :: .openBrace :: ((entries r).flatMap entryTokens ++ [.closeBrace])

theorem tokens_blockHead : tokens "windowrule \x7b".toList = [.word blockWord, .openBrace] := by
  decide +kernel

theorem tokens_blockFoot : tokens "\x7d".toList = [.closeBrace] := by
  decide +kernel

theorem tokens_entryLines {es : List (String × String)}
    (hes : ∀ e ∈ es, IsWord e.1 ∧ PlainValue e.2) (s : List Char) :
    tokens ((String.join (es.map entryLine)).toList ++ s) = es.flatMap entryTokens ++ tokens s := by
  induction es with
  | nil => rfl
  | cons e es ih =>
    have he := hes e List.mem_cons_self
    rw [List.map_cons, String.join_cons, String.toList_append, List.append_assoc,
      tokens_entryLine he.1 he.2, ih fun x hx => hes x (List.mem_cons_of_mem e hx),
      List.flatMap_cons, List.append_assoc]

/-- **A written rule has the tokens of a block**, and its lines have no others. -/
theorem tokens_writeRule {r : Rule} (hr : r.WellFormed) (s : List Char) :
    tokens ((writeRule r).toList ++ s) = ruleTokens r ++ tokens s := by
  have hsplit : (writeRule r).toList ++ s = "windowrule \x7b".toList ++ '\n' ::
      ((String.join ((entries r).map entryLine)).toList ++ ("\x7d".toList ++ '\n' :: s)) := by
    simp [writeRule]
  rw [hsplit, tokens_append_newline, tokens_entryLines fun e => plain_of_mem_entries hr,
    tokens_append_newline, tokens_blockHead, tokens_blockFoot]
  simp [ruleTokens]

/-- **The tokens of a written file are those of its rules.**  The blank line between two rules has
none. -/
theorem tokens_write {rs : Ruleset} (hrs : ∀ r ∈ rs, r.WellFormed) :
    tokens (write rs).toList = rs.flatMap ruleTokens := by
  induction rs with
  | nil => rw [write, List.map_nil, String.intercalate_nil, String.toList_empty, tokens_nil,
      List.flatMap_nil]
  | cons r rs ih =>
    have hr := hrs r List.mem_cons_self
    cases rs with
    | nil =>
      rw [write, List.map_cons, List.map_nil, String.intercalate_singleton,
        ← List.append_nil (writeRule r).toList, tokens_writeRule hr, tokens_nil,
        List.flatMap_cons, List.flatMap_nil]
    | cons q rs =>
      have hblank (s : List Char) : tokens ("\n".toList ++ s) = tokens s :=
        (tokens_append_newline [] s).trans (by rw [tokens_nil, List.nil_append])
      have hrest := ih fun x hx => hrs x (List.mem_cons_of_mem r hx)
      rw [write, List.map_cons] at hrest
      rw [write, List.map_cons, List.map_cons, String.intercalate_cons_cons, String.toList_append,
        String.toList_append, List.append_assoc, tokens_writeRule hr, hblank, hrest]
      exact List.flatMap_cons.symm

/-! ## What the written rules read as -/

theorem balanced_flatMap_entryTokens (es : List (String × String)) :
    Balanced (es.flatMap entryTokens) := by
  refine balanced_of_forall fun t ht => ?_
  obtain ⟨e, -, ht⟩ := List.mem_flatMap.mp ht
  simp only [entryTokens, List.mem_cons, List.not_mem_nil, or_false] at ht
  rcases ht with rfl | rfl | rfl <;> exact ⟨nofun, nofun⟩

/-- **The blocks of a written file are its rules.** -/
theorem bodies_flatMap_ruleTokens (rs : Ruleset) :
    bodies (rs.flatMap ruleTokens) = rs.map fun r => (entries r).flatMap entryTokens := by
  induction rs with
  | nil => exact bodies_nil
  | cons r rs ih =>
    rw [List.flatMap_cons, ruleTokens, List.cons_append, List.cons_append, List.append_assoc,
      List.singleton_append, bodies_block (balanced_flatMap_entryTokens _), ih, List.map_cons]

/-- **The assignments of a written rule are its lines.** -/
theorem assignments_flatMap_entryTokens (es : List (String × String)) :
    assignments 0 (es.flatMap entryTokens) = es := by
  induction es with
  | nil => rw [List.flatMap_nil, assignments]
  | cons e es ih =>
    rw [List.flatMap_cons, entryTokens, List.cons_append, List.cons_append, List.cons_append,
      List.nil_append, assignments, if_pos rfl, ih]

theorem readBody_flatMap_entryTokens {r : Rule} (hr : r.WellFormed) :
    readBody ((entries r).flatMap entryTokens) = r := by
  rw [readBody, assignments_flatMap_entryTokens, assignAll_entries (ofKey_of_mem_extras hr)]

theorem readTokens_flatMap_ruleTokens {rs : Ruleset} (hrs : ∀ r ∈ rs, r.WellFormed) :
    readTokens (rs.flatMap ruleTokens) = rs := by
  rw [readTokens_eq_map_bodies, bodies_flatMap_ruleTokens, List.map_map]
  refine (List.map_congr_left fun r hr => ?_).trans (List.map_id' rs)
  exact readBody_flatMap_entryTokens (hrs r hr)

/-! ## The round trip -/

theorem readTokens_tokens_write {rs : Ruleset} (hrs : ∀ r ∈ rs, r.WellFormed) :
    readTokens (tokens (write rs).toList) = rs := by
  rw [tokens_write hrs, readTokens_flatMap_ruleTokens hrs]

/-- **What is written is read again.**  A file written from well-formed rules is read as these
rules:  in their order, with absent fields absent and empty ones empty, toggles off where they were
off, and the extras in their order, repeated keys included. -/
theorem read_write (rs : Ruleset) (hrs : ∀ r ∈ rs, r.WellFormed) : read (write rs) = rs :=
  readTokens_tokens_write hrs

/-- Rules with the texts that come closest to being something else: an open brace, an equals sign
and a carriage return in values, a value that starts with a wide space, empty values, and extras
with the key that starts a block, with one key twice, and with a number for a key. -/
def awkwardRules : Ruleset :=
  [{ name := some "", criteria := { windowClass := some "^a\x7b=b$", title := some "" },
     actions := { size := some "\u3000wide", float := some false },
     extras := [("windowrule", "\x7b"), ("k", "= a\rb"), ("k", "= a\rb"), ("k", ""), ("1", "1")] },
   {}, { actions := { center := some true } }, {}]

theorem read_write_awkwardRules :
    (∀ r ∈ awkwardRules, r.WellFormed) ∧ read (write awkwardRules) = awkwardRules := by
  have hrs : ∀ r ∈ awkwardRules, r.WellFormed := by
    decide +kernel
  exact ⟨hrs, read_write awkwardRules hrs⟩

/-! ## Normal form -/

/-- **Well-formed rules are those that a file can hold, and writing them is a normal form.**  The
rules of every text are well-formed, and well-formed rules are those of some text; what a text means
survives being written, and what was written once is written the same again. -/
theorem exists_read_iff_and_normal_form :
    (∀ rs : Ruleset, (∃ s, read s = rs) ↔ ∀ r ∈ rs, r.WellFormed) ∧
      ∀ s, read (write (read s)) = read s ∧ write (read (write (read s))) = write (read s) := by
  refine ⟨fun rs => ⟨?_, fun hrs => ⟨write rs, readTokens_tokens_write hrs⟩⟩, fun s => ?_⟩
  · rintro ⟨s, rfl⟩ r hr
    exact wellFormed_of_mem_read hr
  · have hs : read (write (read s)) = read s :=
      readTokens_tokens_write fun r hr => wellFormed_of_mem_read hr
    exact ⟨hs, by rw [hs]⟩

end Config
end WindowRules
