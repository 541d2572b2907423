import WindowRules.Proofs.Config.Blocks

/-!
# Layout

A config file may be laid out anew: its lines may be moved to the right, blanks and comments may be
put behind them, and blank lines and lines with nothing but a comment may be put between them.  None
of this changes the rules of the file (`read_of_relaid`).

A line is here what stands between two newlines, so a carriage return belongs to the line that it
ends.  The other view of lines, in which a carriage return before a newline is part of the end of
the line, is covered as well: what is put behind a line may come before the carriage return or after
it.

The proof is about single lines, since the tokens of a text are those of its lines
(`tokens_eq_flatMap_splitOn`).  What it says of a line is in no case special: a line that ends in an
equals sign has an empty value, and blanks behind the sign do not fill it; and in a line that has a
comment, all that is put behind the line goes into the comment.
-/

namespace WindowRules
namespace Config

open Text

/-! ## Between newlines -/

/-- What stands between two newlines holds none. -/
theorem notMem_of_mem_splitOn {s l : List Char} (h : l ∈ s.splitOn '\n') : '\n' ∉ l := by
  induction s generalizing l with
  | nil =>
    have hl : l = [] := List.mem_singleton.mp h
    rw [hl]
    exact List.not_mem_nil
  | cons c cs ih =>
    rw [List.splitOn_eq_splitOnP, List.splitOnP_cons_eq_if_modifyHead,
      ← List.splitOn_eq_splitOnP] at h
    by_cases hc : c = '\n'
    · rw [if_pos (beq_iff_eq.mpr hc)] at h
      rcases List.mem_cons.mp h with rfl | h
      · exact List.not_mem_nil
      · exact ih h
    · rw [if_neg (by simpa using hc)] at h
      obtain ⟨m, ms, hms⟩ := List.exists_cons_of_ne_nil (List.splitOn_ne_nil '\n' cs)
      rw [hms] at ih h
      rcases List.mem_cons.mp h with rfl | h
      · rw [List.mem_cons, not_or]
        exact ⟨Ne.symm hc, ih List.mem_cons_self⟩
      · exact ih (List.mem_cons_of_mem m h)

theorem tokens_unlines {ls : List (List Char)} (h : ∀ l ∈ ls, '\n' ∉ l) :
    tokens (unlines ls) = ls.flatMap lineTokens := by
  induction ls with
  | nil => rw [unlines_nil, tokens_nil, List.flatMap_nil]
  | cons l ls ih =>
    have hl : tokens l = lineTokens l := tokens_of_notMem (h l List.mem_cons_self)
    cases ls with
    | nil => rw [unlines_singleton, hl, List.flatMap_cons, List.flatMap_nil, List.append_nil]
    | cons m ls =>
      rw [unlines_cons_cons, tokens_append_newline, hl,
        ih fun k hk => h k (List.mem_cons_of_mem l hk)]
      exact List.flatMap_cons.symm

/-- **The tokens of a text are those between its newlines.** -/
theorem tokens_eq_flatMap_splitOn (s : List Char) :
    tokens s = (s.splitOn '\n').flatMap lineTokens := by
  calc tokens s
      = tokens (unlines (s.splitOn '\n')) := by rw [unlines, List.intercalate_splitOn]
    _ = (s.splitOn '\n').flatMap lineTokens := tokens_unlines fun _ => notMem_of_mem_splitOn

/-! ## One line -/

/-- `Dressed l m` says that the line `m` is the line `l` with blanks in front of it, blanks behind
it, and perhaps a comment behind these.  A carriage return at the end of `l` may be taken as no part
of it. -/
inductive Dressed : List Char → List Char → Prop where
  | blanks (l : List Char) {p q : List Char} (hp : AllBlank p) (hq : AllBlank q) :
      Dressed l (p ++ l ++ q)
  | comment (l : List Char) {p q : List Char} (hp : AllBlank p) (hq : AllBlank q)
      (text : List Char) :
    Dressed l (p ++ l ++ q ++ '#' :: text)
  | carriageReturn {l m : List Char} (h : Dressed l m) : Dressed (l ++ ['\r']) m

theorem lineTokens_blanks_append {p : List Char} (hp : AllBlank p) (l : List Char) :
    lineTokens (p ++ l) = lineTokens l := by
  induction p with
  | nil => rfl
  | cons c p ih =>
    rw [AllBlank, List.forall_mem_cons] at hp
    have hhash : (c != '#') = true := bne_iff_ne.mpr (ne_of_isBlank hp.1 (by decide))
    calc lineTokens (c :: p ++ l)
        = tokenize (c :: (p ++ l).takeWhile (· != '#')) := by
          rw [lineTokens, List.cons_append, List.takeWhile_cons_of_pos (p := (· != '#')) hhash]
      _ = lineTokens (p ++ l) := tokenize_blank hp.1 _
      _ = lineTokens l := ih hp.2

theorem lineTokens_append_blanks {q : List Char} (hq : AllBlank q) (l : List Char) :
    lineTokens (l ++ q) = lineTokens l := by
  induction q generalizing l with
  | nil => rw [List.append_nil]
  | cons c q ih =>
    rw [AllBlank, List.forall_mem_cons] at hq
    rw [List.append_cons, ih hq.2, lineTokens_concat hq.1]

/-- What stands behind a number sign adds nothing to a line, whether the number sign starts a
comment or stands in one. -/
theorem lineTokens_append_hash (l text : List Char) :
    lineTokens (l ++ '#' :: text) = lineTokens l := by
  rw [lineTokens, takeWhile_append_cons (by decide), lineTokens]

/-- **AllBlank around a line and a comment behind it change none of its tokens.** -/
theorem Dressed.lineTokens_eq {l m : List Char} (h : Dressed l m) :
    lineTokens m = lineTokens l := by
  induction h with
  | blanks l hp hq => rw [lineTokens_append_blanks hq, lineTokens_blanks_append hp]
  | comment l hp hq text =>
    rw [lineTokens_append_hash, lineTokens_append_blanks hq, lineTokens_blanks_append hp]
  | carriageReturn _ ih => rw [ih, lineTokens_concat (by decide)]

/-! ## All lines -/

/-- `RelaidLines ls ms` says that the lines `ms` are the lines `ls`, each perhaps dressed, with
further lines put in anywhere that hold blanks and comments only. -/
inductive RelaidLines : List (List Char) → List (List Char) → Prop where
  | nil : RelaidLines [] []
  | line {l m : List Char} {ls ms : List (List Char)} (hline : Dressed l m)
      (h : RelaidLines ls ms) :
    RelaidLines (l :: ls) (m :: ms)
  | insert {m : List Char} {ls ms : List (List Char)} (hline : Dressed [] m)
      (h : RelaidLines ls ms) :
    RelaidLines ls (m :: ms)

/-- `Relaid s t` says that the text `t` is the text `s` laid out anew. -/
def Relaid (s t : String) : Prop := RelaidLines (s.toList.splitOn '\n') (t.toList.splitOn '\n')

theorem RelaidLines.flatMap_lineTokens {ls ms : List (List Char)} (h : RelaidLines ls ms) :
    ms.flatMap lineTokens = ls.flatMap lineTokens := by
  induction h with
  | nil => rfl
  | line hline _ ih => rw [List.flatMap_cons, List.flatMap_cons, hline.lineTokens_eq, ih]
  | insert hline _ ih =>
    rw [List.flatMap_cons, hline.lineTokens_eq, lineTokens_nil, List.nil_append, ih]

/-- **Layout and comments do not matter.**  A text laid out anew has the rules of the text that it
was. -/
theorem read_of_relaid {s t : String} (h : Relaid s t) : read t = read s := by
  have htokens : tokens t.toList = tokens s.toList := by
    rw [tokens_eq_flatMap_splitOn, tokens_eq_flatMap_splitOn, h.flatMap_lineTokens]
  rw [read_eq_map_bodies, read_eq_map_bodies, htokens]

/-- A rule with one line that ends in an equals sign, one that has a comment and one that ends in a
carriage return. -/
def bareText : String := "windowrule \x7b\nname =\nfloat = yes # \x7d\nsize = 1 2\r\n\x7d"

/-- The same rule with comments that hold braces and number signs, with wide blanks, and with
carriage returns at ends of lines. -/
def dressedText : String :=
  "# \x7b\n\u3000windowrule \x7b\r\n \nname = \u2003\r# = x\nfloat = yes # \x7d # \x7b\n" ++
    "\tsize = 1 2 # 3\r\n\x7d\r"

theorem read_of_relaid_bareText :
    Relaid bareText dressedText ∧ read dressedText = read bareText := by
  have hbare : bareText.toList.splitOn '\n' = ["windowrule \x7b".toList, "name =".toList,
      "float = yes # \x7d".toList, "size = 1 2".toList ++ ['\r'], "\x7d".toList] := by
    decide +kernel
  have hdressed : dressedText.toList.splitOn '\n' = [[] ++ [] ++ [] ++ '#' :: " \x7b".toList,
      ['\u3000'] ++ "windowrule \x7b".toList ++ ['\r'], [] ++ [] ++ [' '],
      [] ++ "name =".toList ++ [' ', '\u2003', '\r'] ++ '#' :: " = x".toList,
      [] ++ "float = yes # \x7d".toList ++ [' '] ++ '#' :: " \x7b".toList,
      ['\t'] ++ "size = 1 2".toList ++ [' '] ++ '#' :: " 3\r".toList,
      [] ++ "\x7d".toList ++ ['\r']] := by
    decide +kernel
  have h : Relaid bareText dressedText := by
    rw [Relaid, hbare, hdressed]
    refine .insert (.comment [] (by decide) (by decide) _) ?_
    refine .line (.blanks _ (by decide) (by decide)) ?_
    refine .insert (.blanks [] (by decide) (by decide)) ?_
    refine .line (.comment _ (by decide) (by decide) _) ?_
    refine .line (.comment _ (by decide) (by decide) _) ?_
    refine .line (.carriageReturn (.comment _ (by decide) (by decide) _)) ?_
    exact .line (.blanks _ (by decide) (by decide)) .nil
  exact ⟨h, read_of_relaid h⟩

end Config
end WindowRules
