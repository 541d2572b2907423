import Mathlib.Data.List.Induction
import WindowRules.Proofs.Config.RoundTrip

/-!
# Rules kept as comments

A rule that is out of use stays in its file as a comment: its block is cut into lines and each line
gets a mark in front.  Two things have to hold of this, and they need different things of the rule.

*Nothing leaks.*  Whatever a rule holds, line ends and number signs included, its comment has no
token (`tokens_writeComment_append`): the lines that the block is cut into hold no newline, so none
of them goes on behind its mark.

*Nothing is lost.*  The comment of a well-formed rule is its block with the marks, and taking the
marks away from a text (`uncomment`) gives the block back (`uncommentChars_writeComment_append`).
Here the rule must be well-formed, since cutting into lines drops a carriage return before a line
end.  The other lines of a text have no marks to lose (`uncommentChars_write_append`).

Texts of both kinds are made of whole lines (`closeLines`), and such texts are put one behind the
other; so the statements are about a text with anything behind it.
-/

namespace WindowRules
namespace Config

open Text

/-! ## Whole lines -/

/-- Lines, each with a newline at its end. -/
def closeLines (ls : List (List Char)) : List Char := ls.flatMap (· ++ ['\n'])

theorem closeLines_cons_append (l : List Char) (ls : List (List Char)) (s : List Char) :
    closeLines (l :: ls) ++ s = l ++ '\n' :: (closeLines ls ++ s) := by
  simp [closeLines]

/-- A line holds no newline. -/
theorem notMem_of_mem_lines {s l : List Char} (h : l ∈ lines s) : '\n' ∉ l := by
  induction s using lines.induct generalizing l with
  | case1 => exact absurd h List.not_mem_nil
  | case2 cs ih =>
    rw [lines_newline] at h
    rcases List.mem_cons.mp h with rfl | h
    · exact List.not_mem_nil
    · exact ih h
  | case3 cs ih =>
    rw [lines] at h
    rcases List.mem_cons.mp h with rfl | h
    · exact List.not_mem_nil
    · exact ih h
  | case4 c cs hnewline hreturn hnil ih =>
    rw [lines_cons hnewline hreturn, hnil] at h
    rw [List.mem_singleton.mp h, List.mem_singleton]
    exact Ne.symm hnewline
  | case5 c cs hnewline hreturn m ls hlines ih =>
    rw [hlines] at ih
    rw [lines_cons hnewline hreturn, hlines, startLines, List.singleton_append] at h
    rcases List.mem_cons.mp h with rfl | h
    · rw [List.mem_cons, not_or]
      exact ⟨Ne.symm hnewline, ih List.mem_cons_self⟩
    · exact ih (List.mem_cons_of_mem m h)

/-- A line that does not end in a carriage return is read as it was closed. -/
theorem lines_append_newline {l : List Char} (hnewline : '\n' ∉ l) (hreturn : '\r' ∉ l.getLast?)
    (s : List Char) : lines (l ++ '\n' :: s) = l :: lines s := by
  induction l with
  | nil => exact lines_newline s
  | cons c cs ih =>
    rw [List.mem_cons, not_or] at hnewline
    have hrest : '\r' ∉ cs.getLast? := by
      cases cs with
      | nil => exact nofun
      | cons d ds => rwa [List.getLast?_cons_cons] at hreturn
    have hcut : ∀ ds, c = '\r' → cs ++ '\n' :: s ≠ '\n' :: ds := by
      rintro ds rfl hds
      cases cs with
      | nil => exact hreturn rfl
      | cons d es => exact hnewline.2 (by rw [(List.cons.inj hds).1]; exact List.mem_cons_self)
    rw [List.cons_append, lines_cons (Ne.symm hnewline.1) hcut, ih hnewline.2 hrest]
    rfl

theorem lines_closeLines {ls : List (List Char)}
    (h : ∀ l ∈ ls, '\n' ∉ l ∧ '\r' ∉ l.getLast?) : lines (closeLines ls) = ls := by
  induction ls with
  | nil => rfl
  | cons l ls ih =>
    have hl := h l List.mem_cons_self
    rw [← List.append_nil (closeLines (l :: ls)), closeLines_cons_append,
      lines_append_newline hl.1 hl.2, List.append_nil,
      ih fun m hm => h m (List.mem_cons_of_mem l hm)]

theorem tokens_closeLines_append {ls : List (List Char)} (h : ∀ l ∈ ls, '\n' ∉ l) (s : List Char) :
    tokens (closeLines ls ++ s) = ls.flatMap lineTokens ++ tokens s := by
  induction ls with
  | nil => rfl
  | cons l ls ih =>
    rw [closeLines_cons_append, tokens_append_newline, tokens_of_notMem (h l List.mem_cons_self),
      ih fun m hm => h m (List.mem_cons_of_mem l hm), List.flatMap_cons, List.append_assoc]

/-! ## Putting marks in front -/

/-- A line as a comment. -/
def commentLine (l : List Char) : List Char := '#' :: ' ' :: l

theorem lineTokens_commentLine (l : List Char) : lineTokens (commentLine l) = [] := by
  rw [lineTokens, commentLine, List.takeWhile_cons_of_neg (by decide), tokenize_nil]

theorem notMem_commentLine {l : List Char} (h : '\n' ∉ l) : '\n' ∉ commentLine l := by
  simp [commentLine, h]

theorem toList_writeComment (r : Rule) : (writeComment r).toList =
    closeLines ((lines (writeRule r).toList).map commentLine) := by
  simp [writeComment, closeLines, commentLine, List.flatMap_map]

theorem notMem_of_mem_map_commentLine {s l : List Char} (h : l ∈ (lines s).map commentLine) :
    '\n' ∉ l := by
  obtain ⟨m, hm, rfl⟩ := List.mem_map.mp h
  exact notMem_commentLine (notMem_of_mem_lines hm)

/-- **The comment of a rule has no tokens**, whatever the rule holds. -/
theorem tokens_writeComment_append (r : Rule) (s : List Char) :
    tokens ((writeComment r).toList ++ s) = tokens s := by
  rw [toList_writeComment, tokens_closeLines_append fun l => notMem_of_mem_map_commentLine,
    List.flatMap_map, List.flatMap_eq_nil_iff.mpr fun l _ => lineTokens_commentLine l,
    List.nil_append]

/-! ## Taking marks away -/

/-- A line without the mark of a comment, if it has one. -/
def uncommentLine : List Char → List Char
  | '#' :: ' ' :: l => l
  | l => l

/-- A text whose lines have lost their marks. -/
def uncommentChars (s : List Char) : List Char :=
  ['\n'].intercalate ((s.splitOn '\n').map uncommentLine)

/-- A text without the number sign and the blank that lines of it start with. -/
def uncomment (s : String) : String := .ofList (uncommentChars s.toList)

theorem uncommentLine_of_notMem {l : List Char} (h : '#' ∉ l) : uncommentLine l = l := by
  rw [uncommentLine.eq_2]
  rintro m rfl
  exact h List.mem_cons_self

theorem uncommentChars_nil : uncommentChars [] = [] := rfl

theorem uncommentChars_append_newline {l : List Char} (h : '\n' ∉ l) (s : List Char) :
    uncommentChars (l ++ '\n' :: s) = uncommentLine l ++ '\n' :: uncommentChars s := by
  have hsplit : (l ++ '\n' :: s).splitOn '\n' = l :: s.splitOn '\n' := by
    have hother : ∀ c ∈ l, (c == '\n') = false := by
      intro c hc
      rw [beq_eq_false_iff_ne]
      rintro rfl
      exact h hc
    rw [List.splitOn_eq_splitOnP, List.splitOn_eq_splitOnP,
      List.splitOnP_append_cons_of_forall_mem hother _ (by decide)]
  obtain ⟨m, ms, hms⟩ := List.exists_cons_of_ne_nil (List.splitOn_ne_nil '\n' s)
  rw [uncommentChars, hsplit, uncommentChars, hms, List.map_cons, List.map_cons,
    List.intercalate_cons_cons, List.append_assoc]
  rfl

theorem uncommentChars_closeLines_append {ls : List (List Char)} (h : ∀ l ∈ ls, '\n' ∉ l)
    (s : List Char) : uncommentChars (closeLines ls ++ s) =
      closeLines (ls.map uncommentLine) ++ uncommentChars s := by
  induction ls with
  | nil => rfl
  | cons l ls ih =>
    rw [closeLines_cons_append, uncommentChars_append_newline (h l List.mem_cons_self),
      ih fun m hm => h m (List.mem_cons_of_mem l hm), List.map_cons, closeLines_cons_append]

/-! ## The lines of a written rule -/

/-- The lines of a rule as a block. -/
def ruleLines (r : Rule) : List (List Char) :=
  "windowrule \x7b".toList :: ((entries r).map entryChars ++ ["\x7d".toList])

theorem toList_writeRule (r : Rule) : (writeRule r).toList = closeLines (ruleLines r) := by
  simp [writeRule, closeLines, ruleLines, List.flatMap_map, toList_entryLine]

/-- A line of a well-formed rule holds neither a line end nor a number sign. -/
structure CleanLine (l : List Char) : Prop where
  newline : '\n' ∉ l
  hash : '#' ∉ l
  carriageReturn : '\r' ∉ l.getLast?

theorem cleanLine_entryChars {e : String × String} (hk : IsWord e.1) (hv : PlainValue e.2) :
    CleanLine (entryChars e) where
  newline := notMem_entryChars (by decide) (by decide) (hk.notMem (.inl (by decide)))
    fun hmem => hv.chars _ hmem (by decide)
  hash := notMem_entryChars (by decide) (by decide) (hk.notMem (.inr (by decide)))
    fun hmem => hv.chars _ hmem (by decide)
  carriageReturn hlast := by
    -- the line ends in the value, or in the blank before it
    have hsplit : entryChars e = (' ' :: ' ' :: ' ' :: ' ' :: (e.1.toList ++ [' ', '='])) ++
        ' ' :: e.2.toList := by
      simp [entryChars]
    rw [hsplit, List.getLast?_append, List.getLast?_cons] at hlast
    cases hvalue : e.2.toList.getLast? with
    | none => simp [hvalue] at hlast
    | some c =>
      have hc : c = '\r' := by simpa [hvalue] using hlast
      exact absurd (hv.last c hvalue) (by rw [hc]; decide)

theorem cleanLine_of_mem_ruleLines {r : Rule} (hr : r.WellFormed) {l : List Char}
    (hl : l ∈ ruleLines r) : CleanLine l := by
  rw [ruleLines, List.mem_cons, List.mem_append, List.mem_map, List.mem_singleton] at hl
  rcases hl with rfl | ⟨e, he, rfl⟩ | rfl
  · constructor <;> decide +kernel
  · have hplain := plain_of_mem_entries hr he
    exact cleanLine_entryChars hplain.1 hplain.2
  · constructor <;> decide +kernel

section WellFormed

variable {r : Rule} (hr : r.WellFormed)
include hr

/-- The block of a well-formed rule has no marks to lose. -/
theorem uncommentChars_writeRule_append (s : List Char) :
    uncommentChars ((writeRule r).toList ++ s) = (writeRule r).toList ++ uncommentChars s := by
  have hmap : (ruleLines r).map uncommentLine = ruleLines r :=
    (List.map_congr_left fun l hl =>
      uncommentLine_of_notMem (cleanLine_of_mem_ruleLines hr hl).hash).trans (List.map_id' _)
  rw [toList_writeRule, uncommentChars_closeLines_append fun l hl =>
    (cleanLine_of_mem_ruleLines hr hl).newline, hmap]

/-- The block of a well-formed rule is cut into the lines that it was written with. -/
theorem lines_writeRule : lines (writeRule r).toList = ruleLines r := by
  rw [toList_writeRule]
  exact lines_closeLines fun l hl =>
    ⟨(cleanLine_of_mem_ruleLines hr hl).newline, (cleanLine_of_mem_ruleLines hr hl).carriageReturn⟩

theorem isEmpty_writeComment : (writeComment r).isEmpty = false := by
  rw [Bool.eq_false_iff, Ne, String.isEmpty_iff, ← String.toList_eq_nil_iff, toList_writeComment,
    lines_writeRule hr]
  exact nofun

/-- **The comment of a well-formed rule without its marks is the block of the rule.** -/
theorem uncommentChars_writeComment_append (s : List Char) :
    uncommentChars ((writeComment r).toList ++ s) = (writeRule r).toList ++ uncommentChars s := by
  have hmarks : ((ruleLines r).map commentLine).map uncommentLine = ruleLines r := by
    rw [List.map_map]
    exact List.map_id' _
  rw [toList_writeComment, uncommentChars_closeLines_append fun l => notMem_of_mem_map_commentLine,
    lines_writeRule hr, hmarks, toList_writeRule]

end WellFormed

/-! ## Blocks one after the other -/

/-- The blank line between what is written already and a block behind it. -/
def gap (out : String) : String := if out.isEmpty then "" else "\n"

/-- A rule put as a comment behind what is written already. -/
def addComment (out : String) (r : Rule) : String := out ++ gap out ++ writeComment r

theorem tokens_gap_append (out : String) (s : List Char) :
    tokens ((gap out).toList ++ s) = tokens s := by
  unfold gap
  split
  · rfl
  · exact (tokens_append_newline [] s).trans (by rw [tokens_nil, List.nil_append])

theorem uncommentChars_gap_append (out : String) (s : List Char) :
    uncommentChars ((gap out).toList ++ s) = (gap out).toList ++ uncommentChars s := by
  unfold gap
  split
  · rfl
  · exact uncommentChars_append_newline List.not_mem_nil s

theorem isEmpty_append_of_right {s t : String} (h : t.isEmpty = false) :
    (s ++ t).isEmpty = false := by
  rw [Bool.eq_false_iff, Ne, String.isEmpty_iff] at h ⊢
  exact fun happend => h (String.append_eq_empty_iff.mp happend).2

theorem isEmpty_writeRule (r : Rule) : (writeRule r).isEmpty = false := by
  rw [Bool.eq_false_iff, Ne, String.isEmpty_iff, ← String.toList_eq_nil_iff, toList_writeRule]
  exact nofun

theorem write_cons_cons (q r : Rule) (rs : Ruleset) :
    write (q :: r :: rs) = writeRule q ++ "\n" ++ write (r :: rs) := by
  rw [write, List.map_cons, List.map_cons, String.intercalate_cons_cons]
  rfl

theorem isEmpty_write_cons (r : Rule) (rs : Ruleset) : (write (r :: rs)).isEmpty = false := by
  induction rs generalizing r with
  | nil =>
    rw [write, List.map_cons, List.map_nil, String.intercalate_singleton]
    exact isEmpty_writeRule r
  | cons q rs ih =>
    rw [write_cons_cons]
    exact isEmpty_append_of_right (ih q)

/-- A rule more is a block more. -/
theorem write_concat (rs : Ruleset) (r : Rule) :
    write (rs ++ [r]) = write rs ++ gap (write rs) ++ writeRule r := by
  induction rs with
  | nil => rfl
  | cons q rs ih =>
    have hgap : gap (write (q :: rs)) = "\n" := by
      rw [gap, isEmpty_write_cons, if_neg Bool.false_ne_true]
    cases rs with
    | nil => rw [hgap]; rfl
    | cons p rs =>
      have hrest : gap (write (p :: rs)) = "\n" := by
        rw [gap, isEmpty_write_cons, if_neg Bool.false_ne_true]
      rw [hgap, List.cons_append, List.cons_append, write_cons_cons, ← List.cons_append, ih, hrest,
        write_cons_cons]
      simp only [String.append_assoc]

/-- A written file is made of whole lines, so what stands behind it has its own tokens. -/
theorem tokens_write_append (rs : Ruleset) (s : List Char) :
    tokens ((write rs).toList ++ s) = tokens (write rs).toList ++ tokens s := by
  rcases List.eq_nil_or_concat rs with rfl | ⟨rs, r, rfl⟩
  · rw [write, List.map_nil, String.intercalate_nil, String.toList_empty, tokens_nil]
    rfl
  · have hend : (write (rs ++ [r])).toList =
        (write rs ++ gap (write rs) ++ ("windowrule \x7b\n" ++
          String.join ((entries r).map entryLine) ++ "\x7d")).toList ++ ['\n'] := by
      rw [write_concat]
      simp [writeRule]
    rw [List.concat_eq_append, hend, List.append_assoc, List.singleton_append,
      tokens_append_newline, tokens_append_newline, tokens_nil, List.append_nil]

/-- **Comments behind a text add no tokens to it.** -/
theorem tokens_foldl_addComment {out : String} {ts : List Token}
    (hout : ∀ s, tokens (out.toList ++ s) = ts ++ tokens s) (rs : List Rule) (s : List Char) :
    tokens ((rs.foldl addComment out).toList ++ s) = ts ++ tokens s := by
  induction rs generalizing out with
  | nil => exact hout s
  | cons r rs ih =>
    refine ih fun t => ?_
    rw [addComment, String.toList_append, String.toList_append, List.append_assoc,
      List.append_assoc, hout, tokens_gap_append, tokens_writeComment_append]

/-- A written file has no marks to lose. -/
theorem uncommentChars_write_append {rs : Ruleset} (hrs : ∀ r ∈ rs, r.WellFormed) (s : List Char) :
    uncommentChars ((write rs).toList ++ s) = (write rs).toList ++ uncommentChars s := by
  induction rs using List.reverseRecOn generalizing s with
  | nil => rfl
  | append_singleton rs r ih =>
    rw [List.forall_mem_append, List.forall_mem_singleton] at hrs
    rw [write_concat, String.toList_append, String.toList_append, List.append_assoc,
      List.append_assoc, ih hrs.1, uncommentChars_gap_append, uncommentChars_writeRule_append hrs.2]
    simp only [List.append_assoc]

/-- **Comments behind a text become blocks when they lose their marks.** -/
theorem uncommentChars_foldl_addComment {out : String} {rs : Ruleset}
    (hempty : out.isEmpty = (write rs).isEmpty)
    (hout : ∀ s, uncommentChars (out.toList ++ s) = (write rs).toList ++ uncommentChars s)
    {ds : List Rule} (hds : ∀ r ∈ ds, r.WellFormed) (s : List Char) :
    uncommentChars ((ds.foldl addComment out).toList ++ s) =
      (write (rs ++ ds)).toList ++ uncommentChars s := by
  induction ds generalizing out rs with
  | nil =>
    rw [List.append_nil]
    exact hout s
  | cons r ds ih =>
    have hr := hds r List.mem_cons_self
    have hgap : gap out = gap (write rs) := by
      rw [gap, gap, hempty]
    rw [List.append_cons]
    refine ih ?_ (fun t => ?_) fun q hq => hds q (List.mem_cons_of_mem r hq)
    · rw [addComment, write_concat, isEmpty_append_of_right (isEmpty_writeComment hr),
        isEmpty_append_of_right (isEmpty_writeRule r)]
    · rw [addComment, write_concat, String.toList_append, String.toList_append, List.append_assoc,
        List.append_assoc, hout, hgap, uncommentChars_gap_append,
        uncommentChars_writeComment_append hr]
      simp only [String.toList_append, List.append_assoc]

end Config
end WindowRules
