import WindowRules.Proofs.Catalog.ClassPattern
import WindowRules.Proofs.Pattern.Reading

/-!
# Reading texts that are written as patterns

`escape` writes a text so that a pattern stands for it.  Here such patterns are read again.  A step
of the reader is a relation between what has been read and what is left, before and after (`Reads`),
because a character that is written with a backslash takes two characters of the pattern and one
step.

* An escaped text is read as its characters, one after the other (`reads_escape`).
* Escaped texts with bars between them are read as alternatives (`exists_reads_alternatives`).
* Between a circumflex and a dollar sign, alone or as a group, they are all that the pattern matches
  (`occursIn_of_parse_literal`, `occursIn_of_parse_alternatives`).
-/

namespace WindowRules
namespace Pattern

/-! ## Steps -/

/-- Reading comes from one place of a pattern to another, whatever is behind. -/
def Reads (r : Reader) (cs : List Char) (r' : Reader) (cs' : List Char) : Prop :=
  ∀ fuel, cs.length ≤ fuel →
    ∃ fuel', cs'.length ≤ fuel' ∧ readPieces fuel r cs = readPieces fuel' r' cs'

theorem Reads.refl (r : Reader) (cs : List Char) : Reads r cs r cs := fun fuel h => ⟨fuel, h, rfl⟩

theorem Reads.trans {r r' r'' : Reader} {cs cs' cs'' : List Char} (h : Reads r cs r' cs')
    (h' : Reads r' cs' r'' cs'') : Reads r cs r'' cs'' := by
  intro fuel hfuel
  obtain ⟨fuel', hfuel', heq⟩ := h fuel hfuel
  obtain ⟨fuel'', hfuel'', heq'⟩ := h' fuel' hfuel'
  exact ⟨fuel'', hfuel'', heq.trans heq'⟩

/-- A piece is a step. -/
theorem Reads.of_piece {r r' : Reader} {c : Char} {cs cs' : List Char} (hflags : r.flags = {})
    (hpiece : readPiece r c cs = some (r', cs')) (hlen : cs'.length ≤ cs.length) :
    Reads r (c :: cs) r' cs' := by
  intro fuel hfuel
  obtain ⟨n, rfl⟩ : ∃ n, fuel = n + 1 := Nat.exists_eq_succ_of_ne_zero (by
    rintro rfl
    exact absurd hfuel (Nat.not_succ_le_zero _))
  refine ⟨n, hlen.trans (Nat.le_of_succ_le_succ hfuel), ?_⟩
  rw [readPieces, hflags, Flags.skip_default]
  dsimp only
  rw [hpiece]
  rfl

/-- At its end a pattern has been read. -/
theorem Reads.readPieces_eq {r r' : Reader} {cs : List Char} (h : Reads r cs r' [])
    (hflags : r'.flags = {}) : readPieces cs.length r cs = some r' := by
  obtain ⟨fuel, -, heq⟩ := h cs.length (Nat.le_refl _)
  rw [heq]
  cases fuel with
  | zero => rw [readPieces, hflags, Flags.skip_default, if_pos List.isEmpty_nil]
  | succ fuel => rw [readPieces, hflags, Flags.skip_default]

/-! ## Characters -/

/-- A character as a part of a pattern. -/
def charPart (c : Char) : Part := ⟨.char c, 0, false⟩

/-- What is read of a text that stands for itself. -/
def Reader.spell (r : Reader) (s : List Char) : Reader :=
  { r with level := { r.level with parts := (s.map charPart).reverse ++ r.level.parts } }

theorem charExpr_default (c : Char) : charExpr? {} c false = some (.char c) := by
  have hset : Expr.ofSet (.singleton c) = .char (Char.ofNat c.toNat) := if_pos ⟨rfl, c.valid⟩
  rw [Char.ofNat_toNat] at hset
  exact congrArg some hset

theorem readPiece_of_not_isSpecial {r : Reader} {c : Char} {cs : List Char} (hflags : r.flags = {})
    (hc : isSpecial c = false) : readPiece r c cs = some (r.push (charPart c), cs) := by
  unfold readPiece
  split
  -- all characters that start a piece of another kind are special
  all_goals first
    | exact absurd hc (by decide)
    | rw [hflags, charExpr_default]; rfl

theorem readPiece_backslash {r : Reader} {c : Char} {cs : List Char} (hflags : r.flags = {})
    (hc : isSpecial c = true) : readPiece r '\\' (c :: cs) = some (r.push (charPart c), cs) := by
  have hescapable : isEscapable c = true := by rw [isEscapable, hc, Bool.true_or]
  have hescape : readEscape r.flags (c :: cs) = some (.literal c false, cs) := if_pos hescapable
  unfold readPiece
  rw [hescape]
  dsimp only [Option.bind_eq_bind, Option.bind_some]
  rw [Primitive.expr?, hflags, charExpr_default]
  rfl

theorem reads_escape_singleton {r : Reader} (hflags : r.flags = {}) (c : Char) (cs : List Char) :
    Reads r (escape [c] ++ cs) (r.push (charPart c)) cs := by
  rw [escape, List.flatMap_singleton]
  split
  · next hc => exact .of_piece hflags (readPiece_backslash hflags hc) (Nat.le_succ _)
  · next hc =>
    exact .of_piece hflags (readPiece_of_not_isSpecial hflags (Bool.eq_false_iff.mpr hc))
      (Nat.le_refl _)

/-- **An escaped text is read as its characters.** -/
theorem reads_escape {r : Reader} (hflags : r.flags = {}) (s cs : List Char) :
    Reads r (escape s ++ cs) (r.spell s) cs := by
  induction s generalizing r with
  | nil => exact .refl r cs
  | cons c s ih =>
    have hfirst := reads_escape_singleton hflags c (escape s ++ cs)
    have hrest := ih (r := r.push (charPart c)) hflags
    have hspell : (r.push (charPart c)).spell s = r.spell (c :: s) := by
      simp [Reader.spell, Reader.push]
    rw [escape_cons, List.append_assoc]
    rw [escape, List.flatMap_singleton] at hfirst
    exact hfirst.trans (hspell ▸ hrest)

/-! ## Anchors and groups -/

theorem reads_circumflex {r : Reader} (hflags : r.flags = {}) (cs : List Char) :
    Reads r ('^' :: cs) (r.push ⟨.anchor .textStart, 0, false⟩) cs := by
  refine .of_piece hflags ?_ (Nat.le_refl _)
  unfold readPiece
  rw [hflags]
  rfl

theorem reads_dollar {r : Reader} (hflags : r.flags = {}) (cs : List Char) :
    Reads r ('$' :: cs) (r.push ⟨.anchor .textEnd, 0, false⟩) cs := by
  refine .of_piece hflags ?_ (Nat.le_refl _)
  unfold readPiece
  rw [hflags]
  rfl

theorem reads_bar {r : Reader} (hflags : r.flags = {}) (cs : List Char) :
    Reads r ('|' :: cs) r.nextBranch cs :=
  .of_piece hflags rfl (Nat.le_refl _)

/-- A parenthesis opens a group, unless a question mark follows. -/
theorem reads_open {r : Reader} (hflags : r.flags = {}) {cs : List Char}
    (hcs : cs.head? ≠ some '?') :
    Reads r ('(' :: cs) (r.openGroup {} true) cs := by
  have hgroup : readGroup r cs = some (r.openGroup {} true, cs) := by
    unfold readGroup
    rw [hflags, Flags.skip_default]
    split
    all_goals first
      | exact absurd rfl hcs
      | rfl
  exact .of_piece hflags hgroup (Nat.le_refl _)

theorem reads_close {r r' : Reader} (hflags : r.flags = {}) (hr : r.closeGroup = some r')
    (cs : List Char) : Reads r (')' :: cs) r' cs := by
  refine .of_piece hflags ?_ (Nat.le_refl _)
  show r.closeGroup.map (·, cs) = _
  rw [hr]
  rfl

/-! ## Alternatives -/

/-- A text as an alternative. -/
def literalPart (s : List Char) : Part := .inSequence (s.map charPart).reverse

/-- The alternatives of a group, and the one that is being read. -/
def Level.all (l : Level) : List Part := .inSequence l.parts :: l.branches

theorem exprs_charPart (s : List Char) : (s.map charPart).map (·.expr) = s.map .char := by
  rw [List.map_map]
  rfl

theorem expr_inSequence {parts : List Part} (h : ∀ p ∈ parts, p.isSwitch = false) :
    (Part.inSequence parts.reverse).expr = .seqs (parts.map (·.expr)) := by
  have hfilter : parts.filter (!·.isSwitch) = parts :=
    List.filter_eq_self.mpr fun p hp => by rw [h p hp, Bool.not_false]
  unfold Part.inSequence
  split
  · next hnil =>
    rw [List.reverse_eq_nil_iff.mp hnil]
    rfl
  · next p hp =>
    rw [← List.reverse_reverse parts, hp]
    rfl
  · rw [List.reverse_reverse, hfilter]

theorem expr_literalPart (s : List Char) : (literalPart s).expr = .seqs (s.map .char) := by
  rw [literalPart, expr_inSequence, exprs_charPart]
  intro p hp
  obtain ⟨c, -, rfl⟩ := List.mem_map.mp hp
  rfl

/-- **Escaped texts with bars between them are read as alternatives.** -/
theorem exists_reads_alternatives {r : Reader} (hflags : r.flags = {}) (hparts : r.level.parts = [])
    {texts : List (List Char)} (hne : texts ≠ []) (cs : List Char) :
    ∃ l : Level, Reads r (['|'].intercalate (texts.map escape) ++ cs) { r with level := l } cs ∧
      l.all = (texts.map literalPart).reverse ++ r.level.branches := by
  induction texts generalizing r with
  | nil => exact absurd rfl hne
  | cons s texts ih =>
    by_cases hlast : texts = []
    · subst hlast
      rw [List.map_singleton, List.intercalate_singleton]
      refine ⟨(r.spell s).level, reads_escape hflags s cs, ?_⟩
      simp [Level.all, Reader.spell, literalPart, hparts]
    · have hbar : ['|'].intercalate ((s :: texts).map escape) ++ cs =
          escape s ++ ('|' :: (['|'].intercalate (texts.map escape) ++ cs)) := by
        rw [List.map_cons, List.intercalate_cons_of_ne_nil (by simpa using hlast)]
        simp
      obtain ⟨l, hl, hall⟩ := ih (r := (r.spell s).nextBranch) hflags rfl hlast
      refine ⟨l, ?_, ?_⟩
      · rw [hbar]
        exact (reads_escape hflags s _).trans ((reads_bar (r := r.spell s) hflags _).trans hl)
      · rw [hall]
        simp [Reader.nextBranch, Reader.spell, literalPart, hparts]

theorem expr_inChoice {branches : List Part} (hne : branches ≠ []) :
    (Part.inChoice branches.reverse).expr = .alts (branches.map (·.expr)) := by
  unfold Part.inChoice
  split
  · next hnil => exact absurd (List.reverse_eq_nil_iff.mp hnil) hne
  · next p hp =>
    rw [← List.reverse_reverse branches, hp]
    rfl
  · rw [List.reverse_reverse]

/-- A group whose alternatives are texts is a choice between them. -/
theorem expr_close_of_literals {l : Level} {texts : List (List Char)} (hne : texts ≠ [])
    (hall : l.all = (texts.map literalPart).reverse) :
    l.close.expr = .alts (texts.map fun s => .seqs (s.map .char)) := by
  have hparts : texts.map literalPart ≠ [] := mt List.map_eq_nil_iff.mp hne
  calc l.close.expr = (Part.inChoice (texts.map literalPart).reverse).expr :=
        congrArg (fun branches => (Part.inChoice branches).expr) hall
    _ = .alts ((texts.map literalPart).map (·.expr)) := expr_inChoice hparts
    _ = .alts (texts.map fun s => .seqs (s.map .char)) := by
        rw [List.map_map]
        exact congrArg Expr.alts (List.map_congr_left fun s _ => expr_literalPart s)

/-! ## Whole patterns -/

/-- What a pattern is read as, if nothing is open at its end. -/
theorem parse_eq_some {text : List Char} {r : Reader} {e : Expr} (h : Reads {} text r [])
    (hflags : r.flags = {}) (hgroups : r.groups = []) (he : parse? text = some e) :
    e = r.level.close.expr := by
  rw [parse?, h.readPieces_eq hflags] at he
  dsimp only [Option.bind_eq_bind, Option.bind_some] at he
  rw [hgroups, if_pos List.isEmpty_nil] at he
  split at he
  · exact (Option.some.inj he).symm
  · exact absurd he nofun

/-- The parts of a pattern between a circumflex and a dollar sign. -/
def anchored (parts : List Part) : List Part :=
  ⟨.anchor .textStart, 0, false⟩ :: parts ++ [⟨.anchor .textEnd, 0, false⟩]

/-- What is read between a circumflex and a dollar sign has to match the whole text. -/
theorem occursIn_of_reads_anchored {pattern text : List Char} {parts : List Part} {e : Expr}
    (hparts : ∀ p ∈ parts, p.isSwitch = false)
    (h : Reads {} pattern { level := ⟨[], (anchored parts).reverse⟩ } [])
    (he : parse? pattern = some e) :
    e.OccursIn text ↔ (Expr.seqs (parts.map (·.expr))).Spans text 0 text.length := by
  have hswitch : ∀ p ∈ anchored parts, p.isSwitch = false := by
    intro p hp
    rcases List.mem_append.mp hp with hp | hp
    · rcases List.mem_cons.mp hp with rfl | hp
      · rfl
      · exact hparts p hp
    · exact List.mem_singleton.mp hp ▸ rfl
  have hexpr : e = .seqs ((anchored parts).map (·.expr)) :=
    (parse_eq_some h rfl rfl he).trans (expr_inSequence hswitch)
  rw [hexpr, anchored, List.map_append, List.map_cons]
  exact Expr.occursIn_between_ends_iff

/-- **An escaped text between a circumflex and a dollar sign** matches this text and no other. -/
theorem occursIn_of_parse_literal {s text : List Char} {e : Expr}
    (he : parse? (['^'] ++ escape s ++ ['$']) = some e) : e.OccursIn text ↔ text = s := by
  have hreads : Reads {} (['^'] ++ escape s ++ ['$'])
      { level := ⟨[], (anchored (s.map charPart)).reverse⟩ } [] := by
    have hend := (reads_circumflex (r := {}) rfl (escape s ++ ['$'])).trans
      ((reads_escape rfl s ['$']).trans (reads_dollar rfl []))
    simpa [anchored, Reader.push, Reader.spell] using hend
  have hswitch : ∀ p ∈ s.map charPart, p.isSwitch = false := by
    intro p hp
    obtain ⟨c, -, rfl⟩ := List.mem_map.mp hp
    rfl
  rw [occursIn_of_reads_anchored hswitch hreads he, exprs_charPart, Expr.spans_chars_whole_iff]

/-- **Escaped texts with bars between them, as a group between a circumflex and a dollar sign,**
match these texts and no others. -/
theorem occursIn_of_parse_alternatives {texts : List (List Char)} {text : List Char} {e : Expr}
    (hne : texts ≠ [])
    (he : parse? (['^', '('] ++ ['|'].intercalate (texts.map escape) ++ [')', '$']) = some e) :
    e.OccursIn text ↔ text ∈ texts := by
  have hescaped : ∀ piece ∈ texts.map escape, Sheltered piece := by
    intro piece hpiece
    obtain ⟨s, -, rfl⟩ := List.mem_map.mp hpiece
    exact sheltered_escape s
  -- no question mark follows the parenthesis that is opened, since one in a text has a backslash
  -- before it
  have hfirst : (['|'].intercalate (texts.map escape) ++ [')', '$']).head? ≠ some '?' := by
    have hgroup : Sheltered (['|'].intercalate (texts.map escape) ++ ([')'] ++ ['$'])) :=
      (sheltered_intercalate hescaped).append
        ((sheltered_singleton (by decide)).append (sheltered_singleton (by decide)))
    intro hhead
    exact hgroup.head '?' hhead (by decide)
  let start : Reader := ({} : Reader).push ⟨.anchor .textStart, 0, false⟩
  obtain ⟨l, hl, hall⟩ :=
    exists_reads_alternatives (r := start.openGroup {} true) rfl rfl hne [')', '$']
  let group : Part := ⟨.capture l.close.expr, l.close.depth + 1, false⟩
  have hreads : Reads {} (['^', '('] ++ ['|'].intercalate (texts.map escape) ++ [')', '$'])
      { level := ⟨[], (anchored [group]).reverse⟩ } [] := by
    have hopen :=
      (reads_circumflex (r := {}) rfl _).trans ((reads_open (r := start) rfl hfirst).trans hl)
    exact hopen.trans ((reads_close rfl rfl ['$']).trans (reads_dollar rfl []))
  have hclose := expr_close_of_literals hne (hall.trans (List.append_nil _))
  have hswitch : ∀ p ∈ [group], p.isSwitch = false := fun p hp => List.mem_singleton.mp hp ▸ rfl
  rw [occursIn_of_reads_anchored hswitch hreads he]
  calc (Expr.capture l.close.expr).Spans text 0 text.length
      ↔ ∃ s ∈ texts, (Expr.seqs (s.map .char)).Spans text 0 text.length := by
        rw [Expr.spans_capture_iff, hclose, Expr.spans_alts_iff]
        simp only [List.mem_map, exists_exists_and_eq_and]
    _ ↔ text ∈ texts := by
        simp only [Expr.spans_chars_whole_iff, exists_eq_right']

end Pattern
end WindowRules
