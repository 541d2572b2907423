import WindowRules.Pattern.Expr
import WindowRules.Proofs.Pattern.Sets

/-!
# What an expression matches

The meaning of an expression is given by rules, one or two for each form of expression.  Here it is
read off the form: a stretch that a sequence matches is one behind the other, and so on, each as an
equivalence, so that the meaning of an expression can be worked out by rewriting.

A repetition matches so many copies in a row as its bounds allow (`spans_repetition_iff`).  The
rules count the bounds down from copy to copy; a bound that is smaller than the other one allows
nothing at all.

The characters of a text, one after the other, match this text (`spans_chars_iff`), and what stands
between the anchors for the ends of a text has to match all of it (`occursIn_between_ends_iff`).
-/

namespace WindowRules
namespace Pattern

/-- A relation between places so many times in a row. -/
def Times (R : Nat → Nat → Prop) : Nat → Nat → Nat → Prop
  | 0, i, j => i = j
  | s + 1, i, k => ∃ j, R i j ∧ Times R s j k

namespace Expr

variable {text : List Char} {e a b : Expr} {i j k : Nat}

/-- **A stretch lies inside of the text.** -/
theorem Spans.bounds (h : e.Spans text i j) : i ≤ j ∧ j ≤ text.length := by
  have hnext {i : Nat} {c : Char} (hc : text[i]? = some c) : i ≤ i + 1 ∧ i + 1 ≤ text.length := by
    obtain ⟨hi, -⟩ := List.getElem?_eq_some_iff.mp hc
    exact ⟨Nat.le_succ i, hi⟩
  induction h with
  | empty hi => exact ⟨Nat.le_refl _, hi⟩
  | char hc => exact hnext hc
  | set hc _ => exact hnext hc
  | anchor hi _ => exact ⟨Nat.le_refl _, hi⟩
  | seq _ _ iha ihb => exact ⟨Nat.le_trans iha.1 ihb.1, ihb.2⟩
  | altLeft _ ih => exact ih
  | altRight _ ih => exact ih
  | stop hi => exact ⟨Nat.le_refl _, hi⟩
  | more _ _ _ ih ihrest => exact ⟨Nat.le_trans ih.1 ihrest.1, ihrest.2⟩
  | capture _ ih => exact ih

theorem spans_empty_iff : Expr.empty.Spans text i j ↔ i = j ∧ j ≤ text.length := by
  constructor
  · rintro ⟨hi⟩
    exact ⟨rfl, hi⟩
  · rintro ⟨rfl, hi⟩
    exact .empty hi

theorem spans_char_iff {c : Char} :
    (Expr.char c).Spans text i j ↔ text[i]? = some c ∧ j = i + 1 := by
  constructor
  · rintro ⟨⟩
    exact ⟨‹_›, rfl⟩
  · rintro ⟨hc, rfl⟩
    exact .char hc

theorem spans_set_iff {s : CharSet} :
    (Expr.set s).Spans text i j ↔ (∃ c, text[i]? = some c ∧ s.mem c = true) ∧ j = i + 1 := by
  constructor
  · rintro ⟨⟩
    exact ⟨⟨_, ‹_›, ‹_›⟩, rfl⟩
  · rintro ⟨⟨c, hc, hmem⟩, rfl⟩
    exact .set hc hmem

theorem spans_anchor_iff {x : Anchor} : (Expr.anchor x).Spans text i j ↔
    i = j ∧ j ≤ text.length ∧ x.holds (charBefore text i) text[i]? = true := by
  constructor
  · rintro ⟨⟩
    exact ⟨rfl, ‹_›, ‹_›⟩
  · rintro ⟨rfl, hi, hx⟩
    exact .anchor hi hx

theorem spans_seq_iff :
    (Expr.seq a b).Spans text i k ↔ ∃ j, a.Spans text i j ∧ b.Spans text j k := by
  constructor
  · rintro ⟨⟩
    exact ⟨_, ‹_›, ‹_›⟩
  · rintro ⟨j, ha, hb⟩
    exact .seq ha hb

theorem spans_alt_iff : (Expr.alt a b).Spans text i j ↔ a.Spans text i j ∨ b.Spans text i j := by
  constructor
  · rintro (_ | _)
    · exact .inl ‹_›
    · exact .inr ‹_›
  · rintro (h | h)
    · exact .altLeft h
    · exact .altRight h

theorem spans_capture_iff : (Expr.capture e).Spans text i j ↔ e.Spans text i j := by
  constructor
  · rintro ⟨⟩
    exact ‹_›
  · exact .capture

/-- **A repetition matches so many copies in a row as its bounds allow.** -/
theorem spans_repetition_iff {min : Nat} {max : Option Nat} :
    (Expr.repetition e min max).Spans text i k ↔
      k ≤ text.length ∧ ∃ s, min ≤ s ∧ (∀ m ∈ max, s ≤ m) ∧ Times (e.Spans text) s i k := by
  constructor
  · intro h
    refine ⟨h.bounds.2, ?_⟩
    generalize hrep : Expr.repetition e min max = rep at h
    induction h generalizing min max with
    | stop _ =>
      obtain ⟨rfl, rfl, rfl⟩ := Expr.repetition.inj hrep
      exact ⟨0, Nat.le_refl _, fun m _ => Nat.zero_le m, rfl⟩
    | more hmax hfirst hrest _ ih =>
      obtain ⟨rfl, rfl, rfl⟩ := Expr.repetition.inj hrep
      obtain ⟨s, hmin, hbound, htimes⟩ := ih rfl
      refine ⟨s + 1, by omega, fun m hm => ?_, _, hfirst, htimes⟩
      obtain rfl := Option.mem_def.mp hm
      have hpos : m ≠ 0 := fun h => hmax (by rw [h])
      have := hbound (m - 1) rfl
      omega
    | _ => cases hrep
  · rintro ⟨hk, s, hmin, hbound, htimes⟩
    induction s generalizing min max i with
    | zero =>
      obtain rfl : i = k := htimes
      obtain rfl : min = 0 := Nat.le_zero.mp hmin
      exact .stop hk
    | succ s ih =>
      obtain ⟨j, hfirst, hrest⟩ := htimes
      refine .more (fun h => absurd (hbound 0 h) (Nat.not_succ_le_zero s)) hfirst (ih ?_ ?_ hrest)
      · omega
      · intro m hm
        obtain ⟨n, hn, rfl⟩ := Option.map_eq_some_iff.mp hm
        have := hbound n hn
        omega

/-! ## Rows and choices -/

theorem spans_seqs_cons_iff {es : List Expr} :
    (seqs (e :: es)).Spans text i k ↔ ∃ j, e.Spans text i j ∧ (seqs es).Spans text j k := by
  cases es with
  | nil =>
    constructor
    · intro h
      exact ⟨k, h, .empty h.bounds.2⟩
    · rintro ⟨j, h, hempty⟩
      exact (spans_empty_iff.mp hempty).1 ▸ h
  | cons e' es => exact spans_seq_iff

theorem spans_seqs_append_iff {es es' : List Expr} :
    (seqs (es ++ es')).Spans text i k ↔
      ∃ j, (seqs es).Spans text i j ∧ (seqs es').Spans text j k := by
  induction es generalizing i with
  | nil =>
    constructor
    · intro h
      exact ⟨i, .empty (Nat.le_trans h.bounds.1 h.bounds.2), h⟩
    · rintro ⟨j, hempty, h⟩
      exact (spans_empty_iff.mp hempty).1 ▸ h
  | cons e es ih =>
    rw [List.cons_append, spans_seqs_cons_iff]
    constructor
    · rintro ⟨m, he, h⟩
      obtain ⟨j, hes, hes'⟩ := ih.mp h
      exact ⟨j, spans_seqs_cons_iff.mpr ⟨m, he, hes⟩, hes'⟩
    · rintro ⟨j, h, hes'⟩
      obtain ⟨m, he, hes⟩ := spans_seqs_cons_iff.mp h
      exact ⟨m, he, ih.mpr ⟨j, hes, hes'⟩⟩

theorem spans_choice_iff {es : List Expr} :
    (choice es).Spans text i j ↔ ∃ e ∈ es, e.Spans text i j := by
  induction es with
  | nil =>
    constructor
    · intro h
      obtain ⟨⟨c, -, hc⟩, -⟩ := spans_set_iff.mp h
      exact absurd hc Bool.false_ne_true
    · rintro ⟨e, he, -⟩
      exact absurd he List.not_mem_nil
  | cons e es ih =>
    simp only [List.mem_cons, exists_eq_or_imp]
    cases es with
    | nil => simp [choice]
    | cons e' es =>
      rw [← ih]
      exact spans_alt_iff

/-- A set with one member matches what the member matches. -/
theorem spans_ofSet_iff {s : CharSet} : (ofSet s).Spans text i j ↔ (Expr.set s).Spans text i j := by
  unfold ofSet
  split
  · next n m hs =>
    split
    · next hone =>
      obtain ⟨rfl, hn⟩ := hone
      have hmem : ∀ c, s.mem c = true ↔ c = Char.ofNat n := by
        have hvalue : (Char.ofNat n).toNat = n := by
          rw [Char.ofNat, dif_pos hn]
          rfl
        have hs : s = .singleton (Char.ofNat n) := by
          rw [CharSet.singleton, hvalue, ← hs]
        exact fun c => hs ▸ CharSet.mem_singleton_iff
      simp only [spans_char_iff, spans_set_iff, hmem, exists_eq_right]
    · rfl
  · rfl

theorem spans_iff_of_char? {e : Expr} {s : CharSet} (h : e.char? = some s) :
    e.Spans text i j ↔ (Expr.set s).Spans text i j := by
  cases e with
  | char c =>
    obtain rfl := Option.some.inj h
    simp only [spans_char_iff, spans_set_iff, CharSet.mem_singleton_iff, exists_eq_right]
  | _ => exact absurd h nofun

theorem spans_iff_of_set? {e : Expr} {s : CharSet} (h : e.set? = some s) :
    e.Spans text i j ↔ (Expr.set s).Spans text i j := by
  cases e with
  | set s' =>
    obtain rfl := Option.some.inj h
    rfl
  | _ => exact absurd h nofun

/-- Where each of some expressions stands for a set, the sets together match what one of the
expressions matches. -/
theorem spans_unions_iff {es : List Expr} {set : Expr → Option CharSet}
    (hall : (es.all fun e => (set e).isSome) = true)
    (hset : ∀ {e s}, set e = some s → (e.Spans text i j ↔ (Expr.set s).Spans text i j)) :
    (ofSet (.unions (es.filterMap set))).Spans text i j ↔ ∃ e ∈ es, e.Spans text i j := by
  rw [spans_ofSet_iff, spans_set_iff]
  simp only [CharSet.mem_unions_iff, List.mem_filterMap]
  constructor
  · rintro ⟨⟨c, hc, s, ⟨e, he, hs⟩, hmem⟩, rfl⟩
    exact ⟨e, he, (hset hs).mpr (spans_set_iff.mpr ⟨⟨c, hc, hmem⟩, rfl⟩)⟩
  · rintro ⟨e, he, hspans⟩
    obtain ⟨s, hs⟩ := Option.isSome_iff_exists.mp (List.all_eq_true.mp hall e he)
    obtain ⟨⟨c, hc, hmem⟩, rfl⟩ := spans_set_iff.mp ((hset hs).mp hspans)
    exact ⟨⟨c, hc, s, ⟨e, he, hs⟩, hmem⟩, rfl⟩

/-- **Alternatives match what one of them matches**, also where they are made into a set. -/
theorem spans_alts_iff {es : List Expr} :
    (alts es).Spans text i j ↔ ∃ e ∈ es, e.Spans text i j := by
  unfold alts
  split
  · simp only [List.mem_singleton, exists_eq_left]
  split
  · next hchars => exact spans_unions_iff hchars spans_iff_of_char?
  split
  · next hsets => exact spans_unions_iff hsets spans_iff_of_set?
  · exact spans_choice_iff

/-- **The characters of a text, one after the other, match this text.** -/
theorem spans_chars_iff {s : List Char} :
    (seqs (s.map .char)).Spans text i j ↔
      i ≤ text.length ∧ s <+: text.drop i ∧ j = i + s.length := by
  induction s generalizing i with
  | nil =>
    refine spans_empty_iff.trans ⟨?_, ?_⟩
    · rintro ⟨rfl, hi⟩
      exact ⟨hi, List.nil_prefix, rfl⟩
    · rintro ⟨hi, -, rfl⟩
      exact ⟨rfl, hi⟩
  | cons c cs ih =>
    rw [List.map_cons, spans_seqs_cons_iff]
    constructor
    · rintro ⟨m, hc, h⟩
      obtain ⟨hchar, rfl⟩ := spans_char_iff.mp hc
      obtain ⟨-, hcs, rfl⟩ := ih.mp h
      obtain ⟨hi, rfl⟩ := List.getElem?_eq_some_iff.mp hchar
      rw [List.drop_eq_getElem_cons hi]
      exact ⟨Nat.le_of_lt hi, List.cons_prefix_cons.mpr ⟨rfl, hcs⟩, by rw [List.length_cons]; omega⟩
    · rintro ⟨hi, hstarts, rfl⟩
      rcases Nat.lt_or_eq_of_le hi with hi | rfl
      · rw [List.drop_eq_getElem_cons hi, List.cons_prefix_cons] at hstarts
        obtain ⟨rfl, hcs⟩ := hstarts
        refine ⟨i + 1, .char (List.getElem?_eq_getElem hi), ih.mpr ⟨hi, hcs, ?_⟩⟩
        rw [List.length_cons]
        omega
      · rw [List.drop_length, List.prefix_nil] at hstarts
        exact absurd hstarts (List.cons_ne_nil c cs)

/-! ## The ends of a text -/

theorem spans_textStart_iff :
    (Expr.anchor .textStart).Spans text i j ↔ i = 0 ∧ j = 0 := by
  rw [spans_anchor_iff]
  constructor
  · rintro ⟨rfl, hi, hnone⟩
    cases i with
    | zero => exact ⟨rfl, rfl⟩
    | succ i =>
      have hbefore : charBefore text (i + 1) = some text[i] := List.getElem?_eq_getElem hi
      rw [hbefore] at hnone
      exact absurd hnone Bool.false_ne_true
  · rintro ⟨rfl, rfl⟩
    exact ⟨rfl, Nat.zero_le _, rfl⟩

theorem spans_textEnd_iff :
    (Expr.anchor .textEnd).Spans text i j ↔ i = text.length ∧ j = text.length := by
  rw [spans_anchor_iff]
  constructor
  · rintro ⟨rfl, hi, hnone⟩
    have hlen := List.getElem?_eq_none_iff.mp (Option.isNone_iff_eq_none.mp hnone)
    exact ⟨Nat.le_antisymm hi hlen, Nat.le_antisymm hi hlen⟩
  · rintro ⟨rfl, rfl⟩
    exact ⟨rfl, Nat.le_refl _,
      Option.isNone_iff_eq_none.mpr (List.getElem?_eq_none (Nat.le_refl _))⟩

/-- **Between its two ends there is just the whole text.** -/
theorem occursIn_between_ends_iff {es : List Expr} :
    (seqs (.anchor .textStart :: es ++ [.anchor .textEnd])).OccursIn text ↔
      (seqs es).Spans text 0 text.length := by
  constructor
  · rintro ⟨i, k, h⟩
    obtain ⟨n, hes, hend⟩ := spans_seqs_append_iff.mp h
    obtain ⟨m, hstart, hes⟩ := spans_seqs_cons_iff.mp hes
    obtain ⟨-, rfl⟩ := spans_textStart_iff.mp hstart
    obtain ⟨rfl, -⟩ := spans_textEnd_iff.mp hend
    exact hes
  · intro hes
    have hstart : (Expr.anchor .textStart).Spans text 0 0 := spans_textStart_iff.mpr ⟨rfl, rfl⟩
    have hend : (Expr.anchor .textEnd).Spans text text.length text.length :=
      spans_textEnd_iff.mpr ⟨rfl, rfl⟩
    exact ⟨0, text.length, spans_seqs_append_iff.mpr
      ⟨text.length, spans_seqs_cons_iff.mpr ⟨0, hstart, hes⟩, hend⟩⟩

/-- A text that is matched as a whole is the one whose characters are asked for. -/
theorem spans_chars_whole_iff {s : List Char} :
    (seqs (s.map .char)).Spans text 0 text.length ↔ text = s := by
  rw [spans_chars_iff, List.drop_zero, Nat.zero_add]
  constructor
  · rintro ⟨-, hstarts, hlen⟩
    exact (hstarts.eq_of_length hlen.symm).symm
  · rintro rfl
    exact ⟨Nat.zero_le _, List.prefix_refl _, rfl⟩

end Expr

end Pattern
end WindowRules
