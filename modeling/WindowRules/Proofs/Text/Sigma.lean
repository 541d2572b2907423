import Mathlib.Data.List.Infix
import Mathlib.Data.List.TakeWhile
import WindowRules.Proofs.Text.Lowercase

/-!
# Lower case inside a text

Lower case does not go character by character: the form of a capital sigma depends on the letters
around it, and these may be any distance away.  So the lower-case form of a piece need not occur in
that of the text.  It stands in its place if each sigma of the piece has the form there that it has
in the piece alone, and only then (`toLower_isPrefix_iff`).

What is around a piece is seen by few of its sigmas.  One that sees it from the front has only
ignored characters before it, and one that sees it from the back has only ignored characters behind
it.  Such a sigma is *loose* if in addition the other side lets it change its form.

* `toLower_infix`: the form of a piece does not change if no letter is in reach of the piece from
  outside, which is the case at every character that is neither cased nor ignored by case.
* `toLower_infix_iff`: a text without loose sigmas is in lower case what it is inside any other
  text.  One with a loose sigma is not, and a single letter beside it is enough for that.
-/

namespace WindowRules
namespace Text

open Unicode

/-! ## What is seen through ignored characters -/

/-- A text that case ignores. -/
def Ignored (s : List Char) : Prop := ∀ c ∈ s, isCaseIgnorable c = true

instance : DecidablePred Ignored := fun _ => decidable_of_iff _ List.all_eq_true

theorem Ignored.reverse {s : List Char} (h : Ignored s) : Ignored s.reverse :=
  fun c hc => h c (List.mem_reverse.mp hc)

/-- An ignored text lets through what stands behind it. -/
theorem Ignored.startsCased_append {s : List Char} (h : Ignored s) (t : List Char) :
    startsCased (s ++ t) = startsCased t := by
  unfold startsCased
  rw [List.dropWhile_append_of_pos h]

theorem Ignored.startsCased_eq {s : List Char} (h : Ignored s) : startsCased s = false := by
  rw [← List.append_nil s, h.startsCased_append]
  rfl

/-- Any other text hides it. -/
theorem startsCased_append_of_not_ignored {s : List Char} (h : ¬ Ignored s) (t : List Char) :
    startsCased (s ++ t) = startsCased s := by
  have hne : s.dropWhile isCaseIgnorable ≠ [] := mt List.dropWhile_eq_nil_iff.mp h
  obtain ⟨c, cs, hcs⟩ := List.exists_cons_of_ne_nil hne
  unfold startsCased
  rw [List.dropWhile_append, hcs, List.isEmpty_cons, if_neg Bool.false_ne_true]
  rfl

/-- Nothing is seen behind a text in which no cased letter comes first. -/
theorem startsCased_append {t : List Char} (ht : startsCased t = false) (s : List Char) :
    startsCased (s ++ t) = startsCased s := by
  by_cases hs : Ignored s
  · rw [hs.startsCased_append, hs.startsCased_eq, ht]
  · exact startsCased_append_of_not_ignored hs t

/-! ## The form of a piece -/

/-- Whether a capital sigma between two texts ends a word.  The text before it is given
backwards. -/
def endsWord (before after : List Char) : Bool := startsCased before && !startsCased after

theorem lowerAt_sigma (before after : List Char) :
    lowerAt before 'Σ' after = [if endsWord before after then 'ς' else 'σ'] := rfl

theorem lowerAt_of_ne {c : Char} (hc : c ≠ 'Σ') (before after : List Char) :
    lowerAt before c after = lowerChar c := by
  rw [lowerAt, if_neg hc]

/-- Each sigma of a piece ends a word between two texts if it does so in the piece alone. -/
def SameSigmas (front piece back : List Char) : Prop :=
  ∀ u v, piece = u ++ 'Σ' :: v →
    endsWord (u.reverse ++ front.reverse) (v ++ back) = endsWord u.reverse v

/-- Between two other texts, a piece begins with its own lower-case form if its sigmas do not
change, and only then.  The texts in front are given backwards. -/
theorem lowerFrom_isPrefix_iff (before front piece back : List Char) :
    lowerFrom before piece <+: lowerFrom (before ++ front) (piece ++ back) ↔
      ∀ u v, piece = u ++ 'Σ' :: v →
        endsWord (u.reverse ++ (before ++ front)) (v ++ back) =
          endsWord (u.reverse ++ before) v := by
  induction piece generalizing before with
  | nil => exact iff_of_true List.nil_prefix fun u v h => by simp at h
  | cons c cs ih =>
    -- a sigma of the piece is the first character or one of the rest
    have hsplit : (∀ u v, c :: cs = u ++ 'Σ' :: v →
        endsWord (u.reverse ++ (before ++ front)) (v ++ back) = endsWord (u.reverse ++ before) v) ↔
        (c = 'Σ' → endsWord (before ++ front) (cs ++ back) = endsWord before cs) ∧
          lowerFrom (c :: before) cs <+: lowerFrom (c :: before ++ front) (cs ++ back) := by
      rw [ih (c :: before)]
      constructor
      · intro h
        refine ⟨fun hc => h [] cs (by rw [hc, List.nil_append]), fun u v huv => ?_⟩
        have hcons := h (c :: u) v (by rw [huv, List.cons_append])
        rwa [List.reverse_cons, List.append_assoc, List.append_assoc] at hcons
      · rintro ⟨hfirst, hrest⟩ u v huv
        cases u with
        | nil =>
          obtain ⟨rfl, rfl⟩ := List.cons.inj huv
          exact hfirst rfl
        | cons d u =>
          obtain ⟨rfl, rfl⟩ := List.cons.inj huv
          rw [List.reverse_cons, List.append_assoc, List.append_assoc]
          exact hrest u v rfl
    rw [hsplit, List.cons_append, lowerFrom, lowerFrom]
    by_cases hc : c = 'Σ'
    · subst hc
      rw [lowerAt_sigma, lowerAt_sigma, List.singleton_append, List.singleton_append,
        List.cons_prefix_cons, List.cons_append]
      refine and_congr_left' ?_
      generalize endsWord before cs = b, endsWord (before ++ front) (cs ++ back) = b'
      revert b b'
      decide
    · rw [lowerAt_of_ne hc, lowerAt_of_ne hc, List.prefix_append_right_inj, List.cons_append]
      exact (and_iff_right fun h => absurd h hc).symm

theorem toLower_isPrefix_iff (front piece back : List Char) :
    toLower piece <+: lowerFrom front.reverse (piece ++ back) ↔ SameSigmas front piece back := by
  have h := lowerFrom_isPrefix_iff [] front.reverse piece back
  simp only [List.nil_append, List.append_nil] at h
  exact h

instance (front piece back : List Char) : Decidable (SameSigmas front piece back) :=
  decidable_of_iff _ (toLower_isPrefix_iff front piece back)

/-- The lower-case form of a text ends with that of its end, seen from where it stands. -/
theorem lowerFrom_isSuffix (before s t : List Char) :
    lowerFrom (s.reverse ++ before) t <:+ lowerFrom before (s ++ t) := by
  induction s generalizing before with
  | nil => exact List.suffix_rfl
  | cons c cs ih =>
    rw [List.cons_append, lowerFrom, List.reverse_cons, List.append_assoc]
    exact (ih (c :: before)).trans (List.suffix_append _ _)

/-- **A piece whose sigmas do not change** is in the lower-case form of the text as it is alone. -/
theorem SameSigmas.toLower_isInfix {front piece back : List Char}
    (h : SameSigmas front piece back) :
    toLower piece <:+: toLower (front ++ piece ++ back) := by
  have hplace :
      lowerFrom (front.reverse ++ []) (piece ++ back) <:+ toLower (front ++ (piece ++ back)) :=
    lowerFrom_isSuffix [] front (piece ++ back)
  rw [List.append_nil] at hplace
  rw [List.append_assoc]
  exact ((toLower_isPrefix_iff front piece back).mpr h).isInfix.trans hplace.isInfix

/-- **The lower-case form of a piece occurs in that of the text**, if no letter around the piece is
seen from inside it. -/
theorem toLower_infix {x y : List Char} (hx : startsCased x.reverse = false)
    (hy : startsCased y = false) (s : List Char) : toLower s <:+: toLower (x ++ s ++ y) := by
  have hsame : SameSigmas x s y := fun u v _ => by
    rw [endsWord, endsWord, startsCased_append hx, startsCased_append hy]
  exact hsame.toLower_isInfix

/-! ## Loose sigmas -/

/-- A text has a loose sigma if with one of its sigmas it depends on the surroundings whether it
ends a word: on those in front, as before it only ignored characters come and behind it no cased
letter comes first; or on those behind, as behind it only ignored characters come and before it a
cased letter. -/
def HasLooseSigma (s : List Char) : Prop :=
  ∃ u v, s = u ++ 'Σ' :: v ∧
    (Ignored u ∧ startsCased v = false ∨ startsCased u.reverse = true ∧ Ignored v)

/-- The other sigmas are the same wherever the text stands. -/
theorem sameSigmas_of_not_hasLooseSigma {s : List Char} (h : ¬ HasLooseSigma s)
    (front back : List Char) : SameSigmas front s back := by
  intro u v huv
  have hfront : Ignored u → startsCased v = true := fun hu =>
    Bool.not_eq_false _ ▸ fun hv => h ⟨u, v, huv, .inl ⟨hu, hv⟩⟩
  have hback : Ignored v → startsCased u.reverse = false := fun hv =>
    Bool.eq_false_iff.mpr fun hu => h ⟨u, v, huv, .inr ⟨hu, hv⟩⟩
  unfold endsWord
  by_cases hu : Ignored u
  · have hv : ¬ Ignored v := fun hv => by
      have hcased := hfront hu
      rw [hv.startsCased_eq] at hcased
      exact Bool.false_ne_true hcased
    rw [startsCased_append_of_not_ignored hv, hfront hu, Bool.not_true, Bool.and_false,
      Bool.and_false]
  · have hu' : ¬ Ignored u.reverse := fun hr => hu (u.reverse_reverse ▸ hr.reverse)
    rw [startsCased_append_of_not_ignored hu']
    by_cases hv : Ignored v
    · rw [hback hv, Bool.false_and, Bool.false_and]
    · rw [startsCased_append_of_not_ignored hv]

/-! ## A letter beside a loose sigma -/

/-- The lower-case form of a text has the same length wherever the text stands. -/
theorem length_lowerFrom (before s : List Char) :
    (lowerFrom before s).length = (s.flatMap lowerChar).length := by
  induction s generalizing before with
  | nil => rfl
  | cons c cs ih =>
    have hlength : (lowerAt before c cs).length = (lowerChar c).length := by
      by_cases hc : c = 'Σ'
      · rw [hc]
        rfl
      · rw [lowerAt_of_ne hc]
    rw [lowerFrom, List.flatMap_cons, List.length_append, List.length_append, ih, hlength]

/-- No sigma and no character that case ignores becomes the letter a. -/
theorem of_mem_lowerAt {before after : List Char} {c : Char} (h : 'a' ∈ lowerAt before c after) :
    isCaseIgnorable c = false ∧ c ≠ 'Σ' := by
  rcases mem_lowerAt_cases h with rfl | ⟨-, -, hsmall⟩ | ha | ha | ha
  · decide
  · have hcapital : c.toNat = 'A'.toNat := Nat.add_right_cancel hsmall.symm
    rw [Char.toNat_inj.mp hcapital]
    decide
  all_goals exact absurd ha (by decide)

theorem notMem_head?_toLower {u v : List Char} (hu : Ignored u) :
    'a' ∉ (toLower (u ++ 'Σ' :: v)).head? := by
  have hfirst : ∀ c cs, isCaseIgnorable c = true ∨ c = 'Σ' → 'a' ∉ (toLower (c :: cs)).head? := by
    intro c cs hc ha
    rw [toLower, lowerFrom, List.head?_append_of_ne_nil _ (lowerAt_ne_nil _ _ _)] at ha
    obtain ⟨hignored, hsigma⟩ := of_mem_lowerAt (List.mem_of_mem_head? ha)
    exact hc.elim (Bool.eq_false_iff.mp hignored) hsigma
  cases u with
  | nil => exact hfirst 'Σ' v (.inr rfl)
  | cons c u => exact hfirst c (u ++ 'Σ' :: v) (.inl (hu c List.mem_cons_self))

theorem notMem_getLast?_toLower {u v : List Char} (hv : Ignored v) :
    'a' ∉ (toLower (u ++ 'Σ' :: v)).getLast? := by
  have hlast : ∀ cs c, isCaseIgnorable c = true ∨ c = 'Σ' →
      'a' ∉ (toLower (cs ++ [c])).getLast? := by
    intro cs c hc ha
    obtain ⟨front, hfront⟩ := lowerFrom_isSuffix [] cs [c]
    have hend : lowerFrom (cs.reverse ++ []) [c] = lowerAt (cs.reverse ++ []) c [] :=
      List.append_nil _
    rw [toLower, ← hfront, hend, List.getLast?_append_of_ne_nil _ (lowerAt_ne_nil _ _ _)] at ha
    obtain ⟨hignored, hsigma⟩ := of_mem_lowerAt (List.mem_of_mem_getLast? ha)
    exact hc.elim (Bool.eq_false_iff.mp hignored) hsigma
  rcases List.eq_nil_or_concat v with rfl | ⟨w, c, rfl⟩
  · exact hlast u 'Σ' (.inr rfl)
  · have hc : isCaseIgnorable c = true := hv c (by simp)
    have happend : u ++ 'Σ' :: (w ++ [c]) = (u ++ 'Σ' :: w) ++ [c] := by simp
    rw [List.concat_eq_append, happend]
    exact hlast _ c (.inl hc)

/-- A piece as long as a text that is inside the text with one more element in front is the text,
unless it begins with this element. -/
theorem eq_of_infix_cons {α : Type*} {a : α} {piece l : List α} (h : piece <:+: a :: l)
    (hlength : piece.length = l.length) (ha : a ∉ piece.head?) : piece = l := by
  rcases List.infix_cons_iff.mp h with hstart | hrest
  · cases piece with
    | nil => exact (List.eq_nil_of_length_eq_zero hlength.symm).symm
    | cons d ds =>
      obtain ⟨rfl, -⟩ := List.cons_prefix_cons.mp hstart
      exact absurd (Option.mem_some_self d) ha
  · exact hrest.eq_of_length hlength

theorem eq_of_infix_concat {α : Type*} {a : α} {piece l : List α} (h : piece <:+: l ++ [a])
    (hlength : piece.length = l.length) (ha : a ∉ piece.getLast?) : piece = l := by
  have hreverse : piece.reverse <:+: a :: l.reverse := by
    rw [← List.reverse_concat', List.reverse_infix]
    exact h
  refine List.reverse_injective (eq_of_infix_cons hreverse ?_ ?_)
  · rw [List.length_reverse, List.length_reverse, hlength]
  · rwa [List.head?_reverse]

/-- A letter in front of a text changes its first sigma if this is loose in front. -/
theorem not_toLower_infix_cons {u v : List Char} (hu : Ignored u) (hv : startsCased v = false) :
    ¬ toLower (u ++ 'Σ' :: v) <:+: toLower ('a' :: (u ++ 'Σ' :: v)) := by
  intro hinfix
  have hletter : toLower ('a' :: (u ++ 'Σ' :: v)) = 'a' :: lowerFrom ['a'] (u ++ 'Σ' :: v) := rfl
  rw [hletter] at hinfix
  have hsame : toLower (u ++ 'Σ' :: v) = lowerFrom ['a'] (u ++ 'Σ' :: v) :=
    eq_of_infix_cons hinfix (by rw [toLower, length_lowerFrom, length_lowerFrom])
      (notMem_head?_toLower hu)
  have hforms : SameSigmas ['a'] (u ++ 'Σ' :: v) [] :=
    (toLower_isPrefix_iff _ _ _).mp (by rw [List.append_nil]; exact hsame ▸ List.prefix_rfl)
  -- behind the letter the sigma ends a word, and alone it does not
  have hform := hforms u v rfl
  rw [endsWord, endsWord, hu.reverse.startsCased_append, hu.reverse.startsCased_eq, List.append_nil,
    hv] at hform
  exact absurd hform (by decide)

/-- A letter behind a text changes its last sigma if this is loose behind. -/
theorem not_toLower_infix_concat {u v : List Char} (hu : startsCased u.reverse = true)
    (hv : Ignored v) : ¬ toLower (u ++ 'Σ' :: v) <:+: toLower (u ++ 'Σ' :: v ++ ['a']) := by
  intro hinfix
  obtain ⟨front, hfront⟩ := lowerFrom_isSuffix [] (u ++ 'Σ' :: v) ['a']
  have hletter : toLower (u ++ 'Σ' :: v ++ ['a']) = front ++ ['a'] := hfront.symm
  have hlength : (toLower (u ++ 'Σ' :: v)).length = front.length := by
    have hboth := congrArg List.length hletter
    rw [toLower, length_lowerFrom, List.flatMap_append, List.length_append,
      List.length_append] at hboth
    rw [toLower, length_lowerFrom]
    exact Nat.add_right_cancel hboth
  rw [hletter] at hinfix
  have hsame : toLower (u ++ 'Σ' :: v) = front :=
    eq_of_infix_concat hinfix hlength (notMem_getLast?_toLower hv)
  have hforms : SameSigmas [] (u ++ 'Σ' :: v) ['a'] :=
    (toLower_isPrefix_iff _ _ _).mp ⟨['a'], by rw [hsame]; exact hfront⟩
  -- alone the sigma ends a word, and before the letter it does not
  have hform := hforms u v rfl
  rw [List.reverse_nil, List.append_nil, endsWord, endsWord, hv.startsCased_append,
    hv.startsCased_eq, hu] at hform
  exact absurd hform (by decide)

/-- **A text occurs in lower case wherever it occurs** if it has no loose sigma, and only then. -/
theorem toLower_infix_iff (s : List Char) :
    (∀ front back, toLower s <:+: toLower (front ++ s ++ back)) ↔ ¬ HasLooseSigma s := by
  constructor
  · rintro h ⟨u, v, rfl, ⟨hu, hv⟩ | ⟨hu, hv⟩⟩
    · exact not_toLower_infix_cons hu hv (by simpa using h ['a'] [])
    · exact not_toLower_infix_concat hu hv (by simpa using h [] ['a'])
  · exact fun h front back => (sameSigmas_of_not_hasLooseSigma h front back).toLower_isInfix

end Text
end WindowRules
