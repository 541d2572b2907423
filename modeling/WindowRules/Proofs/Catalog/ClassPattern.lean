import Mathlib.Data.List.Chain
import WindowRules.Catalog
import WindowRules.Proofs.Text.Sigma

/-!
# Classes in the text of a suggested pattern

A suggested pattern writes each class of an application with a backslash before every special
character.  Whether the class is still in the text of the pattern, case left aside, depends on where
its special characters are:

* if they have only backslashes before them, the backslashes that are added come before the class
  and it is there as a piece (`App.toLower_infix_classPattern`);
* if a full stop, a hyphen or another *inner* character comes behind a character that is no
  backslash, it is not there, nor in the text of any other suggestion
  (`App.not_toLower_infix_classPattern`), since in a pattern these always have a backslash just
  before them (`App.sheltered_classPattern`).

Inner characters are the special ones that take no part in putting the classes together.  Of the
others, a bar for instance can be there by chance, between two classes.
-/

namespace WindowRules

namespace Pattern

theorem escape_cons (c : Char) (s : List Char) :
    escape (c :: s) = (if isSpecial c then ['\\', c] else [c]) ++ escape s :=
  List.flatMap_cons

/-- A text without special characters is written as it is. -/
theorem escape_eq_self {s : List Char} (h : ∀ c ∈ s, isSpecial c = false) : escape s = s := by
  induction s with
  | nil => rfl
  | cons c cs ih =>
    obtain ⟨hc, hcs⟩ := List.forall_mem_cons.mp h
    rw [escape_cons, ih hcs, hc]
    rfl

/-- The special characters of a text have only backslashes before them. -/
def SpecialInFront (s : List Char) : Prop := s.Pairwise fun d c => isSpecial c = true → d = '\\'

instance : DecidablePred SpecialInFront := fun s =>
  inferInstanceAs (Decidable (s.Pairwise _))

/-- **Then the backslashes that are added come before the text.** -/
theorem SpecialInFront.exists_escape_eq {s : List Char} (h : SpecialInFront s) :
    ∃ n, escape s = List.replicate n '\\' ++ s := by
  induction s with
  | nil => exact ⟨0, rfl⟩
  | cons c cs ih =>
    obtain ⟨hc, hcs⟩ := List.pairwise_cons.mp h
    by_cases hslash : c = '\\'
    · obtain ⟨n, hn⟩ := ih hcs
      refine ⟨n + 1, ?_⟩
      calc escape (c :: cs) = List.replicate (n + 2) '\\' ++ cs := by
            rw [escape_cons, hn, hslash]
            rfl
        _ = List.replicate (n + 1) '\\' ++ c :: cs := by
            rw [List.replicate_succ', List.append_assoc, hslash]
            rfl
    · have hplain : ∀ d ∈ cs, isSpecial d = false := fun d hd =>
        Bool.eq_false_iff.mpr fun hspecial => hslash (hc d hd hspecial)
      rw [escape_cons, escape_eq_self hplain]
      split
      · exact ⟨1, rfl⟩
      · exact ⟨0, rfl⟩

/-- The special characters that have no part in joining the classes of a pattern. -/
def innerChars : List Char := ['.', '+', '*', '?', '[', ']', '{', '}', '#', '&', '-', '~']

theorem isSpecial_of_mem_innerChars {c : Char} (h : c ∈ innerChars) : isSpecial c = true := by
  have hall : innerChars.all isSpecial = true := by decide
  exact List.all_eq_true.mp hall c h

/-- If the second of two characters is an inner one, then the first is a backslash. -/
def Guarded (d c : Char) : Prop := c ∈ innerChars → d = '\\'

instance (d c : Char) : Decidable (Guarded d c) := inferInstanceAs (Decidable (_ → _))

theorem guarded_of_notMem {d c : Char} (h : c ∉ innerChars) : Guarded d c := fun hc => absurd hc h

/-- Every inner character of a text has a backslash before it, in the text. -/
structure Sheltered (s : List Char) : Prop where
  chain : s.IsChain Guarded
  head : ∀ c ∈ s.head?, c ∉ innerChars

theorem Sheltered.append {s t : List Char} (hs : Sheltered s) (ht : Sheltered t) :
    Sheltered (s ++ t) where
  chain := List.isChain_append.mpr
    ⟨hs.chain, ht.chain, fun _ _ c hc => guarded_of_notMem (ht.head c hc)⟩
  head c hc := by
    rw [List.head?_append] at hc
    rcases Option.or_eq_some_iff.mp hc with hc | ⟨-, hc⟩
    · exact hs.head c hc
    · exact ht.head c hc

theorem sheltered_singleton {c : Char} (hc : c ∉ innerChars) : Sheltered [c] :=
  ⟨List.isChain_singleton c, fun _ hd => Option.some.inj hd ▸ hc⟩

/-- **Escaped texts are sheltered.** -/
theorem sheltered_escape (s : List Char) : Sheltered (escape s) := by
  induction s with
  | nil => exact ⟨List.IsChain.nil, fun _ => nofun⟩
  | cons c cs ih =>
    rw [escape_cons]
    refine Sheltered.append ?_ ih
    split
    · exact ⟨List.isChain_pair.mpr fun _ => rfl, fun d hd => Option.some.inj hd ▸ by decide⟩
    · next hc => exact sheltered_singleton (mt isSpecial_of_mem_innerChars hc)

/-- Sheltered texts with bars between them are sheltered. -/
theorem sheltered_intercalate {pieces : List (List Char)} (h : ∀ piece ∈ pieces, Sheltered piece) :
    Sheltered (['|'].intercalate pieces) := by
  induction pieces with
  | nil => exact ⟨List.IsChain.nil, fun _ => nofun⟩
  | cons piece pieces ih =>
    obtain ⟨hpiece, hpieces⟩ := List.forall_mem_cons.mp h
    by_cases hne : pieces = []
    · rw [hne, List.intercalate_singleton]
      exact hpiece
    · rw [List.intercalate_cons_of_ne_nil hne]
      exact (hpiece.append (sheltered_singleton (by decide))).append (ih hpieces)

end Pattern

/-! ## Lower case -/

namespace Text

open Pattern

theorem isChain_lowerAt (before : List Char) (c : Char) (after : List Char) :
    (lowerAt before c after).IsChain Guarded := by
  by_cases hc : isSpecial c = true
  · rw [lowerAt_of_isSpecial hc]
    exact List.isChain_singleton c
  · refine (List.pairwise_of_forall_sublist fun {d e} hde he => ?_).isChain
    have hmem : e ∈ lowerAt before c after := hde.subset (by simp)
    have hspecial := isSpecial_of_mem_innerChars he
    exact absurd (eq_of_mem_lowerAt hmem hspecial ▸ hspecial) hc

/-- The last character of the lower-case form is a backslash if the character is one. -/
theorem getLast?_lowerAt_eq_iff {before after : List Char} {c d : Char}
    (hd : d ∈ (lowerAt before c after).getLast?) : d = '\\' ↔ c = '\\' := by
  constructor
  · rintro rfl
    exact (eq_of_mem_lowerAt (List.mem_of_getLast? hd) (by decide)).symm
  · rintro rfl
    rw [lowerAt_of_isSpecial (by decide)] at hd
    exact (Option.some.inj hd).symm

/-- An inner character comes first in lower case if it comes first. -/
theorem head?_lowerFrom_iff {before s : List Char} {c : Char} (hc : c ∈ innerChars) :
    c ∈ (lowerFrom before s).head? ↔ c ∈ s.head? := by
  cases s with
  | nil => rfl
  | cons d ds =>
    have hspecial := isSpecial_of_mem_innerChars hc
    rw [lowerFrom, List.head?_append_of_ne_nil _ (lowerAt_ne_nil before d ds), List.head?_cons,
      Option.mem_some_iff]
    constructor
    · intro h
      exact (eq_of_mem_lowerAt (List.mem_of_mem_head? h) hspecial).symm
    · rintro rfl
      rw [lowerAt_of_isSpecial hspecial]
      rfl

/-- **Lower case neither guards inner characters nor bares them.** -/
theorem isChain_lowerFrom_iff (before s : List Char) :
    (lowerFrom before s).IsChain Guarded ↔ s.IsChain Guarded := by
  induction s generalizing before with
  | nil => exact Iff.rfl
  | cons c cs ih =>
    obtain ⟨d, hd⟩ := Option.ne_none_iff_exists'.mp
      (mt List.getLast?_eq_none_iff.mp (lowerAt_ne_nil before c cs))
    have hjoin : (∀ x ∈ (lowerAt before c cs).getLast?, ∀ y ∈ (lowerFrom (c :: before) cs).head?,
        Guarded x y) ↔ ∀ y ∈ cs.head?, Guarded c y := by
      have hslash := getLast?_lowerAt_eq_iff hd
      constructor
      · intro h y hy hinner
        exact hslash.mp (h d hd y ((head?_lowerFrom_iff hinner).mpr hy) hinner)
      · intro h x hx y hy hinner
        obtain rfl := Option.mem_unique hd hx
        exact hslash.mpr (h y ((head?_lowerFrom_iff hinner).mp hy) hinner)
    rw [lowerFrom, List.isChain_append, List.isChain_cons, hjoin, ih,
      and_iff_right (isChain_lowerAt before c cs), and_comm]

end Text

/-! ## Alternatives -/

namespace App

open Pattern Text

/-- The classes of an application as they are written in its pattern, with bars between them. -/
def alternatives (a : App) : List Char :=
  ['|'].intercalate (a.classes.map fun k => escape k.toList)

/-- A single class stands alone in the pattern, and several stand in parentheses. -/
theorem toList_classPattern_cases (a : App) :
    (∃ k, a.classes = [k] ∧ a.classPattern.toList = ['^'] ++ escape k.toList ++ ['$']) ∨
      a.classPattern.toList = ['^', '('] ++ a.alternatives ++ [')', '$'] := by
  have hescaped : (a.classes.map literal).map String.toList =
      a.classes.map fun k => escape k.toList := by
    rw [List.map_map]
    exact List.map_congr_left fun k _ => String.toList_ofList
  unfold classPattern alternatives
  rw [← hescaped]
  split
  · next single hsingle =>
    obtain ⟨k, hk, rfl⟩ := List.map_eq_singleton_iff.mp hsingle
    have hliteral : (literal k).toList = escape k.toList := String.toList_ofList
    rw [String.toList_append, String.toList_append, hliteral]
    exact .inl ⟨k, hk, rfl⟩
  · rw [String.toList_append, String.toList_append, String.toList_intercalate]
    exact .inr rfl

/-- The alternatives of a pattern stand in parentheses, unless there is just one. -/
theorem toList_classPattern (a : App) :
    a.classPattern.toList = ['^'] ++ a.alternatives ++ ['$'] ∨
      a.classPattern.toList = ['^', '('] ++ a.alternatives ++ [')', '$'] := by
  refine a.toList_classPattern_cases.imp_left ?_
  rintro ⟨k, hk, hpattern⟩
  rw [hpattern, alternatives, hk, List.map_singleton, List.intercalate_singleton]

/-- A piece of a text with bars stands at the front or behind a bar, and at the end or before
one. -/
theorem exists_intercalate_eq {pieces : List (List Char)} {piece : List Char}
    (h : piece ∈ pieces) : ∃ x y, ['|'].intercalate pieces = x ++ piece ++ y ∧
      (x = [] ∨ ∃ x', x = x' ++ ['|']) ∧ (y = [] ∨ ∃ y', y = '|' :: y') := by
  induction pieces with
  | nil => exact absurd h List.not_mem_nil
  | cons p ps ih =>
    by_cases hne : ps = []
    · rw [hne, List.mem_singleton] at h
      rw [hne, h, List.intercalate_singleton]
      exact ⟨[], [], (List.append_nil p).symm, .inl rfl, .inl rfl⟩
    rw [List.intercalate_cons_of_ne_nil hne]
    rcases List.mem_cons.mp h with rfl | h
    · exact ⟨[], '|' :: ['|'].intercalate ps, by simp, .inl rfl, .inr ⟨_, rfl⟩⟩
    · obtain ⟨x, y, hxy, hx, hy⟩ := ih h
      refine ⟨p ++ ['|'] ++ x, y, by simp [hxy], .inr ?_, hy⟩
      rcases hx with rfl | ⟨x', rfl⟩
      · exact ⟨p, List.append_nil _⟩
      · exact ⟨p ++ ['|'] ++ x', (List.append_assoc _ _ _).symm⟩

theorem startsCased_bar (s : List Char) : startsCased ('|' :: s) = false := rfl

/-- Nothing of a pattern is seen from inside one of its alternatives. -/
theorem exists_classPattern_eq {a : App} {k : String} (hk : k ∈ a.classes) :
    ∃ x y, a.classPattern.toList = x ++ escape k.toList ++ y ∧
      startsCased x.reverse = false ∧ startsCased y = false := by
  obtain ⟨x, y, hxy, hx, hy⟩ := exists_intercalate_eq
    (List.mem_map_of_mem (f := fun k : String => escape k.toList) hk)
  have hside : ∀ l r : List Char, startsCased l.reverse = false → startsCased r = false →
      startsCased (l ++ x).reverse = false ∧ startsCased (y ++ r) = false := by
    intro l r hl hr
    rw [List.reverse_append, startsCased_append hl, startsCased_append hr]
    constructor
    · rcases hx with rfl | ⟨x', rfl⟩
      · rfl
      · rw [List.reverse_append]
        exact startsCased_bar _
    · rcases hy with rfl | ⟨y', rfl⟩
      · rfl
      · exact startsCased_bar y'
  rcases a.toList_classPattern with hpattern | hpattern
  · exact ⟨['^'] ++ x, y ++ ['$'], by rw [hpattern, alternatives, hxy]; simp,
      hside ['^'] ['$'] rfl rfl⟩
  · exact ⟨['^', '('] ++ x, y ++ [')', '$'], by rw [hpattern, alternatives, hxy]; simp,
      hside ['^', '('] [')', '$'] rfl rfl⟩

/-- **A class with its special characters in front** is in the text of the pattern, case left
aside. -/
theorem toLower_infix_classPattern {a : App} {k : String} (hk : k ∈ a.classes)
    (h : SpecialInFront k.toList) : toLower k.toList <:+: toLower a.classPattern.toList := by
  obtain ⟨x, y, hxy, hx, hy⟩ := exists_classPattern_eq hk
  obtain ⟨n, hn⟩ := h.exists_escape_eq
  have hadded : startsCased (x ++ List.replicate n '\\').reverse = false := by
    rw [List.reverse_append, List.reverse_replicate, startsCased_append hx]
    cases n <;> rfl
  rw [hxy, hn, ← List.append_assoc]
  exact toLower_infix hadded hy k.toList

/-- **In a suggested pattern every inner character has a backslash before it.** -/
theorem sheltered_classPattern (a : App) : Sheltered a.classPattern.toList := by
  have halternatives : Sheltered a.alternatives := by
    refine sheltered_intercalate fun piece hpiece => ?_
    obtain ⟨k, -, rfl⟩ := List.mem_map.mp hpiece
    exact sheltered_escape k.toList
  have hcaret : Sheltered ['^'] := sheltered_singleton (by decide)
  have hdollar : Sheltered ['$'] := sheltered_singleton (by decide)
  rcases a.toList_classPattern with hpattern | hpattern
  · rw [hpattern]
    exact (hcaret.append halternatives).append hdollar
  · have hopen : Sheltered ['('] := sheltered_singleton (by decide)
    have hclose : Sheltered [')'] := sheltered_singleton (by decide)
    rw [hpattern]
    exact ((hcaret.append hopen).append halternatives).append (hclose.append hdollar)

/-- **A class with an inner character behind another character than a backslash** is not in the text
of any pattern that is suggested. -/
theorem not_toLower_infix_classPattern {s : List Char} (h : ¬ s.IsChain Guarded) (a : App) :
    ¬ toLower s <:+: toLower a.classPattern.toList := by
  intro hinfix
  have hpattern : (toLower a.classPattern.toList).IsChain Guarded :=
    (isChain_lowerFrom_iff [] _).mpr a.sheltered_classPattern.chain
  have hpiece : (toLower s).IsChain Guarded := List.IsChain.infix hpattern hinfix
  exact h ((isChain_lowerFrom_iff [] s).mp hpiece)

end App

end WindowRules
