import Mathlib.Data.List.DropRight
import Mathlib.Data.List.TakeWhile
import WindowRules.Text.Blank

/-!
# Scanning and trimming

Readers of the library scan: they take characters as long as a test holds, and go on
behind them.  Two facts about scanning carry most of what is proved about them.  A
character that fails the test stops the scan wherever it stands, so what follows it has
no influence (`takeWhile_append_cons`, `dropWhile_append_cons`); and a blank at the very
end of a scanned text is gone after trimming (`trimEnd_takeWhile_concat`).

* `trimEnd_eq_rdropWhile`: trimming at the end is `List.rdropWhile`.
* `trimEnd_eq_self`, `isBlank_getLast?_trimEnd`: a text is trimmed at its end exactly when it
  does not end in a blank.
* `AllBlank.append_trim`: blanks behind a text, however many, make no difference to what is trimmed.
-/

namespace WindowRules
namespace Text

/-! ## Scanning up to a character -/

section Scanning

variable {α : Type*} {p : α → Bool} {x : α}

/-- An element that fails the test ends the scan. -/
theorem takeWhile_append_cons (hx : p x = false) (l m : List α) :
    (l ++ x :: m).takeWhile p = l.takeWhile p := by
  rw [List.takeWhile_append]
  split
  · next h =>
    rw [List.takeWhile_cons_of_neg (by simp [hx]), List.append_nil]
    exact ((List.takeWhile_prefix p).eq_of_length h).symm
  · rfl

/-- What is left after a scan, when an element that fails the test comes later on. -/
theorem dropWhile_append_cons (hx : p x = false) (l m : List α) :
    (l ++ x :: m).dropWhile p = l.dropWhile p ++ x :: m := by
  rw [List.dropWhile_append]
  split
  · next h =>
    rw [List.dropWhile_cons_of_neg (by simp [hx]), List.isEmpty_iff.mp h, List.nil_append]
  · rfl

/-- A scan takes all of what passes the test, up to an element that fails it. -/
theorem takeWhile_append_cons_of_all {l : List α} (hl : ∀ a ∈ l, p a = true) (hx : p x = false)
    (m : List α) : (l ++ x :: m).takeWhile p = l := by
  rw [takeWhile_append_cons hx, List.takeWhile_eq_self_iff.mpr hl]

theorem dropWhile_append_cons_of_all {l : List α} (hl : ∀ a ∈ l, p a = true) (hx : p x = false)
    (m : List α) : (l ++ x :: m).dropWhile p = x :: m := by
  rw [dropWhile_append_cons hx, List.dropWhile_eq_nil_iff.mpr hl, List.nil_append]

/-- One more element at the end is left over, unless all is scanned. -/
theorem dropWhile_concat (p : α → Bool) (l : List α) (x : α) :
    (l ++ [x]).dropWhile p = l.dropWhile p ++ [x] ∨
      (l.dropWhile p = [] ∧ (l ++ [x]).dropWhile p = []) := by
  rw [List.dropWhile_append]
  split
  · next h =>
    have hnil : l.dropWhile p = [] := List.isEmpty_iff.mp h
    cases hp : p x with
    | true => exact Or.inr ⟨hnil, List.dropWhile_cons_of_pos hp⟩
    | false => exact Or.inl (by rw [hnil, List.dropWhile_cons_of_neg (by simp [hp])]; rfl)
  · exact Or.inl rfl

/-- Where a scan is over, the element that ended it fails the test. -/
theorem apply_head_dropWhile {l : List α} (h : x ∈ (l.dropWhile p).head?) : p x = false := by
  have hhead := List.head?_dropWhile_not p l
  rwa [Option.mem_def.mp h] at hhead

end Scanning

/-! ## Trimming at the end -/

theorem trimEnd_eq_rdropWhile (s : List Char) : trimEnd s = s.rdropWhile isBlank := by
  induction s with
  | nil => rfl
  | cons c cs ih =>
    rw [trimEnd, ih, List.rdropWhile, List.rdropWhile, List.reverse_cons, List.dropWhile_append]
    cases hr : cs.reverse.dropWhile isBlank with
    | nil => cases hc : isBlank c <;> simp [List.dropWhile, hc]
    | cons d ds =>
      -- something of the rest is left, so the first character stays whatever it is
      have hne : (d :: ds).reverse ≠ [] := by simp
      obtain ⟨e, es, hes⟩ := List.exists_cons_of_ne_nil hne
      rw [List.isEmpty_cons, if_neg Bool.false_ne_true, List.reverse_append, hes]
      rfl

/-- A blank at the end is trimmed. -/
theorem trimEnd_concat {c : Char} (hc : isBlank c = true) (s : List Char) :
    trimEnd (s ++ [c]) = trimEnd s := by
  rw [trimEnd_eq_rdropWhile, trimEnd_eq_rdropWhile, List.rdropWhile_concat_pos _ _ _ hc]

/-- A blank at the end of a scanned text is trimmed, whether the scan reaches it or not. -/
theorem trimEnd_takeWhile_concat {c : Char} (hc : isBlank c = true) (p : Char → Bool)
    (s : List Char) : trimEnd ((s ++ [c]).takeWhile p) = trimEnd (s.takeWhile p) := by
  rw [List.takeWhile_append]
  split
  · next h =>
    rw [(List.takeWhile_prefix p).eq_of_length h]
    cases hp : p c with
    | true => rw [List.takeWhile_cons_of_pos hp, List.takeWhile_nil, trimEnd_concat hc]
    | false => rw [List.takeWhile_cons_of_neg (by simp [hp]), List.append_nil]
  · rfl

theorem trimEnd_isPrefix (s : List Char) : trimEnd s <+: s := by
  rw [trimEnd_eq_rdropWhile]
  exact List.rdropWhile_prefix _ s

/-- A text that does not end in a blank is left alone. -/
theorem trimEnd_eq_self {s : List Char} (h : ∀ c ∈ s.getLast?, isBlank c = false) :
    trimEnd s = s := by
  rw [trimEnd_eq_rdropWhile, List.rdropWhile_eq_self_iff]
  intro hne
  rw [h _ (List.getLast?_eq_some_getLast hne)]
  exact Bool.false_ne_true

/-- A trimmed text does not end in a blank. -/
theorem isBlank_getLast?_trimEnd {s : List Char} {c : Char} (h : c ∈ (trimEnd s).getLast?) :
    isBlank c = false := by
  rw [trimEnd_eq_rdropWhile] at h
  have hne : s.rdropWhile isBlank ≠ [] := by
    intro hnil
    rw [hnil] at h
    exact absurd h (by simp)
  have hlast := List.rdropWhile_last_not isBlank s hne
  rw [List.getLast?_eq_some_getLast hne, Option.mem_some_iff] at h
  rw [h] at hlast
  exact Bool.eq_false_iff.mpr hlast

/-! ## Texts of blanks -/

/-- A text of blanks. -/
def AllBlank (g : List Char) : Prop := ∀ c ∈ g, isBlank c = true

instance : DecidablePred AllBlank := fun _ => decidable_of_iff _ List.all_eq_true

theorem AllBlank.trimStart_append {g : List Char} (hg : AllBlank g) (s : List Char) :
    trimStart (g ++ s) = trimStart s :=
  List.dropWhile_append_of_pos hg

theorem AllBlank.trimEnd_append {g : List Char} (hg : AllBlank g) (s : List Char) :
    trimEnd (s ++ g) = trimEnd s := by
  induction g generalizing s with
  | nil => rw [List.append_nil]
  | cons c g ih =>
    obtain ⟨hc, hg⟩ := List.forall_mem_cons.mp hg
    rw [List.append_cons, ih hg, trimEnd_concat hc]

theorem AllBlank.append_trim {g : List Char} (hg : AllBlank g) (s : List Char) :
    trim (s ++ g) = trim s := by
  rw [trim, trim, trimStart, trimStart, List.dropWhile_append]
  split
  · next hs => rw [List.isEmpty_iff.mp hs, List.dropWhile_eq_nil_iff.mpr hg]
  · exact hg.trimEnd_append _

end Text
end WindowRules
