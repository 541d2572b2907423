import WindowRules.Pattern.Escape
import WindowRules.Text.Lowercase

/-!
# Lower case, character by character

What a character becomes is the character itself, a small letter or something above ASCII
(`mem_lowerAt_cases`), and it is never nothing (`lowerAt_ne_nil`).

So the special characters of patterns are fixed: each is its own lower-case form, and is in that of
no other character (`lowerAt_of_isSpecial`, `eq_of_mem_lowerAt`).
-/

namespace WindowRules
namespace Text

open Pattern Unicode

/-! ## What becomes of a character -/

/-- The partners in the table of lower-case letters are the letter k and letters above ASCII. -/
theorem partner?_of_mem_lowerRuns {r : PairRun} (hr : r ∈ lowerRuns) {n l : Nat}
    (h : r.partner? n = some l) : l = 0x6b ∨ 0x80 ≤ l ∧ l.isValidChar := by
  have hruns : ∀ r ∈ lowerRuns, r.first = r.last ∧ r.partner = 0x6b ∨
      0x80 ≤ r.partner ∧ (r.partner + (r.last - r.first) < 0xd800 ∨
        0xdfff < r.partner ∧ r.partner + (r.last - r.first) < 0x110000) := by
    decide +kernel
  unfold PairRun.partner? at h
  split at h
  · next hn =>
    obtain rfl := Option.some.inj h
    rcases hruns r hr with ⟨hone, hk⟩ | ⟨hlarge, hvalid⟩
    · left
      omega
    · right
      unfold Nat.isValidChar
      omega
  · exact absurd h nofun

/-- A lower-case form has the character itself, or it has what is no capital and no mark of ASCII: a
small letter or a character above ASCII. -/
theorem mem_lowerAt_cases {before after : List Char} {c d : Char} (h : d ∈ lowerAt before c after) :
    d = c ∨ (0x41 ≤ c.toNat ∧ c.toNat ≤ 0x5a ∧ d.toNat = c.toNat + 0x20) ∨ d = 'i' ∨ d = 'k' ∨
      0x80 ≤ d.toNat := by
  have hofNat : ∀ {n : Nat}, n.isValidChar → d = Char.ofNat n → d.toNat = n := by
    rintro n hn rfl
    rw [Char.ofNat, dif_pos hn]
    rfl
  have hlarge : ∀ {n : Nat}, n.isValidChar ∧ 0x80 ≤ n → d = Char.ofNat n → 0x80 ≤ d.toNat :=
    fun hn hd => hofNat hn.1 hd ▸ hn.2
  unfold lowerAt at h
  split at h
  · have hsigma : d = 'ς' ∨ d = 'σ' := by
      rw [List.mem_singleton] at h
      split at h
      · exact .inl h
      · exact .inr h
    exact .inr (.inr (.inr (.inr (hsigma.elim (hlarge (by decide)) (hlarge (by decide))))))
  unfold lowerChar at h
  split at h
  · split at h
    · next hupper =>
      have hlow : 0x41 ≤ c.toNat := UInt32.le_iff_toNat_le.mp hupper.1
      have hhigh : c.toNat ≤ 0x5a := UInt32.le_iff_toNat_le.mp hupper.2
      have hvalid : (c.toNat + 0x20).isValidChar := .inl (by omega)
      exact .inr (.inl ⟨hlow, hhigh, hofNat hvalid (List.mem_singleton.mp h)⟩)
    · exact .inl (List.mem_singleton.mp h)
  split at h
  · rcases List.mem_cons.mp h with hi | hdot
    · exact .inr (.inr (.inl hi))
    · exact .inr (.inr (.inr (.inr (hlarge (by decide) (List.mem_singleton.mp hdot)))))
  -- a sigma is no case any more
  split at h
  · next l hl =>
    obtain ⟨r, hr, hpartner⟩ := List.exists_of_findSome?_eq_some hl
    rcases partner?_of_mem_lowerRuns hr hpartner with rfl | ⟨hl, hvalid⟩
    · exact .inr (.inr (.inr (.inl (List.mem_singleton.mp h))))
    · exact .inr (.inr (.inr (.inr (hlarge ⟨hvalid, hl⟩ (List.mem_singleton.mp h)))))
  · exact .inl (List.mem_singleton.mp h)

theorem lowerAt_ne_nil (before : List Char) (c : Char) (after : List Char) :
    lowerAt before c after ≠ [] := by
  unfold lowerAt
  split
  · exact List.cons_ne_nil _ _
  unfold lowerChar
  split
  · split <;> exact List.cons_ne_nil _ _
  split
  · exact List.cons_ne_nil _ _
  split <;> exact List.cons_ne_nil _ _

/-! ## Special characters -/

/-- Lower case leaves special characters alone. -/
theorem lowerAt_of_isSpecial {c : Char} (hc : isSpecial c = true) (before after : List Char) :
    lowerAt before c after = [c] := by
  have hall : (specialChars.all fun d => d ≠ 'Σ' ∧ lowerChar d = [d]) = true := by decide
  obtain ⟨hne, hlower⟩ := of_decide_eq_true
    (List.all_eq_true.mp hall c (List.contains_iff_mem.mp hc))
  rw [lowerAt, if_neg hne, hlower]

/-- Where the special characters are among the code points. -/
theorem toNat_of_isSpecial {c : Char} (hc : isSpecial c = true) :
    c.toNat < 0x61 ∨ 0x7a < c.toNat ∧ c.toNat < 0x80 := by
  have hall : (specialChars.all fun d =>
      d.toNat < 0x61 ∨ 0x7a < d.toNat ∧ d.toNat < 0x80) = true := by
    decide
  exact of_decide_eq_true (List.all_eq_true.mp hall c (List.contains_iff_mem.mp hc))

/-- A special character is in the lower-case form of no other character. -/
theorem eq_of_mem_lowerAt {before after : List Char} {c d : Char} (h : d ∈ lowerAt before c after)
    (hd : isSpecial d = true) : d = c := by
  have hcode := toNat_of_isSpecial hd
  rcases mem_lowerAt_cases h with hsame | ⟨hlow, hhigh, hsmall⟩ | rfl | rfl | hlarge
  · exact hsame
  · omega
  · exact absurd hd (by decide)
  · exact absurd hd (by decide)
  · omega

end Text
end WindowRules
