import WindowRules.Unicode.CharSet

/-!
# Members of sets of characters

Every operation on sets of characters goes through `CharSet.ofRanges`, which puts ranges in order
and joins those that overlap or touch.  This changes the ranges and not the members
(`CharSet.mem_ofRanges_iff`).  The joining looks at the lower ends only: a range joins the one
before it if it begins no later than one past its end, and as it does not begin earlier either, the
two are one range from the lower end of the first.
-/

namespace WindowRules
namespace CharSet

/-- A number lies in some range of a list. -/
def Covers (rs : List (Nat × Nat)) (n : Nat) : Prop := ∃ r ∈ rs, r.1 ≤ n ∧ n ≤ r.2

theorem covers_cons {r : Nat × Nat} {rs : List (Nat × Nat)} {n : Nat} :
    Covers (r :: rs) n ↔ (r.1 ≤ n ∧ n ≤ r.2) ∨ Covers rs n := by
  simp [Covers]

theorem mem_iff {s : CharSet} {c : Char} : s.mem c = true ↔ Covers s.ranges c.toNat := by
  simp [mem, Covers]

/-- Ranges are ordered by their lower ends at least. -/
theorem lower_le_of_rangeLe {a b : Nat × Nat} (h : rangeLe a b = true) : a.1 ≤ b.1 := by
  unfold rangeLe at h
  grind

/-- Joining neighbours leaves the same numbers covered. -/
theorem covers_coalesce {rs : List (Nat × Nat)} (hsorted : rs.Pairwise fun a b => a.1 ≤ b.1)
    {n : Nat} : Covers (ofRanges.coalesce none rs) n ↔ Covers rs n := by
  have hcarry : ∀ (rs : List (Nat × Nat)) (cur : Nat × Nat),
      (cur :: rs).Pairwise (fun a b => a.1 ≤ b.1) →
        (Covers (ofRanges.coalesce (some cur) rs) n ↔ Covers (cur :: rs) n) := by
    intro rs
    induction rs with
    | nil => exact fun cur _ => Iff.rfl
    | cons r rs ih =>
      intro cur hsorted
      obtain ⟨hcur, hr, hrs⟩ : (cur.1 ≤ r.1 ∧ ∀ b ∈ rs, cur.1 ≤ b.1) ∧
          (∀ b ∈ rs, r.1 ≤ b.1) ∧ rs.Pairwise fun a b => a.1 ≤ b.1 := by
        simpa using hsorted
      rw [ofRanges.coalesce]
      split
      · next htouch =>
        have hjoined := ih (cur.1, max cur.2 r.2) (List.pairwise_cons.mpr ⟨hcur.2, hrs⟩)
        rw [hjoined, covers_cons, covers_cons, covers_cons, ← or_assoc]
        refine or_congr_left ?_
        have hbegin := hcur.1
        dsimp only
        omega
      · have hapart := ih r (List.pairwise_cons.mpr ⟨hr, hrs⟩)
        rw [covers_cons, hapart, ← covers_cons]
  cases rs with
  | nil => exact Iff.rfl
  | cons r rs => exact hcarry rs r hsorted

/-- **Ranges in any order make the set of what they cover.** -/
theorem mem_ofRanges_iff {rs : List (Nat × Nat)} {c : Char} :
    (ofRanges rs).mem c = true ↔ Covers rs c.toNat := by
  have htrans : ∀ a b d : Nat × Nat,
      rangeLe a b = true → rangeLe b d = true → rangeLe a d = true := by
    unfold rangeLe
    grind
  have htotal : ∀ a b : Nat × Nat, (rangeLe a b || rangeLe b a) = true := by
    unfold rangeLe
    grind
  have hsorted : (rs.mergeSort rangeLe).Pairwise fun a b => a.1 ≤ b.1 :=
    (List.pairwise_mergeSort htrans htotal rs).imp lower_le_of_rangeLe
  have hperm : ∀ r, r ∈ rs.mergeSort rangeLe ↔ r ∈ rs := fun r => List.mem_mergeSort
  rw [mem_iff, ofRanges, covers_coalesce hsorted]
  simp only [Covers, hperm]

/-- The members of a union are those of the sets. -/
theorem mem_unions_iff {sets : List CharSet} {c : Char} :
    (unions sets).mem c = true ↔ ∃ s ∈ sets, s.mem c = true := by
  rw [unions, mem_ofRanges_iff]
  simp only [mem_iff, Covers, List.mem_flatMap]
  constructor
  · rintro ⟨r, ⟨s, hs, hr⟩, hc⟩
    exact ⟨s, hs, r, hr, hc⟩
  · rintro ⟨s, hs, r, hr, hc⟩
    exact ⟨r, ⟨s, hs, hr⟩, hc⟩

theorem mem_singleton_iff {c d : Char} : (singleton c).mem d = true ↔ d = c := by
  have hends : c.toNat ≤ d.toNat ∧ d.toNat ≤ c.toNat ↔ d = c := by
    rw [← Char.toNat_inj]
    omega
  simpa [mem_iff, Covers, singleton] using hends

end CharSet
end WindowRules
