import Mathlib.Data.Finset.Card
import Mathlib.Data.Finset.Range
import WindowRules.Pattern.Search
import WindowRules.Proofs.Pattern.Spans

/-!
# The rounds of a search

A search does arithmetic on numbers that stand for sets of places.  It is related here to relations
between places: a function on sets moves along a relation if it takes a set to the places that are
related to one of its members (`Moves`).

A repetition is searched in rounds.  After each of them the places seen so far are closed under one
more round, but for those that the last round brought (`Frontier`), so a round that brings nothing
new can be the last one.  Every other round brings a new place, and a text with `n` characters has
`n + 1` of them (`Frontier.closed_extendBy`), so `n + 1` rounds are as good as any number
(`Moves.extendBy_all`).
-/

namespace WindowRules
namespace Pattern

/-! ## Relations between places -/

/-- A relation so many times in a row, or more often. -/
def AtLeast (R : Nat → Nat → Prop) (min i j : Nat) : Prop := ∃ s, min ≤ s ∧ Times R s i j

/-- A relation so many times in a row, with a bound below and one above. -/
def Between (R : Nat → Nat → Prop) (min max i j : Nat) : Prop :=
  ∃ s, min ≤ s ∧ s ≤ max ∧ Times R s i j

section Relations

variable {R Q : Nat → Nat → Prop} {n i j k s t min : Nat}

theorem times_one_iff : Times R 1 i j ↔ R i j := by
  constructor
  · rintro ⟨k, hk, rfl⟩
    exact hk
  · intro h
    exact ⟨j, h, rfl⟩

theorem times_add_iff : Times R (s + t) i k ↔ ∃ j, Times R s i j ∧ Times R t j k := by
  induction s generalizing i with
  | zero =>
    rw [Nat.zero_add]
    constructor
    · intro h
      exact ⟨i, rfl, h⟩
    · rintro ⟨j, rfl, h⟩
      exact h
  | succ s ih =>
    rw [Nat.succ_add]
    constructor
    · rintro ⟨m, hm, h⟩
      obtain ⟨j, hj, hk⟩ := ih.mp h
      exact ⟨j, ⟨m, hm, hj⟩, hk⟩
    · rintro ⟨j, ⟨m, hm, hj⟩, hk⟩
      exact ⟨m, hm, ih.mpr ⟨j, hj, hk⟩⟩

theorem times_le (hle : ∀ {i j}, i ≤ n → R i j → j ≤ n) (hi : i ≤ n) (h : Times R s i j) :
    j ≤ n := by
  induction s generalizing i with
  | zero => exact h ▸ hi
  | succ s ih =>
    obtain ⟨m, hm, h⟩ := h
    exact ih (hle hi hm) h

/-- Relations that are the same on the places of a text are so however often they are taken. -/
theorem times_congr (hle : ∀ {i j}, i ≤ n → R i j → j ≤ n) (hRQ : ∀ {i j}, i ≤ n → (R i j ↔ Q i j))
    (hi : i ≤ n) : Times R s i j ↔ Times Q s i j := by
  induction s generalizing i with
  | zero => exact Iff.rfl
  | succ s ih =>
    refine exists_congr fun m => ?_
    rw [← hRQ hi]
    exact and_congr_right fun hm => ih (hle hi hm)

/-- Rows of rows are rows. -/
theorem atLeast_of_times_atLeast (h : Times (AtLeast R min) s i j) : AtLeast R (min * s) i j := by
  induction s generalizing i with
  | zero => exact ⟨0, Nat.le_refl 0, h⟩
  | succ s ih =>
    obtain ⟨k, ⟨t, ht, hik⟩, hkj⟩ := h
    obtain ⟨u, hu, hkj⟩ := ih hkj
    refine ⟨t + u, ?_, times_add_iff.mpr ⟨k, hik, hkj⟩⟩
    rw [Nat.mul_succ]
    omega

/-- **What is repeated without bound needs no second loop**: one round of it is as good as any
number. -/
theorem exists_times_atLeast {inner outer : Nat} (hinner : inner ≤ 1) (houter : outer ≤ 1)
    (h : AtLeast R (inner * outer) i j) :
    ∃ s, outer ≤ s ∧ s ≤ 1 ∧ Times (AtLeast R inner) s i j := by
  obtain ⟨t, ht, htimes⟩ := h
  by_cases hit : inner ≤ t
  · exact ⟨1, houter, Nat.le_refl 1, times_one_iff.mpr ⟨t, hit, htimes⟩⟩
  · obtain rfl : t = 0 := by omega
    obtain rfl : inner = 1 := by omega
    exact ⟨0, by omega, Nat.zero_le 1, htimes⟩

end Relations

/-! ## Sets of places -/

/-- A set has places of a text only. -/
def Within (n places : Nat) : Prop := ∀ i, places.testBit i = true → i ≤ n

/-- A function on sets of places takes each place along a relation. -/
structure Moves (n : Nat) (f : Nat → Nat) (R : Nat → Nat → Prop) : Prop where
  le : ∀ {i j}, i ≤ n → R i j → j ≤ n
  testBit_iff : ∀ {places}, Within n places → ∀ {j}, (f places).testBit j = true ↔
    ∃ i, places.testBit i = true ∧ R i j

section Sets

variable {n : Nat} {f g : Nat → Nat} {R Q : Nat → Nat → Prop}

theorem Moves.within (h : Moves n f R) {places : Nat} (hp : Within n places) :
    Within n (f places) := by
  intro j hj
  obtain ⟨i, hi, hij⟩ := (h.testBit_iff hp).mp hj
  exact h.le (hp i hi) hij

theorem Moves.comp (hf : Moves n f R) (hg : Moves n g Q) :
    Moves n (fun places => g (f places)) fun i k => ∃ j, R i j ∧ Q j k where
  le := by
    rintro i k hi ⟨j, hij, hjk⟩
    exact hg.le (hf.le hi hij) hjk
  testBit_iff := by
    intro places hp k
    rw [hg.testBit_iff (hf.within hp)]
    constructor
    · rintro ⟨j, hj, hjk⟩
      obtain ⟨i, hi, hij⟩ := (hf.testBit_iff hp).mp hj
      exact ⟨i, hi, j, hij, hjk⟩
    · rintro ⟨i, hi, j, hij, hjk⟩
      exact ⟨j, (hf.testBit_iff hp).mpr ⟨i, hi, hij⟩, hjk⟩

theorem Moves.or (hf : Moves n f R) (hg : Moves n g Q) :
    Moves n (fun places => f places ||| g places) fun i j => R i j ∨ Q i j where
  le := by
    rintro i j hi (h | h)
    · exact hf.le hi h
    · exact hg.le hi h
  testBit_iff := by
    intro places hp j
    rw [Nat.testBit_or, Bool.or_eq_true, hf.testBit_iff hp, hg.testBit_iff hp, ← exists_or]
    exact exists_congr fun i => and_or_left.symm

theorem Moves.iterateStep (h : Moves n f R) (s : Nat) : Moves n (iterateStep f s) (Times R s) where
  le hi ht := times_le h.le hi ht
  testBit_iff := by
    induction s with
    | zero =>
      intro places _ j
      constructor
      · intro hj
        exact ⟨j, hj, rfl⟩
      · rintro ⟨i, hi, rfl⟩
        exact hi
    | succ s ih =>
      intro places hp j
      rw [Pattern.iterateStep]
      split
      · next hzero =>
        rw [hzero]
        simp
      · rw [ih (h.within hp)]
        constructor
        · rintro ⟨m, hm, hmj⟩
          obtain ⟨i, hi, him⟩ := (h.testBit_iff hp).mp hm
          exact ⟨i, hi, m, him, hmj⟩
        · rintro ⟨i, hi, m, him, hmj⟩
          exact ⟨m, (h.testBit_iff hp).mpr ⟨i, hi, him⟩, hmj⟩

/-- The same places are reached along a relation that is the same on the places of the text. -/
theorem Moves.congr (h : Moves n f R) (hRQ : ∀ {i j}, i ≤ n → (R i j ↔ Q i j)) : Moves n f Q where
  le hi hij := h.le hi ((hRQ hi).mpr hij)
  testBit_iff := by
    intro places hp j
    rw [h.testBit_iff hp]
    exact exists_congr fun i => and_congr_right fun hi => hRQ (hp i hi)

end Sets

/-! ## Rounds -/

/-- One more round from the places seen so far brings nothing new, except from the latest of
them. -/
structure Frontier (R : Nat → Nat → Prop) (seen latest : Nat) : Prop where
  mem : ∀ {i}, latest.testBit i = true → seen.testBit i = true
  step : ∀ {i j}, seen.testBit i = true → latest.testBit i = false → R i j → seen.testBit j = true

/-- A set of places that a relation does not lead out of. -/
def Closed (R : Nat → Nat → Prop) (seen : Nat) : Prop :=
  ∀ i j, seen.testBit i = true → R i j → seen.testBit j = true

/-- The places of a text that are not in a set. -/
def unseen (n seen : Nat) : Finset Nat :=
  (Finset.range (n + 1)).filter fun i => seen.testBit i = false

section Rounds

variable {R : Nat → Nat → Prop} {f : Nat → Nat} {n s seen latest i j : Nat}

theorem Closed.times (h : Closed R seen) (hi : seen.testBit i = true) (ht : Times R s i j) :
    seen.testBit j = true := by
  induction s generalizing i with
  | zero => exact ht ▸ hi
  | succ s ih =>
    obtain ⟨m, him, hmj⟩ := ht
    exact ih (h i m hi him) hmj

theorem frontier_self : Frontier R seen seen where
  mem h := h
  step h hnot := absurd h (Bool.eq_false_iff.mp hnot)

/-- Rounds from a place that has been seen lead to one, or go on from one of the latest. -/
theorem Frontier.times (h : Frontier R seen latest) (hi : seen.testBit i = true)
    (ht : Times R s i j) :
    seen.testBit j = true ∨ ∃ k, latest.testBit k = true ∧ ∃ t ≤ s, Times R t k j := by
  induction s generalizing i with
  | zero => exact .inl (ht ▸ hi)
  | succ s ih =>
    by_cases hlatest : latest.testBit i = true
    · exact .inr ⟨i, hlatest, s + 1, Nat.le_refl _, ht⟩
    obtain ⟨m, him, hmj⟩ := ht
    rcases ih (h.step hi (Bool.eq_false_iff.mpr hlatest) him) hmj with hj | ⟨k, hk, t, hts, hkj⟩
    · exact .inl hj
    · exact .inr ⟨k, hk, t, Nat.le_succ_of_le hts, hkj⟩

/-- The new places of a round are those it reaches that have not been seen. -/
theorem testBit_fresh {reached : Nat} :
    (reached ^^^ (reached &&& seen)).testBit j = true ↔
      reached.testBit j = true ∧ seen.testBit j = false := by
  rw [Nat.testBit_xor, Nat.testBit_and]
  cases reached.testBit j <;> cases seen.testBit j <;> decide

/-- What a round from the latest places brings. -/
theorem Moves.fresh_iff (hf : Moves n f R) (hw : Within n latest) :
    (f latest ^^^ (f latest &&& seen)).testBit j = true ↔
      (∃ i, latest.testBit i = true ∧ R i j) ∧ seen.testBit j = false := by
  rw [testBit_fresh, hf.testBit_iff hw]

theorem Moves.within_fresh (hf : Moves n f R) (hw : Within n latest) :
    Within n (f latest ^^^ (f latest &&& seen)) := by
  intro j hj
  obtain ⟨⟨i, hi, hij⟩, -⟩ := (hf.fresh_iff hw).mp hj
  exact hf.le (hw i hi) hij

theorem within_or {a b : Nat} (ha : Within n a) (hb : Within n b) : Within n (a ||| b) := by
  intro j hj
  rw [Nat.testBit_or, Bool.or_eq_true] at hj
  exact hj.elim (ha j) (hb j)

/-- A round that brings nothing new is the last one. -/
theorem Frontier.closed (h : Frontier R seen latest) (hf : Moves n f R) (hw : Within n latest)
    (hfresh : f latest ^^^ (f latest &&& seen) = 0) : Closed R seen := by
  intro i j hi hij
  by_cases hlatest : latest.testBit i = true
  · by_contra hj
    have hnew := (hf.fresh_iff hw).mpr ⟨⟨i, hlatest, hij⟩, Bool.eq_false_iff.mpr hj⟩
    rw [hfresh, Nat.zero_testBit] at hnew
    exact Bool.false_ne_true hnew
  · exact h.step hi (Bool.eq_false_iff.mpr hlatest) hij

/-- **What a round preserves.** -/
theorem Frontier.next (h : Frontier R seen latest) (hf : Moves n f R) (hw : Within n latest) :
    Frontier R (seen ||| (f latest ^^^ (f latest &&& seen)))
      (f latest ^^^ (f latest &&& seen)) where
  mem hi := by
    rw [Nat.testBit_or, hi, Bool.or_true]
  step {i j} hi hold hij := by
    rw [Nat.testBit_or, hold, Bool.or_false] at hi
    rw [Nat.testBit_or, Bool.or_eq_true, hf.fresh_iff hw]
    by_cases hj : seen.testBit j = true
    · exact .inl hj
    by_cases hlatest : latest.testBit i = true
    · exact .inr ⟨⟨i, hlatest, hij⟩, Bool.eq_false_iff.mpr hj⟩
    · exact .inl (h.step hi (Bool.eq_false_iff.mpr hlatest) hij)

/-- **Rounds add what can be reached in so many of them.** -/
theorem Frontier.testBit_extendBy (h : Frontier R seen latest) (hf : Moves n f R)
    (hw : Within n latest) : (extendBy f s seen latest).testBit j = true ↔
      seen.testBit j = true ∨ ∃ i, latest.testBit i = true ∧ ∃ t ≤ s, Times R t i j := by
  induction s generalizing seen latest with
  | zero =>
    constructor
    · exact .inl
    · rintro (hj | ⟨i, hi, t, ht, htimes⟩)
      · exact hj
      · obtain rfl := Nat.le_zero.mp ht
        exact h.mem (htimes ▸ hi)
  | succ s ih =>
    rw [extendBy]
    split
    · next hfresh =>
      have hclosed := h.closed hf hw hfresh
      constructor
      · exact .inl
      · rintro (hj | ⟨i, hi, t, -, htimes⟩)
        · exact hj
        · exact hclosed.times (h.mem hi) htimes
    · rw [ih (h.next hf hw) (hf.within_fresh hw), Nat.testBit_or, Bool.or_eq_true]
      constructor
      · rintro ((hj | hj) | ⟨m, hm, t, ht, hmj⟩)
        · exact .inl hj
        · obtain ⟨⟨i, hi, hij⟩, -⟩ := (hf.fresh_iff hw).mp hj
          exact .inr ⟨i, hi, 1, by omega, times_one_iff.mpr hij⟩
        · obtain ⟨⟨i, hi, him⟩, -⟩ := (hf.fresh_iff hw).mp hm
          exact .inr ⟨i, hi, t + 1, by omega, m, him, hmj⟩
      · rintro (hj | ⟨i, hi, t, ht, hij⟩)
        · exact .inl (.inl hj)
        -- the first of the rounds leads to a place that has been seen or is new
        have hseen : (seen ||| (f latest ^^^ (f latest &&& seen))).testBit i = true := by
          rw [Nat.testBit_or, h.mem hi, Bool.true_or]
        cases t with
        | zero => exact .inl (.inl (h.mem (hij ▸ hi)))
        | succ t =>
          obtain ⟨m, him, hmj⟩ := hij
          have hm : (seen ||| (f latest ^^^ (f latest &&& seen))).testBit m = true := by
            rw [Nat.testBit_or, Bool.or_eq_true, hf.fresh_iff hw]
            by_cases hm : seen.testBit m = true
            · exact .inl hm
            · exact .inr ⟨⟨i, hi, him⟩, Bool.eq_false_iff.mpr hm⟩
          rcases (h.next hf hw).times hm hmj with hj | ⟨k, hk, u, hu, hkj⟩
          · rw [Nat.testBit_or, Bool.or_eq_true] at hj
            exact .inl hj
          · exact .inr ⟨k, hk, u, by omega, hkj⟩

/-- A round with something new leaves fewer places unseen. -/
theorem card_unseen_lt {fresh : Nat} (hw : Within n fresh) (hne : fresh ≠ 0)
    (hnew : ∀ {i}, fresh.testBit i = true → seen.testBit i = false) :
    (unseen n (seen ||| fresh)).card < (unseen n seen).card := by
  obtain ⟨i, hi⟩ := Nat.exists_testBit_of_ne_zero hne
  refine Finset.card_lt_card (Finset.ssubset_iff_of_subset ?_ |>.mpr ⟨i, ?_, ?_⟩)
  · intro j hj
    obtain ⟨hjn, hj⟩ := Finset.mem_filter.mp hj
    rw [Nat.testBit_or, Bool.or_eq_false_iff] at hj
    exact Finset.mem_filter.mpr ⟨hjn, hj.1⟩
  · exact Finset.mem_filter.mpr ⟨Finset.mem_range.mpr (Nat.lt_succ_of_le (hw i hi)), hnew hi⟩
  · intro hmem
    have hnot := (Finset.mem_filter.mp hmem).2
    rw [Nat.testBit_or, hi, Bool.or_true] at hnot
    exact Bool.noConfusion hnot

/-- **With a round for every place that has not been seen, nothing is left to be reached.** -/
theorem Frontier.closed_extendBy (h : Frontier R seen latest) (hf : Moves n f R)
    (hseen : Within n seen) (hs : (unseen n seen).card ≤ s) :
    Closed R (extendBy f s seen latest) := by
  have hlatest : Within n latest := fun i hi => hseen i (h.mem hi)
  induction s generalizing seen latest with
  | zero =>
    -- every place of the text has been seen
    intro i j hi hij
    by_contra hj
    have hmem : j ∈ unseen n seen := Finset.mem_filter.mpr
      ⟨Finset.mem_range.mpr (Nat.lt_succ_of_le (hf.le (hseen i hi) hij)), Bool.eq_false_iff.mpr hj⟩
    rw [Finset.card_eq_zero.mp (Nat.le_zero.mp hs)] at hmem
    exact absurd hmem (Finset.notMem_empty j)
  | succ s ih =>
    rw [extendBy]
    split
    · next hfresh => exact h.closed hf hlatest hfresh
    · next hfresh =>
      have hnew : Within n (f latest ^^^ (f latest &&& seen)) := hf.within_fresh hlatest
      have hlt := card_unseen_lt hnew hfresh fun {i} hi => ((hf.fresh_iff hlatest).mp hi).2
      exact ih (h.next hf hlatest) (within_or hseen hnew) (by omega) hnew

end Rounds

section Loops

variable {n s : Nat} {f : Nat → Nat} {R : Nat → Nat → Prop}

/-- Up to so many rounds from a set. -/
theorem Moves.extendBy (h : Moves n f R) (s : Nat) :
    Moves n (fun places => extendBy f s places places) fun i j => ∃ t ≤ s, Times R t i j where
  le := by
    rintro i j hi ⟨t, -, ht⟩
    exact times_le h.le hi ht
  testBit_iff := by
    intro places hp j
    rw [frontier_self.testBit_extendBy h hp]
    constructor
    · rintro (hj | hj)
      · exact ⟨j, hj, 0, Nat.zero_le s, rfl⟩
      · exact hj
    · exact .inr

/-- **As many rounds as there are places are as good as any number.** -/
theorem Moves.extendBy_all (h : Moves n f R) (hs : n + 1 ≤ s) :
    Moves n (fun places => Pattern.extendBy f s places places) fun i j => ∃ t, Times R t i j where
  le := by
    rintro i j hi ⟨t, ht⟩
    exact times_le h.le hi ht
  testBit_iff := by
    intro places hp j
    have hcard : (unseen n places).card ≤ s :=
      ((Finset.card_filter_le _ _).trans_eq (Finset.card_range _)).trans hs
    have hclosed : Closed R (Pattern.extendBy f s places places) :=
      frontier_self.closed_extendBy h hp hcard
    constructor
    · intro hj
      obtain ⟨i, hi, t, -, ht⟩ := ((h.extendBy s).testBit_iff hp).mp hj
      exact ⟨i, hi, t, ht⟩
    · rintro ⟨i, hi, t, ht⟩
      have hstart : (Pattern.extendBy f s places places).testBit i = true :=
        ((h.extendBy s).testBit_iff hp).mpr ⟨i, hi, 0, Nat.zero_le s, rfl⟩
      exact hclosed.times hstart ht

end Loops

end Pattern
end WindowRules
