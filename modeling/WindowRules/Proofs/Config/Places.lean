import WindowRules.Proofs.Config.Blocks

/-!
# Where the blocks are

`locateBlocks` goes through the tokens once, looks ahead for a closing brace at every head of a
block, and goes on behind the block or, if there is no such brace, right behind the head.  So
whether a place is looked at as the head of a block at all depends on what was found before it.
Here the outcome is put without the search: which places are given back, and what becomes of each
head that there is.

## One fact about the closing brace

Both halves rest on what the search for a closing brace finds.  `findClose?_eq_some_iff` puts it
without the search: it is the closing brace in front of which all braces are balanced.  There is no
second induction for this.  The search finds nothing in front of the place that it finds, so there
it only counts (`findClose?_append_of_none`), and the count has to be zero where it stops.

* `isBody_of_mem_locateFrom`: what is given back is the body of a block.
* `pairwise_locateFrom`: the blocks stand one behind the other, heads and closing braces included.
* `locateFrom_complete`: a head is that of a block that is given back, or stands inside of one, or
  is not closed by any brace.

## Counters

Two counters of open braces are kept, one for the search and one for the reading of a body, and both
are natural numbers from which one is taken at a closing brace.  The search also counts the brace of
the block itself, so that its counter starts at one; in `findClose?` this brace is left out of the
count.  Counters that refuse to be taken below zero (`countedClose?`, `countedAssignments?`) give
the same results, the second one for bodies of blocks.
-/

namespace WindowRules
namespace Config

/-! ## What the search for a closing brace finds -/

/-- The first token is what a search finds at once, and then no other brace is open. -/
theorem eq_cons_of_findClose?_eq_zero {depth : Nat} {ts : List Token}
    (h : findClose? depth ts = some 0) : depth = 0 ∧ ∃ us, ts = .closeBrace :: us := by
  cases ts with
  | nil => exact absurd h (by simp [findClose?])
  | cons t us =>
    cases t with
    | closeBrace =>
      cases depth with
      | zero => exact ⟨rfl, us, rfl⟩
      | succ d => exact absurd h (by simp [findClose?])
    | _ => exact absurd h (by simp [findClose?])

/-- A search finds nothing in front of what it finds. -/
theorem findClose?_take_eq_none {depth : Nat} {ts : List Token} {n : Nat}
    (h : findClose? depth ts = some n) : findClose? depth (ts.take n) = none := by
  cases hm : findClose? depth (ts.take n) with
  | none => rfl
  | some m =>
    have hlt : m < (ts.take n).length := findClose?_lt_length hm
    have hall : findClose? depth (ts.take n ++ ts.drop n) = some m :=
      findClose?_append_of_some hm (ts.drop n)
    rw [List.take_append_drop, h] at hall
    have hmn : n = m := Option.some.inj hall
    rw [List.length_take] at hlt
    omega

/-- **The brace that the search finds is the closing brace in front of which all braces are
balanced.** -/
theorem findClose?_eq_some_iff {ts : List Token} {n : Nat} :
    findClose? 0 ts = some n ↔ ts[n]? = some .closeBrace ∧ Balanced (ts.take n) := by
  constructor
  · intro h
    have hlen : (ts.take n).length = n := by
      have hn := findClose?_lt_length h
      rw [List.length_take]
      omega
    have hnone : findClose? 0 (ts.take n) = none := findClose?_take_eq_none h
    have hopening : Opening (ts.take n) := (opening_iff_findClose? _).mpr hnone
    -- behind what it passes over the search stops at once
    have hstop : findClose? (0 + (ts.take n).count .openBrace - (ts.take n).count .closeBrace)
        (ts.drop n) = some 0 := by
      have hall := findClose?_append_of_none hnone (ts.drop n)
      rw [List.take_append_drop, h, hlen] at hall
      obtain ⟨m, hm, hmn⟩ := Option.map_eq_some_iff.mp hall.symm
      have hzero : m = 0 := by omega
      rw [hm, hzero]
    obtain ⟨hdepth, us, hus⟩ := eq_cons_of_findClose?_eq_zero hstop
    have hle := hopening _ List.prefix_rfl
    refine ⟨?_, hopening, by omega⟩
    have hhead : (ts.drop n)[0]? = ts[n]? := by
      rw [List.getElem?_drop, Nat.add_zero]
    rw [← hhead, hus]
    rfl
  · rintro ⟨hclose, hbalanced⟩
    obtain ⟨hn, hget⟩ := List.getElem?_eq_some_iff.mp hclose
    have hsplit : ts = ts.take n ++ .closeBrace :: ts.drop (n + 1) := by
      rw [← hget, List.getElem_cons_drop, List.take_append_drop]
    have hlen : (ts.take n).length = n := by
      rw [List.length_take]
      omega
    have hfound := hbalanced.findClose?_append (ts.drop (n + 1))
    rw [← hsplit, hlen] at hfound
    exact hfound

/-! ## Heads and bodies -/

/-- The head of a block stands at a place: its word, and an opening brace behind it. -/
def IsHead (ts : List Token) (p : Nat) : Prop :=
  ts[p]? = some (.word blockWord) ∧ ts[p + 1]? = some .openBrace

/-- Two places between which stands the body of a block: behind a head, and up to a closing brace
that balances the brace of the head. -/
structure IsBody (ts : List Token) (b : Nat × Nat) : Prop where
  head : ∃ p, IsHead ts p ∧ b.1 = p + 2
  le : b.1 ≤ b.2
  closeBrace : ts[b.2]? = some .closeBrace
  balanced : Balanced (slice ts b)

/-- Behind a head, the body goes up to what the search for a closing brace finds. -/
theorem isBody_iff {ts : List Token} {p : Nat} (hp : IsHead ts p) (c : Nat) :
    IsBody ts (p + 2, c) ↔ ∃ n, c = p + 2 + n ∧ findClose? 0 (ts.drop (p + 2)) = some n := by
  constructor
  · intro h
    have hle : p + 2 ≤ c := h.le
    obtain ⟨n, rfl⟩ := Nat.exists_eq_add_of_le hle
    refine ⟨n, rfl, findClose?_eq_some_iff.mpr ⟨?_, ?_⟩⟩
    · rw [List.getElem?_drop]
      exact h.closeBrace
    · have hbody := h.balanced
      rw [slice, Nat.add_sub_cancel_left] at hbody
      exact hbody
  · rintro ⟨n, rfl, hn⟩
    obtain ⟨hclose, hbalanced⟩ := findClose?_eq_some_iff.mp hn
    refine ⟨⟨p, hp, rfl⟩, Nat.le_add_right _ _, ?_, ?_⟩
    · rw [List.getElem?_drop] at hclose
      exact hclose
    · rw [slice, Nat.add_sub_cancel_left]
      exact hbalanced

/-- The list from a place on, if something stands there. -/
theorem of_drop_eq_cons {α : Type*} {l xs : List α} {n : Nat} {x : α} (h : l.drop n = x :: xs) :
    l[n]? = some x ∧ l.drop (n + 1) = xs := by
  constructor
  · have hget : (l.drop n)[0]? = l[n]? := by
      rw [List.getElem?_drop, Nat.add_zero]
    rw [← hget, h]
    rfl
  · rw [← List.drop_drop, h]
    rfl

/-- The tokens from a place on, if a head stands there. -/
theorem isHead_of_drop_eq {ts us : List Token} {pos : Nat}
    (h : ts.drop pos = .word blockWord :: .openBrace :: us) :
    IsHead ts pos ∧ ts.drop (pos + 2) = us := by
  obtain ⟨hword, hrest⟩ := of_drop_eq_cons h
  obtain ⟨hopen, hus⟩ := of_drop_eq_cons hrest
  exact ⟨⟨hword, hopen⟩, hus⟩

/-! ## The places that are given back -/

theorem locateFrom_nil (pos : Nat) : locateFrom pos [] = [] := by
  rw [locateFrom]

theorem locateFrom_of_findClose? {us : List Token} {n : Nat} (h : findClose? 0 us = some n)
    (pos : Nat) :
    locateFrom pos (.word blockWord :: .openBrace :: us) =
      (pos + 2, pos + 2 + n) :: locateFrom (pos + 2 + n + 1) (us.drop (n + 1)) := by
  rw [locateFrom, if_pos rfl, h]

theorem locateFrom_of_unclosed {us : List Token} (h : findClose? 0 us = none) (pos : Nat) :
    locateFrom pos (.word blockWord :: .openBrace :: us) = locateFrom (pos + 2) us := by
  rw [locateFrom, if_pos rfl, h]

section Search

/-! The search is followed in the whole list of tokens `ts`, from a place `pos` on. -/

variable {ts us : List Token} {pos : Nat}

/-- **What is given back are bodies of blocks**, behind the place where the search began. -/
theorem isBody_of_mem_locateFrom (hus : ts.drop pos = us) {b : Nat × Nat}
    (hb : b ∈ locateFrom pos us) : IsBody ts b ∧ pos + 2 ≤ b.1 := by
  induction us using blocks_induction generalizing pos with
  | nil =>
    rw [locateFrom_nil] at hb
    exact absurd hb List.not_mem_nil
  | closed us n hn ih =>
    obtain ⟨hhead, rfl⟩ := isHead_of_drop_eq hus
    rw [locateFrom_of_findClose? hn] at hb
    rcases List.mem_cons.mp hb with rfl | hb
    · exact ⟨(isBody_iff hhead _).mpr ⟨n, rfl, hn⟩, Nat.le_refl _⟩
    · obtain ⟨hbody, hle⟩ := ih (by rw [List.drop_drop]; rfl) hb
      exact ⟨hbody, by omega⟩
  | unclosed us hnone ih =>
    obtain ⟨-, rfl⟩ := isHead_of_drop_eq hus
    rw [locateFrom_of_unclosed hnone] at hb
    obtain ⟨hbody, hle⟩ := ih rfl hb
    exact ⟨hbody, by omega⟩
  | other t us hstart ih =>
    obtain ⟨-, hrest⟩ := of_drop_eq_cons hus
    rw [locateFrom_cons hstart] at hb
    obtain ⟨hbody, hle⟩ := ih hrest hb
    exact ⟨hbody, by omega⟩

/-- **The blocks stand one behind the other**: between two bodies there is room for the closing
brace of the one and for the head of the other. -/
theorem pairwise_locateFrom (hus : ts.drop pos = us) :
    (locateFrom pos us).Pairwise fun a b => a.2 + 2 < b.1 := by
  induction us using blocks_induction generalizing pos with
  | nil =>
    rw [locateFrom_nil]
    exact List.Pairwise.nil
  | closed us n hn ih =>
    obtain ⟨-, rfl⟩ := isHead_of_drop_eq hus
    have hrest : ts.drop (pos + 2 + n + 1) = (ts.drop (pos + 2)).drop (n + 1) := by
      rw [List.drop_drop]
      rfl
    rw [locateFrom_of_findClose? hn]
    refine List.pairwise_cons.mpr ⟨fun b hb => ?_, ih hrest⟩
    have hle := (isBody_of_mem_locateFrom hrest hb).2
    show pos + 2 + n + 2 < b.1
    omega
  | unclosed us hnone ih =>
    obtain ⟨-, hrest⟩ := isHead_of_drop_eq hus
    rw [locateFrom_of_unclosed hnone]
    exact ih hrest
  | other t us hstart ih =>
    obtain ⟨-, hrest⟩ := of_drop_eq_cons hus
    rw [locateFrom_cons hstart]
    exact ih hrest

/-- **No head is missed.**  A head behind the place where the search began is that of a block that
is given back, or it stands inside of one, or there is no closing brace for it. -/
theorem locateFrom_complete (hus : ts.drop pos = us) {p : Nat} (hle : pos ≤ p) (hp : IsHead ts p) :
    (∃ b ∈ locateFrom pos us, b.1 = p + 2) ∨ (∃ b ∈ locateFrom pos us, b.1 ≤ p ∧ p < b.2) ∨
      findClose? 0 (ts.drop (p + 2)) = none := by
  induction us using blocks_induction generalizing pos with
  | nil =>
    have hlen : ts.length ≤ pos := List.drop_eq_nil_iff.mp hus
    have hlt : p < ts.length := (List.getElem?_eq_some_iff.mp hp.1).1
    omega
  | closed us n hn ih =>
    obtain ⟨hhead, rfl⟩ := isHead_of_drop_eq hus
    have hrest : ts.drop (pos + 2 + n + 1) = (ts.drop (pos + 2)).drop (n + 1) := by
      rw [List.drop_drop]
      rfl
    have hclose : ts[pos + 2 + n]? = some .closeBrace := by
      have hget := (findClose?_eq_some_iff.mp hn).1
      rwa [List.getElem?_drop] at hget
    -- the braces of the block found here are no words, so no head stands at their places
    have hopenPlace : p ≠ pos + 1 := by
      rintro rfl
      exact absurd (hhead.2.symm.trans hp.1) (by simp)
    have hclosePlace : p ≠ pos + 2 + n := by
      rintro rfl
      exact absurd (hclose.symm.trans hp.1) (by simp)
    rw [locateFrom_of_findClose? hn]
    by_cases hfirst : p = pos
    · exact .inl ⟨_, List.mem_cons_self, by rw [hfirst]⟩
    · by_cases hinside : p < pos + 2 + n
      · have hbehind : pos + 2 ≤ p := by omega
        exact .inr (.inl ⟨_, List.mem_cons_self, hbehind, hinside⟩)
      · rcases ih hrest (by omega) with ⟨b, hb, h⟩ | ⟨b, hb, h⟩ | h
        · exact .inl ⟨b, List.mem_cons_of_mem _ hb, h⟩
        · exact .inr (.inl ⟨b, List.mem_cons_of_mem _ hb, h⟩)
        · exact .inr (.inr h)
  | unclosed us hnone ih =>
    obtain ⟨hhead, rfl⟩ := isHead_of_drop_eq hus
    have hopenPlace : p ≠ pos + 1 := by
      rintro rfl
      exact absurd (hhead.2.symm.trans hp.1) (by simp)
    rw [locateFrom_of_unclosed hnone]
    by_cases hfirst : p = pos
    · rw [hfirst]
      exact .inr (.inr hnone)
    · exact ih rfl (by omega)
  | other t us hstart ih =>
    obtain ⟨ht, hrest⟩ := of_drop_eq_cons hus
    have hfirst : p ≠ pos := by
      rintro rfl
      refine hstart ⟨Option.some.inj (ht.symm.trans hp.1), ?_⟩
      rw [List.head?_eq_getElem?, ← hrest, List.getElem?_drop]
      exact hp.2
    rw [locateFrom_cons hstart]
    exact ih hrest (by omega)

end Search

/-! ## Counters that refuse to go below zero -/

/-- The search for a closing brace with a counter of all braces that are open, that of the block
included.  The search is over when the counter comes to zero.  There is no result if one is to be
taken from zero. -/
def countedClose? : Nat → List Token → Option (Option Nat)
  | _, [] => some none
  | count, .openBrace :: ts => (countedClose? (count + 1) ts).map (·.map (· + 1))
  | count, .closeBrace :: ts =>
    if count = 0 then none
    else if count - 1 = 0 then some (some 0)
    else (countedClose? (count - 1) ts).map (·.map (· + 1))
  | count, _ :: ts => (countedClose? count ts).map (·.map (· + 1))

/-- The assignments in the body of a block, with no result if one is to be taken from a counter that
is zero. -/
def countedAssignments? : Nat → List Token → Option (List (String × String))
  | _, [] => some []
  | depth, .openBrace :: ts => countedAssignments? (depth + 1) ts
  | depth, .closeBrace :: ts => if depth = 0 then none else countedAssignments? (depth - 1) ts
  | depth, .word key :: .equals :: .value v :: ts =>
    if depth = 0 then (countedAssignments? depth ts).map ((key, v) :: ·)
    else countedAssignments? depth ts
  | depth, _ :: ts => countedAssignments? depth ts

/-- **The counter of the search is never taken below zero**, whatever the tokens. -/
theorem countedClose?_eq (depth : Nat) (ts : List Token) :
    countedClose? (depth + 1) ts = some (findClose? depth ts) := by
  induction depth, ts using findClose?.induct with
  | case1 depth => rfl
  | case2 depth ts ih => rw [countedClose?, findClose?, ih, Option.map_some]
  | case3 ts => rfl
  | case4 ts depth ih =>
    rw [countedClose?, if_neg (Nat.succ_ne_zero _), Nat.add_sub_cancel, if_neg (Nat.succ_ne_zero _),
      ih, findClose?, Option.map_some]
  | case5 depth t ts hopen hclose ih =>
    rw [countedClose?.eq_4 _ _ _ hopen hclose, findClose?_cons hopen hclose, ih, Option.map_some]

/-- Where the search for a closing brace finds none, the counter of a reading of the same tokens is
never taken below zero: the brace for which one would be taken from zero is what the search looks
for. -/
theorem countedAssignments?_eq {depth : Nat} {ts : List Token} (h : findClose? depth ts = none) :
    countedAssignments? depth ts = some (assignments depth ts) := by
  induction depth, ts using assignments.induct with
  | case1 depth => rfl
  | case2 depth ts ih =>
    rw [findClose?, Option.map_eq_none_iff] at h
    rw [countedAssignments?, assignments, ih h]
  | case3 depth ts ih =>
    cases depth with
    | zero => exact absurd h (by simp [findClose?])
    | succ d =>
      rw [findClose?, Option.map_eq_none_iff] at h
      rw [countedAssignments?, if_neg (Nat.succ_ne_zero d), assignments]
      exact ih h
  | case4 key v ts ih =>
    simp only [findClose?, Option.map_eq_none_iff] at h
    rw [countedAssignments?, assignments, if_pos rfl, if_pos rfl, ih h, Option.map_some]
  | case5 depth key v ts hdepth ih =>
    simp only [findClose?, Option.map_eq_none_iff] at h
    rw [countedAssignments?, assignments, if_neg hdepth, if_neg hdepth, ih h]
  | case6 depth t ts hopen hclose hassign ih =>
    rw [findClose?_cons hopen hclose, Option.map_eq_none_iff] at h
    rw [countedAssignments?.eq_5 _ _ _ hopen hclose hassign,
      assignments.eq_5 _ _ _ hopen hclose hassign, ih h]

/-! ## The search as a whole -/

/-- Places that are those of all blocks of a list of tokens. -/
structure LocatesBlocks (ts : List Token) (blocks : List (Nat × Nat)) : Prop where
  /-- The blocks stand one behind the other, and none reaches into another. -/
  ordered : blocks.Pairwise fun a b => a.2 + 2 < b.1
  isBody : ∀ b ∈ blocks, IsBody ts b
  inBounds : ∀ b ∈ blocks, b.1 ≤ b.2 ∧ b.2 < ts.length
  /-- A head that is not that of one of the blocks stands inside of one, or no brace closes it. -/
  complete : ∀ p, IsHead ts p → (∃ b ∈ blocks, b.1 = p + 2) ∨ (∃ b ∈ blocks, b.1 ≤ p ∧ p < b.2) ∨
    ∀ c, ¬ IsBody ts (p + 2, c)

theorem locatesBlocks_locateBlocks (ts : List Token) : LocatesBlocks ts (locateBlocks ts) where
  ordered := pairwise_locateFrom rfl
  isBody b hb := (isBody_of_mem_locateFrom rfl hb).1
  inBounds b hb := by
    have hbody := (isBody_of_mem_locateFrom rfl hb).1
    exact ⟨hbody.le, (List.getElem?_eq_some_iff.mp hbody.closeBrace).1⟩
  complete p hp := by
    rcases locateFrom_complete rfl (Nat.zero_le p) hp with h | h | h
    · exact .inl h
    · exact .inr (.inl h)
    · refine .inr (.inr fun c hbody => ?_)
      obtain ⟨n, -, hn⟩ := (isBody_iff hp c).mp hbody
      rw [h] at hn
      exact absurd hn nofun

/-- A head that no brace closes hides no block, and a head inside of a block gives none of its
own. -/
example : locateBlocks
    [.word blockWord, .openBrace, .word blockWord, .openBrace, .word blockWord, .openBrace,
    .closeBrace, .closeBrace] = [(4, 7)] := by
  decide +kernel

/-- **The search for blocks is sound and complete.**  The places that it gives back are, in their
order, those of bodies of blocks, and it misses no head that can be closed and does not stand inside
a block that is given back.  Neither of the two counters of open braces is ever taken below zero,
that of the search on any tokens and that of the reading on the bodies that are read. -/
theorem locateBlocks_exact (ts : List Token) :
    LocatesBlocks ts (locateBlocks ts) ∧
      (∀ us : List Token, countedClose? 1 us = some (findClose? 0 us)) ∧
      ∀ b ∈ locateBlocks ts,
        countedAssignments? 0 (slice ts b) = some (assignments 0 (slice ts b)) := by
  refine ⟨locatesBlocks_locateBlocks ts, countedClose?_eq 0, fun b hb => ?_⟩
  have hbody : IsBody ts b := (locatesBlocks_locateBlocks ts).isBody b hb
  exact countedAssignments?_eq (hbody.balanced.opening.findClose?_eq_none 0)

end Config
end WindowRules
