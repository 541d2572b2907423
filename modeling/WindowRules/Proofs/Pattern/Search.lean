import WindowRules.Proofs.Pattern.Rounds

/-!
# The search finds what an expression matches

A search does arithmetic on numbers that stand for sets of places; what an expression matches is
given by rules.  The two meet in a relation between places.  A walk goes from some places to others
(`Walk.Goes`), and

* the places that a walk reaches from a set are those to which it goes from a member (`Walk.moves`);
* the walk of an expression laid over a text goes from place to place just as the expression matches
  (`Expr.goes_over_iff`).

So the search finds a stretch exactly if there is one (`Expr.foundIn_iff_occursIn`).

## Bounds in order

A repetition with more copies asked for than allowed matches nothing by the rules, while the search
goes the number of rounds that is asked for.  Bounds are in order in every expression that is read
from a text (`Expr.Ordered`), and it is for these that the statements hold.
-/

namespace WindowRules
namespace Pattern

/-! ## Walks -/

/-- A walk goes from one place to another. -/
def Walk.Goes : Walk → Nat → Nat → Prop
  | .stay places, i, j => i = j ∧ places.testBit i = true
  | .step places, i, j => j = i + 1 ∧ places.testBit i = true
  | .seq a b, i, k => ∃ j, a.Goes i j ∧ b.Goes j k
  | .alt a b, i, j => a.Goes i j ∨ b.Goes i j
  | .rounds body min extra, i, j => Between body.Goes min (min + extra) i j
  | .forever body min _, i, j => AtLeast body.Goes min i j

/-- A walk does not go beyond the end of a text, and takes enough rounds for it. -/
def Walk.Fits (n : Nat) : Walk → Prop
  | .stay _ => True
  | .step places => ∀ i, places.testBit i = true → i < n
  | .seq a b | .alt a b => a.Fits n ∧ b.Fits n
  | .rounds body _ _ => body.Fits n
  | .forever body _ limit => body.Fits n ∧ n + 1 ≤ limit

/-- **A walk reaches the places to which it goes.** -/
theorem Walk.moves {n : Nat} {w : Walk} (h : w.Fits n) : Moves n w.reach w.Goes := by
  induction w with
  | stay m =>
    refine ⟨fun hi hij => hij.1 ▸ hi, fun _ j => ?_⟩
    rw [Walk.reach, Nat.testBit_and, Bool.and_eq_true]
    constructor
    · rintro ⟨hj, hm⟩
      exact ⟨j, hj, rfl, hm⟩
    · rintro ⟨i, hi, rfl, hm⟩
      exact ⟨hi, hm⟩
  | step m =>
    refine ⟨fun _ hij => hij.1 ▸ h _ hij.2, fun _ j => ?_⟩
    rw [Walk.reach, Nat.testBit_shiftLeft, Bool.and_eq_true, decide_eq_true_iff, Nat.testBit_and,
      Bool.and_eq_true]
    constructor
    · rintro ⟨hj, hplace, hm⟩
      exact ⟨j - 1, hplace, (Nat.sub_add_cancel hj).symm, hm⟩
    · rintro ⟨i, hi, rfl, hm⟩
      exact ⟨Nat.le_add_left 1 i, hi, hm⟩
  | seq a b iha ihb => exact (iha h.1).comp (ihb h.2)
  | alt a b iha ihb => exact (iha h.1).or (ihb h.2)
  | rounds body min extra ih =>
    refine (((ih h).iterateStep min).comp ((ih h).extendBy extra)).congr fun {i j} _ => ?_
    constructor
    · rintro ⟨k, hik, t, ht, hkj⟩
      exact ⟨min + t, by omega, by omega, times_add_iff.mpr ⟨k, hik, hkj⟩⟩
    · rintro ⟨s, hmin, hmax, hij⟩
      obtain ⟨t, rfl⟩ := Nat.exists_eq_add_of_le hmin
      obtain ⟨k, hik, hkj⟩ := times_add_iff.mp hij
      exact ⟨k, hik, t, by omega, hkj⟩
  | forever body min limit ih =>
    refine (((ih h.1).iterateStep min).comp ((ih h.1).extendBy_all h.2)).congr fun {i j} _ => ?_
    constructor
    · rintro ⟨k, hik, t, hkj⟩
      exact ⟨min + t, by omega, times_add_iff.mpr ⟨k, hik, hkj⟩⟩
    · rintro ⟨s, hmin, hij⟩
      obtain ⟨t, rfl⟩ := Nat.exists_eq_add_of_le hmin
      obtain ⟨k, hik, hkj⟩ := times_add_iff.mp hij
      exact ⟨k, hik, t, hkj⟩

namespace Walk

variable {n limit min max i j : Nat} {body : Walk}

theorem fits_unbounded (h : body.Fits n) (hlimit : n + 1 ≤ limit) :
    (unbounded limit body min).Fits n := by
  unfold unbounded
  split
  · split
    · exact h
    · exact ⟨h, hlimit⟩
  · exact ⟨h, hlimit⟩

theorem fits_bounded (h : body.Fits n) : (body.bounded min max).Fits n := by
  unfold bounded
  split
  · split
    · exact h
    · exact h
  · exact h

theorem goes_unbounded_iff : (unbounded limit body min).Goes i j ↔ AtLeast body.Goes min i j := by
  unfold unbounded
  split
  · next inner m l =>
    split
    · next hone =>
      constructor
      · intro h
        obtain ⟨s, hs, -, htimes⟩ := exists_times_atLeast hone.1 hone.2 h
        exact ⟨s, hs, htimes⟩
      · rintro ⟨s, hs, htimes⟩
        obtain ⟨t, ht, htimes⟩ := atLeast_of_times_atLeast htimes
        exact ⟨t, (Nat.mul_le_mul_left m hs).trans ht, htimes⟩
    · exact Iff.rfl
  · exact Iff.rfl

theorem goes_bounded_iff (h : min ≤ max) :
    (body.bounded min max).Goes i j ↔ Between body.Goes min max i j := by
  have hrounds : (rounds body min (max - min)).Goes i j ↔ Between body.Goes min max i j := by
    rw [Goes, Nat.add_sub_cancel' h]
  unfold bounded
  split
  · next inner m l =>
    split
    · next hone =>
      obtain ⟨hm, hmin, hmax⟩ := hone
      constructor
      · intro h
        obtain ⟨s, hs, hs1, htimes⟩ := exists_times_atLeast hm hmin h
        exact ⟨s, hs, hs1.trans hmax, htimes⟩
      · rintro ⟨s, hs, -, htimes⟩
        obtain ⟨t, ht, htimes⟩ := atLeast_of_times_atLeast htimes
        exact ⟨t, (Nat.mul_le_mul_left m hs).trans ht, htimes⟩
    · exact hrounds
  · exact hrounds

end Walk

/-! ## The places of a text -/

theorem testBit_cons_zero (b : Bool) (places : Nat) : (b.toNat + 2 * places).testBit 0 = b := by
  rw [Nat.testBit_zero, Nat.add_mul_mod_self_left]
  cases b <;> rfl

theorem testBit_cons_succ (b : Bool) (places i : Nat) :
    (b.toNat + 2 * places).testBit (i + 1) = places.testBit i := by
  rw [Nat.testBit_succ, Nat.add_mul_div_left _ _ Nat.two_pos, Nat.div_eq_of_lt b.toNat_lt,
    Nat.zero_add]

theorem testBit_placesBefore {p : Char → Bool} {text : List Char} {i : Nat} :
    (placesBefore p text).testBit i = true ↔ ∃ c, text[i]? = some c ∧ p c = true := by
  induction text generalizing i with
  | nil => simp [placesBefore]
  | cons c cs ih =>
    cases i with
    | zero =>
      rw [placesBefore, testBit_cons_zero]
      simp
    | succ i => rw [placesBefore, testBit_cons_succ, ih, List.getElem?_cons_succ]

/-- The character before a place, given the one before the text. -/
def charBehind (before : Option Char) (text : List Char) : Nat → Option Char
  | 0 => before
  | i + 1 => text[i]?

theorem charBehind_none (text : List Char) : charBehind none text = charBefore text := by
  funext i
  cases i <;> rfl

theorem testBit_placesOf {a : Anchor} {before : Option Char} {text : List Char} {i : Nat} :
    (placesOf a before text).testBit i = true ↔
      i ≤ text.length ∧ a.holds (charBehind before text i) text[i]? = true := by
  induction text generalizing before i with
  | nil =>
    cases i with
    | zero =>
      rw [placesOf, ← Nat.add_zero (Bool.toNat _), ← Nat.mul_zero 2, testBit_cons_zero]
      simp [charBehind]
    | succ i =>
      rw [placesOf, ← Nat.add_zero (Bool.toNat _), ← Nat.mul_zero 2, testBit_cons_succ]
      simp
  | cons c cs ih =>
    cases i with
    | zero =>
      rw [placesOf, testBit_cons_zero]
      simp [charBehind]
    | succ i =>
      have hbehind : charBehind (some c) cs i = (c :: cs)[i]? := by cases i <;> rfl
      rw [placesOf, testBit_cons_succ, ih, List.length_cons, Nat.succ_le_succ_iff, hbehind,
        List.getElem?_cons_succ, charBehind]

theorem testBit_allPlaces {text : List Char} {i : Nat} :
    (allPlaces text).testBit i = true ↔ i ≤ text.length := by
  rw [allPlaces, Nat.pow_eq, Nat.testBit_two_pow_sub_one, decide_eq_true_iff, Nat.lt_succ_iff]

/-! ## Expressions -/

namespace Expr

/-- The bounds of every repetition are in order. -/
def Ordered : Expr → Prop
  | .empty | .char _ | .set _ | .anchor _ => True
  | .seq a b | .alt a b => a.Ordered ∧ b.Ordered
  | .repetition body min max => body.Ordered ∧ ∀ m ∈ max, min ≤ m
  | .capture body => body.Ordered

variable {text : List Char} {e : Expr} {i j : Nat}

theorem fits_step (p : Char → Bool) (text : List Char) :
    (Walk.step (placesBefore p text)).Fits text.length := by
  intro i hi
  obtain ⟨c, hc, -⟩ := testBit_placesBefore.mp hi
  exact (List.getElem?_eq_some_iff.mp hc).1

theorem fits_over (e : Expr) (text : List Char) : (e.over text).Fits text.length := by
  induction e with
  | empty => trivial
  | char c => exact fits_step _ text
  | set s => exact fits_step _ text
  | anchor a => trivial
  | seq a b iha ihb => exact ⟨iha, ihb⟩
  | alt a b iha ihb => exact ⟨iha, ihb⟩
  | repetition body min max ih =>
    cases max with
    | none => exact Walk.fits_unbounded ih (Nat.le_refl _)
    | some max => exact Walk.fits_bounded ih
  | capture body ih => exact ih

/-- **The walk of an expression goes just as the expression matches.** -/
theorem goes_over_iff (h : e.Ordered) (hi : i ≤ text.length) :
    (e.over text).Goes i j ↔ e.Spans text i j := by
  induction e generalizing i j with
  | empty =>
    rw [spans_empty_iff]
    refine and_congr_right ?_
    rintro rfl
    exact testBit_allPlaces
  | char c =>
    rw [spans_char_iff, and_comm]
    refine and_congr_right fun _ => testBit_placesBefore.trans ?_
    simp
  | set s =>
    rw [spans_set_iff, and_comm]
    exact and_congr_right fun _ => testBit_placesBefore
  | anchor a =>
    rw [spans_anchor_iff]
    refine and_congr_right ?_
    rintro rfl
    rw [testBit_placesOf, charBehind_none]
  | seq a b iha ihb =>
    rw [spans_seq_iff]
    refine exists_congr fun m => ?_
    rw [iha h.1 hi]
    exact and_congr_right fun hm => ihb h.2 hm.bounds.2
  | alt a b iha ihb => exact (or_congr (iha h.1 hi) (ihb h.2 hi)).trans spans_alt_iff.symm
  | repetition body min max ih =>
    have hbody := Walk.moves (body.fits_over text)
    -- rounds of the walk are copies of what is repeated, and stay inside of the text
    have htimes {s : Nat} : Times (body.over text).Goes s i j ↔
        j ≤ text.length ∧ Times (body.Spans text) s i j := by
      rw [← times_congr hbody.le (ih h.1) hi]
      exact ⟨fun ht => ⟨times_le hbody.le hi ht, ht⟩, And.right⟩
    rw [spans_repetition_iff]
    cases max with
    | none =>
      refine Walk.goes_unbounded_iff.trans ?_
      simp only [AtLeast, htimes]
      constructor
      · rintro ⟨s, hs, hj, ht⟩
        exact ⟨hj, s, hs, nofun, ht⟩
      · rintro ⟨hj, s, hs, -, ht⟩
        exact ⟨s, hs, hj, ht⟩
    | some max =>
      refine (Walk.goes_bounded_iff (h.2 max rfl)).trans ?_
      simp only [Between, htimes]
      constructor
      · rintro ⟨s, hs, hmax, hj, ht⟩
        exact ⟨hj, s, hs, fun m hm => Option.some.inj hm ▸ hmax, ht⟩
      · rintro ⟨hj, s, hs, hmax, ht⟩
        exact ⟨s, hs, hmax max rfl, hj, ht⟩
  | capture body ih =>
    rw [spans_capture_iff]
    exact ih h hi

/-- **The search finds a stretch exactly if there is one.** -/
theorem foundIn_iff_occursIn (h : e.Ordered) : e.foundIn text = true ↔ e.OccursIn text := by
  have hmoves := Walk.moves (e.fits_over text)
  have hall : Within text.length (allPlaces text) := fun _ => testBit_allPlaces.mp
  rw [foundIn, bne_iff_ne]
  constructor
  · intro hne
    obtain ⟨j, hj⟩ := Nat.exists_testBit_of_ne_zero hne
    obtain ⟨i, hi, hij⟩ := (hmoves.testBit_iff hall).mp hj
    exact ⟨i, j, (goes_over_iff h (hall i hi)).mp hij⟩
  · rintro ⟨i, j, hij⟩ hzero
    have hi : i ≤ text.length := hij.bounds.1.trans hij.bounds.2
    have hj :=
      (hmoves.testBit_iff hall).mpr ⟨i, testBit_allPlaces.mpr hi, (goes_over_iff h hi).mpr hij⟩
    rw [hzero, Nat.zero_testBit] at hj
    exact Bool.false_ne_true hj

end Expr

end Pattern
end WindowRules
