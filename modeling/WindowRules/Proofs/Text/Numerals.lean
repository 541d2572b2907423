import WindowRules.Text.Number

/-!
# Numerals

A numeral is a row of decimal digits, with a plus sign in front or without one.  Zeros in front do
not count.  Reading a number gives the value of the numeral if it is below the limit, and nothing
else is read as a number (`readNumber?_eq_some_iff`); so a numeral that is too large is no number at
all, and not another number (`readNumber?_eq_none_of_le`).
-/

namespace WindowRules
namespace Text

/-- `Digits ds n` says that `ds` is a row of decimal digits with the value `n`. -/
structure Digits (ds : List Char) (n : Nat) : Prop where
  ne_nil : ds ≠ []
  isDigit : ∀ c ∈ ds, c.isDigit = true
  value : Nat.ofDigitChars 10 ds 0 = n

/-- `Numeral w n` says that `w` is a numeral with the value `n`. -/
inductive Numeral : List Char → Nat → Prop where
  | digits {ds : List Char} {n : Nat} (h : Digits ds n) : Numeral ds n
  | plus {ds : List Char} {n : Nat} (h : Digits ds n) : Numeral ('+' :: ds) n

/-- The decimal form of a number is a numeral for it. -/
theorem numeral_toDigits (n : Nat) : Numeral (Nat.toDigits 10 n) n :=
  .digits ⟨Nat.toDigits_ne_nil, fun _ => Nat.isDigit_of_mem_toDigits (by decide) (by decide),
    Nat.ofDigitChars_toDigits (by decide) (by decide)⟩

theorem digit?_of_isDigit {c : Char} (hc : c.isDigit = true) :
    digit? c = some (c.toNat - '0'.toNat) := by
  rw [Char.isDigit, Bool.and_eq_true, decide_eq_true_eq, decide_eq_true_eq] at hc
  exact if_pos hc

theorem digit?_of_not_isDigit {c : Char} (hc : c.isDigit = false) : digit? c = none := by
  rw [Char.isDigit, Bool.and_eq_false_iff, decide_eq_false_iff_not, decide_eq_false_iff_not] at hc
  exact if_neg fun h => hc.elim (absurd h.1) (absurd h.2)

/-- Digits are read as their value, and anything else is refused. -/
theorem digitsFrom_eq_some_iff {ds : List Char} {m n : Nat} :
    digitsFrom m ds = some n ↔ (∀ c ∈ ds, c.isDigit = true) ∧ Nat.ofDigitChars 10 ds m = n := by
  induction ds generalizing m with
  | nil =>
    rw [digitsFrom, Option.some_inj, Nat.ofDigitChars_nil]
    exact (and_iff_right (List.forall_mem_nil _)).symm
  | cons c ds ih =>
    rw [digitsFrom, List.forall_mem_cons]
    cases hc : c.isDigit with
    | true =>
      rw [digit?_of_isDigit hc, Option.bind_eq_bind, Option.bind_some, ih, Nat.ofDigitChars_cons,
        Nat.mul_comm, and_iff_right rfl]
    | false =>
      rw [digit?_of_not_isDigit hc, Option.bind_eq_bind, Option.bind_none]
      exact iff_of_false nofun fun h => Bool.false_ne_true h.1.1

theorem digits?_eq_some_iff {ds : List Char} {n : Nat} : digits? ds = some n ↔ Digits ds n := by
  cases ds with
  | nil => exact iff_of_false (Option.some_ne_none n).symm fun h => h.ne_nil rfl
  | cons c ds =>
    rw [digits?, digitsFrom_eq_some_iff]
    constructor
    · rintro ⟨hdigits, hvalue⟩
      exact ⟨List.cons_ne_nil c ds, hdigits, hvalue⟩
    · exact fun h => ⟨h.isDigit, h.value⟩

/-- A sign in front is left out, and the rest is a row of digits. -/
theorem digits?_unsigned_eq_some_iff {w : List Char} {n : Nat} :
    digits? (match w with | '+' :: cs => cs | cs => cs) = some n ↔ Numeral w n := by
  constructor
  · intro h
    split at h
    · exact .plus (digits?_eq_some_iff.mp h)
    · exact .digits (digits?_eq_some_iff.mp h)
  · rintro (h | h)
    · split
      · exact absurd (h.isDigit '+' List.mem_cons_self) (by decide)
      · exact digits?_eq_some_iff.mpr h
    · exact digits?_eq_some_iff.mpr h

/-- A numeral has one value. -/
theorem Numeral.unique {w : List Char} {m n : Nat} (hm : Numeral w m) (hn : Numeral w n) : m = n :=
  Option.some.inj
    ((digits?_unsigned_eq_some_iff.mpr hm).symm.trans (digits?_unsigned_eq_some_iff.mpr hn))

/-- **What is read as a number** is a numeral below the limit. -/
theorem readNumber?_eq_some_iff {w : List Char} {n : Nat} :
    readNumber? w = some n ↔ Numeral w n ∧ n < wordLimit := by
  unfold readNumber?
  rw [Option.bind_eq_bind, Option.bind_eq_some_iff]
  constructor
  · rintro ⟨m, hm, hlimit⟩
    split at hlimit
    · next hlt =>
      obtain rfl := Option.some.inj hlimit
      exact ⟨digits?_unsigned_eq_some_iff.mp hm, hlt⟩
    · exact absurd hlimit nofun
  · rintro ⟨hw, hlt⟩
    exact ⟨n, digits?_unsigned_eq_some_iff.mpr hw, if_pos hlt⟩

/-- **A numeral that is too large** is no number. -/
theorem readNumber?_eq_none_of_le {w : List Char} {n : Nat} (hw : Numeral w n)
    (hn : wordLimit ≤ n) :
    readNumber? w = none := by
  refine Option.eq_none_iff_forall_ne_some.mpr fun m hm => ?_
  obtain ⟨hw', hlt⟩ := readNumber?_eq_some_iff.mp hm
  rw [hw'.unique hw] at hlt
  exact absurd hn (Nat.not_le.mpr hlt)

end Text
end WindowRules
