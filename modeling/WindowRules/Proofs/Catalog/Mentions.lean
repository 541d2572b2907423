import WindowRules.Proofs.Catalog.Coverage

/-!
# Classes that a pattern quotes

A class is covered if its lower-case form is in the lower-case form of a class pattern.  One would
think that a class which is in a pattern letter for letter is covered all the more.  It is not
always, since in the pattern a capital sigma may have another lower-case form than in the class
alone: a class that ends in a sigma, inside a longer word, is not found there
(`Ruleset.coversClass_quoted_inside_word`).

It is found wherever its sigmas have the same form in the pattern, and so a class is covered by
every pattern that quotes it exactly if none of its sigmas is loose
(`Ruleset.coversClass_of_quotes`).
-/

namespace WindowRules

open Text

namespace Ruleset

theorem coversClass_iff {rs : Ruleset} {k : String} :
    rs.coversClass k = true ↔ ∃ r ∈ rs, ∃ pattern, r.criteria.windowClass = some pattern ∧
      toLower k.toList <:+: toLower pattern.toList := by
  simp only [coversClass, List.any_eq_true, mentionsClass, Option.any_eq_true, occursIn_iff]

/-- A class is covered if no application that has it is ever uncovered, and only then. -/
theorem coversClass_iff_notMem_uncovered {rs : Ruleset} {k : String} :
    rs.coversClass k = true ↔ ∀ (c : Catalog) (a : App), k ∈ a.classes → a ∉ c.uncovered rs := by
  constructor
  · intro hcovers c a hk ha
    exact Bool.false_ne_true ((Catalog.mem_uncovered_iff.mp ha).2 k hk ▸ hcovers)
  · intro h
    by_contra hcovers
    have halone : ∀ l ∈ [k], rs.coversClass l = false :=
      List.forall_mem_singleton.mpr (Bool.eq_false_iff.mpr hcovers)
    exact h ⟨[⟨"", [k], "", ""⟩]⟩ ⟨"", [k], "", ""⟩ List.mem_cons_self
      (Catalog.mem_uncovered_iff.mpr ⟨List.mem_cons_self, halone⟩)

/-- The class pattern of some rule has a class in it letter for letter, between two other texts. -/
def Quotes (rs : Ruleset) (k : String) (front back : List Char) : Prop :=
  ∃ r ∈ rs, ∃ pattern, r.criteria.windowClass = some pattern ∧
    pattern.toList = front ++ k.toList ++ back

/-- **A quoted class is covered** where its sigmas have the form that they have in the class
alone. -/
theorem Quotes.coversClass {rs : Ruleset} {k : String} {front back : List Char}
    (h : rs.Quotes k front back) (hsame : SameSigmas front k.toList back) :
    rs.coversClass k = true := by
  obtain ⟨r, hr, pattern, hpattern, htext⟩ := h
  exact coversClass_iff.mpr ⟨r, hr, pattern, hpattern, htext ▸ hsame.toLower_isInfix⟩

/-- The ruleset with one rule, whose class pattern quotes a class. -/
def quoting (k : String) (front back : List Char) : Ruleset :=
  [{ criteria := { windowClass := some (.ofList (front ++ k.toList ++ back)) } }]

theorem quotes_quoting (k : String) (front back : List Char) :
    (quoting k front back).Quotes k front back :=
  ⟨_, List.mem_cons_self, _, rfl, String.toList_ofList⟩

theorem coversClass_quoting_iff {k : String} {front back : List Char} :
    (quoting k front back).coversClass k = true ↔
      toLower k.toList <:+: toLower (front ++ k.toList ++ back) := by
  rw [coversClass_iff]
  constructor
  · rintro ⟨r, hr, pattern, hpattern, hinfix⟩
    rw [List.mem_singleton.mp hr] at hpattern
    rwa [← Option.some.inj hpattern, String.toList_ofList] at hinfix
  · intro hinfix
    refine ⟨_, List.mem_cons_self, _, rfl, ?_⟩
    rwa [String.toList_ofList]

/-- **When a class that is quoted is covered.**  It is covered by a pattern in which its sigmas have
the form that they have in the class alone, and then no application with the class is uncovered.  It
is so with all patterns if the class has no loose sigma, and only then. -/
theorem coversClass_of_quotes (k : String) :
    (∀ (rs : Ruleset) (front back : List Char), rs.Quotes k front back →
      SameSigmas front k.toList back →
        rs.coversClass k = true ∧ ∀ (c : Catalog) (a : App), k ∈ a.classes → a ∉ c.uncovered rs) ∧
    ((∀ (rs : Ruleset) (front back : List Char), rs.Quotes k front back →
        rs.coversClass k = true ∧ ∀ (c : Catalog) (a : App), k ∈ a.classes → a ∉ c.uncovered rs) ↔
      ¬ HasLooseSigma k.toList) := by
  have hcovered : ∀ rs : Ruleset, rs.coversClass k = true ∧
      (∀ (c : Catalog) (a : App), k ∈ a.classes → a ∉ c.uncovered rs) ↔ rs.coversClass k = true :=
    fun rs => and_iff_left_of_imp coversClass_iff_notMem_uncovered.mp
  simp only [hcovered]
  refine ⟨fun rs front back hquotes hsame => hquotes.coversClass hsame, ?_⟩
  rw [← toLower_infix_iff]
  constructor
  · intro h front back
    exact coversClass_quoting_iff.mp (h _ front back (quotes_quoting k front back))
  · rintro h rs front back ⟨r, hr, pattern, hpattern, htext⟩
    exact coversClass_iff.mpr ⟨r, hr, pattern, hpattern, htext ▸ h front back⟩

/-- A pattern that has a class with a sigma at its end as an alternative of its own. -/
theorem coversClass_of_quotes_alternative :
    (quoting "aΣ" "^(".toList "|b)$".toList).Quotes "aΣ" "^(".toList "|b)$".toList ∧
      SameSigmas "^(".toList "aΣ".toList "|b)$".toList ∧
      (quoting "aΣ" "^(".toList "|b)$".toList).coversClass "aΣ" = true := by
  have hquotes := quotes_quoting "aΣ" "^(".toList "|b)$".toList
  have hsame : SameSigmas "^(".toList "aΣ".toList "|b)$".toList := by decide +kernel
  exact ⟨hquotes, hsame, ((coversClass_of_quotes "aΣ").1 _ _ _ hquotes hsame).1⟩

/-- An application with one class, which ends in a sigma. -/
def sigmaApp : App := { name := "Sigma", classes := ["aΣ"] }

/-- A pattern with that class inside a longer word quotes the class and does not cover it, and the
application is uncovered. -/
theorem coversClass_quoted_inside_word :
    (quoting "aΣ" "^".toList "b$".toList).Quotes "aΣ" "^".toList "b$".toList ∧
      (quoting "aΣ" "^".toList "b$".toList).coversClass "aΣ" = false ∧
      sigmaApp ∈ Catalog.uncovered ⟨[sigmaApp]⟩ (quoting "aΣ" "^".toList "b$".toList) :=
  ⟨quotes_quoting _ _ _, by decide +kernel, by decide +kernel⟩

end Ruleset

end WindowRules
