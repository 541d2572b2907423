import WindowRules.Proofs.Catalog.ClassPattern

/-!
# Covering an application

An application counts as covered if the text of some class pattern has one of its classes in it,
case left aside.  This is a test of the text, not of what the pattern matches: a rule for the title
covers nothing, and a pattern that matches a class may be written in another way.

So a rule that is suggested for an application matches its classes and need not cover it.  Adding
the rule can only shorten the list of uncovered applications (`Catalog.uncovered_push_sublist`), and
whether the application itself leaves the list depends on how its classes are written in the pattern
(`Catalog.uncovered_push_suggestedRule`).
-/

namespace WindowRules

open Pattern Text

theorem Ruleset.coversClass_push (rs : Ruleset) (r : Rule) (k : String) :
    (rs.push r).coversClass k = (rs.coversClass k || mentionsClass r k) := by
  rw [coversClass, push, List.any_append, List.any_cons, List.any_nil, Bool.or_false]
  rfl

/-- A rule that is suggested for an application mentions a class if its pattern has it as a
piece. -/
theorem Ruleset.mentionsClass_suggestedRule (a : App) (k : String) :
    mentionsClass a.suggestedRule k = true ↔
      toLower k.toList <:+: toLower a.classPattern.toList :=
  occursIn_iff

namespace Catalog

theorem mem_uncovered_iff {c : Catalog} {rs : Ruleset} {a : App} :
    a ∈ c.uncovered rs ↔ a ∈ c.apps ∧ ∀ k ∈ a.classes, rs.coversClass k = false := by
  rw [uncovered, List.mem_filter, Bool.not_eq_true', List.any_eq_false]
  simp only [Bool.not_eq_true]

/-- **More rules leave fewer applications uncovered.** -/
theorem uncovered_push_sublist (c : Catalog) (rs : Ruleset) (r : Rule) :
    (c.uncovered (rs.push r)).Sublist (c.uncovered rs) := by
  refine List.monotone_filter_right c.apps fun a ha => ?_
  rw [Bool.not_eq_true', List.any_eq_false] at ha ⊢
  intro k hk hcovers
  refine ha k hk ?_
  rw [Ruleset.coversClass_push, hcovers, Bool.true_or]

/-- An uncovered application stays so if the new rule mentions none of its classes, and only
then. -/
theorem mem_uncovered_push_iff {c : Catalog} {rs : Ruleset} {a : App} (ha : a ∈ c.uncovered rs)
    (r : Rule) :
    a ∈ c.uncovered (rs.push r) ↔ ∀ k ∈ a.classes, Ruleset.mentionsClass r k = false := by
  obtain ⟨hmem, hbefore⟩ := mem_uncovered_iff.mp ha
  rw [mem_uncovered_iff, and_iff_right hmem]
  refine forall₂_congr fun k hk => ?_
  rw [Ruleset.coversClass_push, hbefore k hk, Bool.false_or]

/-- **What accepting a suggestion does to the list of uncovered applications.**  No application
enters it.  The one that the rule was suggested for leaves it exactly if one of its classes is in
the text of the pattern, case left aside.  That is so if one of the classes has its special
characters in front, and it is not so if each has an inner character behind another character than a
backslash. -/
theorem uncovered_push_suggestedRule (c : Catalog) (rs : Ruleset) (a : App)
    (ha : a ∈ c.uncovered rs) :
    (c.uncovered (rs.push a.suggestedRule)).Sublist (c.uncovered rs) ∧
      (a ∉ c.uncovered (rs.push a.suggestedRule) ↔
        ∃ k ∈ a.classes, toLower k.toList <:+: toLower a.classPattern.toList) ∧
      ((∃ k ∈ a.classes, SpecialInFront k.toList) → a ∉ c.uncovered (rs.push a.suggestedRule)) ∧
      ((∀ k ∈ a.classes, ¬ k.toList.IsChain Guarded) →
        a ∈ c.uncovered (rs.push a.suggestedRule)) := by
  have hleaves : a ∉ c.uncovered (rs.push a.suggestedRule) ↔
      ∃ k ∈ a.classes, toLower k.toList <:+: toLower a.classPattern.toList := by
    rw [mem_uncovered_push_iff ha]
    simp only [not_forall, Bool.not_eq_false, Ruleset.mentionsClass_suggestedRule, exists_prop]
  refine ⟨uncovered_push_sublist c rs _, hleaves, ?_, fun hclasses => ?_⟩
  · rintro ⟨k, hk, hfront⟩
    exact hleaves.mpr ⟨k, hk, App.toLower_infix_classPattern hk hfront⟩
  · by_contra hgone
    obtain ⟨k, hk, hinfix⟩ := hleaves.mp hgone
    exact App.not_toLower_infix_classPattern (hclasses k hk) a hinfix

/-- An application with two classes, of which one has no special characters. -/
def firefox : App :=
  { name := "Firefox", classes := ["firefox-esr", "Firefox"], category := "browser" }

theorem uncovered_push_suggestedRule_firefox :
    firefox ∈ uncovered ⟨[firefox]⟩ [] ∧
      firefox ∉ uncovered ⟨[firefox]⟩ (Ruleset.push [] firefox.suggestedRule) := by
  have huncovered : firefox ∈ uncovered ⟨[firefox]⟩ [] := by decide
  have hfront : SpecialInFront "Firefox".toList := by decide
  have hclass : "Firefox" ∈ firefox.classes := by decide
  exact ⟨huncovered,
    (uncovered_push_suggestedRule _ _ _ huncovered).2.2.1 ⟨"Firefox", hclass, hfront⟩⟩

/-- An application whose only class has full stops inside. -/
def nautilus : App :=
  { name := "Nautilus", classes := ["org.gnome.Nautilus"], category := "files" }

/-- It stays uncovered with the rule that is suggested for it. -/
theorem nautilus_mem_uncovered_push :
    nautilus.classes ≠ [] ∧ nautilus ∈ uncovered ⟨[nautilus]⟩ [] ∧
      nautilus ∈ uncovered ⟨[nautilus]⟩ (Ruleset.push [] nautilus.suggestedRule) := by
  decide +kernel

end Catalog

end WindowRules
