import WindowRules.Proofs.Matching
import WindowRules.Proofs.Pattern.Literal

/-!
# A suggested rule matches the windows of its application

The rule that is suggested for an application has one pattern, for the class of a window.  The
pattern has the classes of the application between the anchors for the two ends of a text, with a
backslash before each special character.  So the rule matches a window exactly if the class of the
window is one of them (`App.isMatch_classPattern_iff`): not if it only begins like one of them, and
no character of a class has another meaning in the pattern.

Patterns that are too large once they are compiled are none, and an application with many classes
can have such a pattern.  Its rule matches nothing.
-/

namespace WindowRules
namespace App

open Pattern

/-- **The pattern of an application matches its classes and nothing else.** -/
theorem isMatch_classPattern_iff {a : App} (hclasses : a.classes ≠ []) {p : Pattern}
    (hp : compile? a.classPattern = some p) (k : String) :
    p.isMatch k = true ↔ k ∈ a.classes := by
  have hparse := (compile_eq_some_iff.mp hp).1
  rw [isMatch_iff_occursIn hp]
  rcases a.toList_classPattern_cases with ⟨single, hsingle, hpattern⟩ | hpattern
  · rw [hpattern] at hparse
    rw [occursIn_of_parse_literal hparse, hsingle, List.mem_singleton, String.toList_inj]
  · have htexts : a.classes.map String.toList ≠ [] := mt List.map_eq_nil_iff.mp hclasses
    rw [hpattern, alternatives, ← Function.comp_def escape, ← List.map_map] at hparse
    rw [occursIn_of_parse_alternatives htexts hparse, List.mem_map]
    simp only [String.toList_inj, exists_eq_right]

/-- A suggested rule looks at the class of a window only. -/
theorem matches_suggestedRule (a : App) (w : Window) :
    a.suggestedRule.matches w = w.windowClass.any (patternMatches a.classPattern) :=
  Bool.and_true _

/-- A rule matches the windows of an application and no others, with what a cache remembers. -/
structure MatchedExactly (a : App) (r : Rule) (c : PatternCache) : Prop where
  /-- A window of which only the class is known is matched if the application has this class. -/
  withClass : ∀ k : String,
    ((PatternCache.ruleMatches r { windowClass := some k }).run c).1 = true ↔ k ∈ a.classes
  /-- A window without a class is not matched, whatever else is known of it. -/
  withoutClass : ∀ w : Window, w.windowClass = none →
    ((PatternCache.ruleMatches r w).run c).1 = false
  /-- The other attributes of a window do not count. -/
  congr : ∀ w w' : Window, w.windowClass = w'.windowClass →
    ((PatternCache.ruleMatches r w).run c).1 = ((PatternCache.ruleMatches r w').run c).1

/-- **A suggested rule matches exactly its application**, unless its pattern is too large to be
one. -/
theorem matchedExactly_suggestedRule {a : App} (hclasses : a.classes ≠ [])
    (hpattern : isPattern a.classPattern = true) {c : PatternCache} (hc : c.Sound) :
    a.MatchedExactly a.suggestedRule c := by
  obtain ⟨p, hp⟩ := Option.isSome_iff_exists.mp hpattern
  have hanswer (w : Window) : ((PatternCache.ruleMatches a.suggestedRule w).run c).1 =
      w.windowClass.any (patternMatches a.classPattern) :=
    (PatternCache.ruleMatches_answers a.suggestedRule w c hc).1.trans (a.matches_suggestedRule w)
  refine ⟨fun k => ?_, fun w hw => ?_, fun w w' hww' => ?_⟩
  · rw [hanswer, Option.any_some, patternMatches, hp, Option.any_some]
    exact isMatch_classPattern_iff hclasses hp k
  · rw [hanswer, hw]
    rfl
  · rw [hanswer, hanswer, hww']

/-- An application whose classes begin like one another, and have characters that mean something in
a pattern. -/
def awkwardApp : App :=
  { name := "awkward", classes := ["", "org", "org.a", "org|a", "(a)$", "a\n*", "a\nb"] }

/-- A cache that has been asked whether the pattern of that application is one. -/
def awkwardCache : PatternCache := ((PatternCache.isPattern awkwardApp.classPattern).run {}).2

theorem matchedExactly_awkwardApp :
    awkwardApp.classes ≠ [] ∧ isPattern awkwardApp.classPattern = true ∧
    awkwardCache.Sound ∧ awkwardApp.MatchedExactly awkwardApp.suggestedRule awkwardCache := by
  have hclasses : awkwardApp.classes ≠ [] := List.cons_ne_nil _ _
  have hpattern : isPattern awkwardApp.classPattern = true := by decide +kernel
  have hcache : awkwardCache.Sound :=
    (PatternCache.isPattern_answers _ {} PatternCache.sound_empty).2
  exact ⟨hclasses, hpattern, hcache, matchedExactly_suggestedRule hclasses hpattern hcache⟩

end App
end WindowRules
