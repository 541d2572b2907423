import WindowRules.CommandLine.Answer
import WindowRules.Proofs.Catalog.ClassPattern
import WindowRules.Proofs.CommandLine.AuditStatus
import WindowRules.Proofs.Config.Comments

/-!
# Suggestions as config text

The suggestions for a catalog are printed for people, each under a comment that names its
application, and are meant to be pasted into the config file.  What is printed is indeed a config
text, and its rules are just the suggested ones (`suggestions_read_back`).

The texts of a catalog can be anything, so this needs that they can stand where they are put
(`App.Presentable`).  Of each text only that is asked which its place requires: a source stands in a
comment, and only a newline would end that; a class stands inside of a pattern, so it may well begin
or end with a blank; a name and a category stand as values of their own.  The pattern has more
characters than the classes, but none of those that are added ends a value or begins a comment
(`plainValue_classPattern`).
-/

namespace WindowRules

open Config

/-! ## The pattern as a value -/

theorem Pattern.mem_escape {c : Char} {s : List Char} (h : c ∈ escape s) : c = '\\' ∨ c ∈ s := by
  obtain ⟨d, hd, hc⟩ := List.mem_flatMap.mp h
  split at hc
  · rcases List.mem_cons.mp hc with rfl | hc
    · exact .inl rfl
    · exact .inr (List.mem_singleton.mp hc ▸ hd)
  · exact .inr (List.mem_singleton.mp hc ▸ hd)

namespace App

variable {a : App}

/-- The characters that put a suggested pattern together. -/
def joiningChars : List Char := ['^', '(', '|', ')', '$', '\\']

/-- A character of the alternatives is a bar, a backslash, or from a class. -/
theorem mem_alternatives {c : Char} (h : c ∈ a.alternatives) :
    c ∈ joiningChars ∨ ∃ k ∈ a.classes, c ∈ k.toList := by
  rw [alternatives] at h
  generalize a.classes = ks at h ⊢
  induction ks with
  | nil => exact absurd h List.not_mem_nil
  | cons k ks ih =>
    have hfirst : c ∈ Pattern.escape k.toList → c ∈ joiningChars ∨ ∃ l ∈ k :: ks, c ∈ l.toList := by
      intro hc
      rcases Pattern.mem_escape hc with rfl | hc
      · exact .inl (by decide)
      · exact .inr ⟨k, List.mem_cons_self, hc⟩
    by_cases hne : ks = []
    · rw [hne, List.map_singleton, List.intercalate_singleton] at h
      exact hfirst h
    · rw [List.map_cons, List.intercalate_cons_of_ne_nil (by simpa using hne), List.mem_append,
        List.mem_append, List.mem_singleton] at h
      rcases h with (h | rfl) | h
      · exact hfirst h
      · exact .inl (by decide)
      · rcases ih h with h | ⟨l, hl, hc⟩
        · exact .inl h
        · exact .inr ⟨l, List.mem_cons_of_mem k hl, hc⟩

/-- So is a character of the pattern, or it is from its ends. -/
theorem mem_classPattern {c : Char} (h : c ∈ a.classPattern.toList) :
    c ∈ joiningChars ∨ ∃ k ∈ a.classes, c ∈ k.toList := by
  have hfront : ['^', '('] ⊆ joiningChars := by decide
  have hback : [')', '$'] ⊆ joiningChars := by decide
  rcases a.toList_classPattern with hpattern | hpattern
  · rw [hpattern, List.mem_append, List.mem_append, List.mem_singleton, List.mem_singleton] at h
    rcases h with (rfl | h) | rfl
    · exact .inl (by decide)
    · exact mem_alternatives h
    · exact .inl (by decide)
  · rw [hpattern, List.mem_append, List.mem_append] at h
    rcases h with (h | h) | h
    · exact .inl (hfront h)
    · exact mem_alternatives h
    · exact .inl (hback h)

/-- **A suggested pattern can stand as a value** if no class has a character that ends one. -/
theorem plainValue_classPattern (h : ∀ k ∈ a.classes, ∀ c ∈ k.toList, c ∉ ['\n', '#', '}']) :
    PlainValue a.classPattern where
  chars c hc := by
    rcases mem_classPattern hc with hjoining | ⟨k, hk, hck⟩
    · have hall : joiningChars.all (fun d => d ∉ ['\n', '#', '}']) = true := by decide
      exact of_decide_eq_true (List.all_eq_true.mp hall c hjoining)
    · exact h k hk c hck
  head c hc := by
    have hcaret : c = '^' := by
      rcases a.toList_classPattern with hpattern | hpattern
      all_goals
        rw [hpattern] at hc
        exact (Option.some.inj hc).symm
    rw [hcaret]
    decide
  last c hc := by
    have hdollar : c = '$' := by
      rcases a.toList_classPattern with hpattern | hpattern
      · rw [hpattern, List.getLast?_append] at hc
        exact (Option.some.inj hc).symm
      · rw [hpattern, List.getLast?_append] at hc
        exact (Option.some.inj hc).symm
    rw [hdollar]
    decide

/-! ## What is suggested -/

/-- An application whose suggestion can be written into a config file. -/
structure Presentable (a : App) : Prop where
  source : '\n' ∉ a.source.toList
  classes : ∀ k ∈ a.classes, ∀ c ∈ k.toList, c ∉ ['\n', '#', '}']
  name : PlainValue a.name
  category : PlainValue a.category

instance : DecidablePred Presentable := fun a =>
  decidable_of_iff ('\n' ∉ a.source.toList ∧
      (a.classes.all fun k => k.toList.all fun c => decide (c ∉ ['\n', '#', '}'])) = true ∧
      PlainValue a.name ∧ PlainValue a.category) <| by
    simp only [List.all_eq_true, decide_eq_true_eq]
    exact ⟨fun h => ⟨h.1, h.2.1, h.2.2.1, h.2.2.2⟩,
      fun h => ⟨h.source, h.classes, h.name, h.category⟩⟩

theorem wellFormed_suggestedRule (h : a.Presentable) : a.suggestedRule.WellFormed where
  criteria f v hv := by
    cases f with
    | windowClass =>
      obtain rfl : a.classPattern = v := Option.some.inj hv
      exact plainValue_classPattern h.classes
    | _ => cases hv
  name v hv := by
    obtain rfl : a.name = v := Option.some.inj hv
    exact h.name
  actions f v hv := by
    cases f with
    | tag =>
      obtain ⟨-, rfl⟩ : ¬ a.category.isEmpty ∧ a.category = v := by
        simpa [suggestedRule, Actions.get] using hv
      exact h.category
    | _ => cases hv
  extras e he := absurd he List.not_mem_nil

end App

namespace CommandLine

/-- **A suggestion has the tokens of its rule.**  The comment over it has none, and neither has the
blank line behind it. -/
theorem tokens_suggestionText_append {a : App} (h : a.Presentable) (s : List Char) :
    tokens ((suggestionText a).toList ++ s) = ruleTokens a.suggestedRule ++ tokens s := by
  have hnewline :
      '\n' ∉ commentLine (a.name.toList ++ ' ' :: '(' :: (a.source.toList ++ [')'])) := by
    have hname : '\n' ∉ a.name.toList := fun hmem => h.name.chars _ hmem (by decide)
    exact notMem_commentLine (by simp [hname, h.source])
  have hsplit : (suggestionText a).toList ++ s =
      commentLine (a.name.toList ++ ' ' :: '(' :: (a.source.toList ++ [')'])) ++ '\n' ::
        ((writeRule a.suggestedRule).toList ++ ([] ++ '\n' :: s)) := by
    simp [suggestionText, commentLine]
  rw [hsplit, tokens_append_newline, tokens_of_notMem hnewline, lineTokens_commentLine,
    tokens_writeRule (App.wellFormed_suggestedRule h), tokens_append_newline, tokens_nil]
  rfl

/-- The tokens of all suggestions. -/
theorem tokens_suggestions {apps : List App} (h : ∀ a ∈ apps, a.Presentable) :
    tokens (String.join (apps.map suggestionText)).toList =
      (apps.map App.suggestedRule).flatMap ruleTokens := by
  induction apps with
  | nil => exact tokens_nil
  | cons a apps ih =>
    rw [List.map_cons, String.join_cons, String.toList_append,
      tokens_suggestionText_append (h a List.mem_cons_self),
      ih fun b hb => h b (List.mem_cons_of_mem a hb)]
    rfl

/-- **What is printed about applications is a config text, and its rules are those suggested.** -/
theorem read_suggestionsText {apps : List App} (h : ∀ a ∈ apps, a.Presentable) :
    read (suggestionsText apps) = apps.map App.suggestedRule := by
  cases apps with
  | nil => decide +kernel
  | cons a apps =>
    have hrules : ∀ r ∈ (a :: apps).map App.suggestedRule, r.WellFormed := by
      intro r hr
      obtain ⟨b, hb, rfl⟩ := List.mem_map.mp hr
      exact App.wellFormed_suggestedRule (h b hb)
    calc read (suggestionsText (a :: apps))
        = readTokens (tokens (String.join ((a :: apps).map suggestionText)).toList) := rfl
      _ = (a :: apps).map App.suggestedRule := by
          rw [tokens_suggestions h, readTokens_flatMap_ruleTokens hrules]

/-- The answer to a request for suggestions. -/
theorem answer_suggest {w : Surroundings} {config : Option String} {path : String} {s : Session}
    {c : Catalog} (hsession : w.session config = .ok s) (hcatalog : w.catalog path = .ok c) :
    Request.answer w (.suggest config path) =
      { output := suggestionsText (c.uncovered s.rules) } := by
  have hanswer : Request.answer? w (.suggest config path) =
      .ok { output := suggestionsText (c.uncovered s.rules) } := by
    rw [Request.answer?, hsession, hcatalog]
    rfl
  rw [Request.answer, hanswer]

/-- **Suggestions can be pasted into the config file.**  If the texts of the applications that no
rule mentions can stand where they are put, then what is printed about these applications reads as
the rules that are suggested for them, in the order of the catalog, and as no rule if every
application is mentioned.  In a session that starts with these rules, this text is the whole answer
to the request. -/
theorem suggestions_read_back (c : Catalog) (rs : Ruleset)
    (h : ∀ a ∈ c.uncovered rs, a.Presentable) :
    read (suggestionsText (c.uncovered rs)) = (c.uncovered rs).map App.suggestedRule ∧
      ∀ (w : Surroundings) (config : Option String) (path : String), w.HasRoom →
        w.rules config = .ok rs → w.catalog path = .ok c →
          Request.answer w (.suggest config path) =
            { output := suggestionsText (c.uncovered rs) } := by
  refine ⟨read_suggestionsText h, fun w config path hroom hrules hcatalog => ?_⟩
  exact answer_suggest (Surroundings.session_of_hasRoom hroom hrules) hcatalog

/-- An application with texts that come close to being something else. -/
def awkwardApp : App :=
  { name := "Files = \x7b", classes := [" a=\x7bb.c ", "windowrule \x7b\r", "kitty|("],
    source := "\r# \x7d", category := "= a" }

/-- A catalog with an application that is mentioned, one that is not, and one without classes. -/
def awkwardCatalog : Catalog :=
  ⟨[{ name := "Firefox", classes := ["firefox"] }, awkwardApp, { name := "", classes := [] }]⟩

/-- A config file that mentions one application. -/
def firefoxText : String := "windowrule \x7b\n  match:class = ^(Firefox|firefox)$\n\x7d\n"

/-- The text of the catalog. -/
def awkwardCatalogText : String :=
  "\x7b\"apps\": [\x7b\"name\": \"Firefox\", \"classes\": [\"firefox\"]\x7d, " ++
    "\x7b\"name\": \"Files = \x7b\", \"category\": \"= a\", \"source\": \"\\r# \x7d\", " ++
    "\"classes\": [\" a=\x7bb.c \", \"windowrule \x7b\\r\", \"kitty|(\"]\x7d, " ++
    "\x7b\"name\": \"\", \"classes\": []\x7d]\x7d"

/-- A config file and a file with a catalog. -/
def catalogSurroundings : Surroundings where
  environment := { get? := fun _ => none }
  file path :=
    if path = "rules.conf" then .ok (firefoxText.toList.flatMap String.utf8EncodeChar)
    else if path = "apps.json" then .ok (awkwardCatalogText.toList.flatMap String.utf8EncodeChar)
    else .error .missing
  compositor := .absent

theorem suggestions_read_back_awkwardCatalog :
    (∀ a ∈ awkwardCatalog.uncovered (read firefoxText), a.Presentable) ∧
    awkwardApp ∈ awkwardCatalog.uncovered (read firefoxText) ∧
    read (Request.answer catalogSurroundings (.suggest (some "rules.conf") "apps.json")).output =
      (awkwardCatalog.uncovered (read firefoxText)).map App.suggestedRule := by
  have hpresentable : ∀ a ∈ awkwardCatalog.uncovered (read firefoxText), a.Presentable := by
    decide +kernel
  have hrules : catalogSurroundings.rules (some "rules.conf") = .ok (read firefoxText) :=
    Surroundings.rules_of_text (text_flatMap_utf8EncodeChar (by decide) firefoxText)
  have hcatalog : catalogSurroundings.catalog "apps.json" = .ok awkwardCatalog := by
    have htext : FileContent.text "apps.json" (catalogSurroundings.file "apps.json") =
        .ok awkwardCatalogText := text_flatMap_utf8EncodeChar (by decide) awkwardCatalogText
    have hread : Catalog.read awkwardCatalogText = .ok awkwardCatalog := by decide +kernel
    rw [Surroundings.catalog, htext]
    simp only [hread]
    rfl
  obtain ⟨hback, hanswer⟩ := suggestions_read_back awkwardCatalog (read firefoxText) hpresentable
  refine ⟨hpresentable, by decide +kernel, ?_⟩
  have hroom : catalogSurroundings.HasRoom := Surroundings.hasRoom_of_unset rfl rfl
  rw [hanswer _ _ _ hroom hrules hcatalog]
  exact hback

end CommandLine

end WindowRules
