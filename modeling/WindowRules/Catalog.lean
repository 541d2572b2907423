import WindowRules.Json.Reader
import WindowRules.Pattern.Escape
import WindowRules.Ruleset

/-!
# Catalogs of applications

A catalog lists applications with the classes of their windows.  An application that
no rule mentions can be given a rule: one that matches its classes and nothing else,
is named after it, and tags its windows with its category.
-/

namespace WindowRules

/-- An application. -/
structure App where
  name : String
  /-- The classes of its windows. -/
  classes : List String
  /-- Where it was installed from. -/
  source : String := ""
  category : String := ""
  deriving DecidableEq

/-- A catalog of applications. -/
structure Catalog where
  apps : List App := []
  deriving DecidableEq

namespace App

/-- An application, as JSON. -/
def reader : Json.Reader App :=
  Json.record
    [.needed "name" Json.text fun a v => { a with name := v },
     .needed "classes" (Json.list Json.text) fun a v => { a with classes := v },
     .optional "source" Json.text fun a v => { a with source := v },
     .optional "category" Json.text fun a v => { a with category := v }]
    ⟨"", [], "", ""⟩

/-- A text as a pattern that only this text matches. -/
def literal (s : String) : String := .ofList (Pattern.escape s.toList)

/-- A pattern that the classes of an application match and no others. -/
def classPattern (a : App) : String :=
  match a.classes.map literal with
  | [single] => "^" ++ single ++ "$"
  | several => "^(" ++ "|".intercalate several ++ ")$"

/-- A rule to start with for an application. -/
def suggestedRule (a : App) : Rule where
  name := some a.name
  criteria := { windowClass := some a.classPattern }
  actions := { tag := if a.category.isEmpty then none else some a.category }

end App

namespace Catalog

/-- A catalog, as JSON. -/
def reader : Json.Reader Catalog :=
  Json.record [.optional "apps" (Json.list App.reader) fun c v => { c with apps := v }] {}

/-- The catalog that a JSON text describes. -/
def read (text : String) : Except Json.Fault Catalog := Json.read reader text

/-- The applications of a category. -/
def ofCategory (c : Catalog) (category : String) : List App :=
  c.apps.filter (·.category = category)

/-- The applications none of whose classes a rule mentions. -/
def uncovered (c : Catalog) (rs : Ruleset) : List App :=
  c.apps.filter fun a => !a.classes.any (Ruleset.coversClass rs)

end Catalog

end WindowRules
