import WindowRules.Ruleset
import WindowRules.Text.Lines

/-!
# Writing a config file

A rule is written as a block with one assignment a line: criteria, name, actions,
toggles and extras, in this order.  Blocks are set apart by blank lines.  A rule can
also be written as a comment, which keeps it in the file without its being read.
-/

namespace WindowRules
namespace Config

/-- The assignments that describe a rule, in the order they are written. -/
def entries (r : Rule) : List (String × String) :=
  (MatchField.all.filterMap fun f => (r.criteria.get f).map fun v => (f.key, v)) ++
  (r.name.map fun v => ("name", v)).toList ++
  (ActionField.all.filterMap fun f => (r.actions.get f).map fun v => (f.key, v)) ++
  (Toggle.all.filterMap fun t => (r.actions.getToggle t).map fun on => (t.key, switchText on)) ++
  r.extras

/-- One assignment, as a line. -/
def entryLine (e : String × String) : String := "    " ++ e.1 ++ " = " ++ e.2 ++ "\n"

/-- A rule as a block. -/
def writeRule (r : Rule) : String :=
  "windowrule \x7b\n" ++ String.join ((entries r).map entryLine) ++ "\x7d\n"

/-- Rules as blocks. -/
def write (rs : Ruleset) : String := "\n".intercalate (rs.map writeRule)

/-- A rule as a comment. -/
def writeComment (r : Rule) : String :=
  String.join ((Text.lines (writeRule r).toList).map fun l => "# " ++ .ofList l ++ "\n")

end Config
end WindowRules
