import WindowRules.Unicode.CharSet

/-!
# Rows of a property table

A property with named values is kept as a table with one row a value: the names
of the value, in the loose form that `PropertyName` gives every name, and the
characters that have it, as text.  The text is read when the row is asked for.
-/

namespace WindowRules
namespace Unicode

/-- One value of a property. -/
structure NamedRanges where
  /-- The names of the value, in loose form. -/
  names : List String
  /-- The characters with the value, as a table of ranges. -/
  ranges : String

namespace NamedRanges

/-- The characters of a row. -/
def chars (row : NamedRanges) : CharSet := .ofText row.ranges

/-- The characters of the row with a given name. -/
def find? (table : List NamedRanges) (name : String) : Option CharSet :=
  (table.find? (·.names.contains name)).map chars

end NamedRanges
end Unicode
end WindowRules
