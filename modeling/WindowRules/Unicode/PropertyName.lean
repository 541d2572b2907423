import WindowRules.Unicode.Age
import WindowRules.Unicode.Segmentation

/-!
# Properties by name

Patterns name a property of characters either by one name, as in `Greek` or
`Lu`, or by the property and its value, as in `Script` and `Greek`.  Names are
compared loosely: case, blanks, hyphens and underscores do not count, nor does a
leading `is`.
-/

namespace WindowRules
namespace Unicode

/-- The characters of a name that count, in lower case. -/
def countedChars (name : List Char) : List Char :=
  name.filterMap fun c =>
    if c = ' ' ∨ c = '_' ∨ c = '-' ∨ 0x80 ≤ c.toNat then none else some c.toLower

/-- The loose form of a name.  A leading `is` is dropped, except before a lone
`c`, where the whole is the short name of a property. -/
def looseName (name : List Char) : String :=
  match name with
  | i :: s :: rest =>
    if i.toLower = 'i' ∧ s.toLower = 's' then
      let counted := countedChars rest
      if counted = ['c'] then "isc" else String.ofList counted
    else String.ofList (countedChars name)
  | _ => String.ofList (countedChars name)

/-- A general category or a union of them, by its name in loose form. -/
def category? (name : String) : Option CharSet :=
  match name with
  | "any" => some .full
  | "assigned" => some (category "cn").complement
  | "ascii" => some (.ofText "0-7f")
  | _ =>
    match categoryGroups.find? (·.1.contains name) with
    | some group => some (categories group.2)
    | none => NamedRanges.find? categoryTable name

/-- The characters that one name stands for: a yes-or-no property, else a general
category, else a script.  Three names are short for a category and for a property
both, and mean the category. -/
def property? (name : List Char) : Option CharSet :=
  let loose := looseName name
  (if loose = "cf" ∨ loose = "sc" ∨ loose = "lc" then none else trait? loose)
    <|> category? loose <|> script? loose

/-- The characters whose property has a given value. -/
def propertyValue? (name value : List Char) : Option CharSet :=
  let loose := looseName value
  match looseName name with
  | "gc" | "generalcategory" => category? loose
  | "sc" | "script" => script? loose
  | "scx" | "scriptextensions" => scriptUsers? loose
  | "age" => upToAge? loose
  | "gcb" | "graphemeclusterbreak" => graphemeBreak? loose
  | "wb" | "wordbreak" => wordBreak? loose
  | "sb" | "sentencebreak" => sentenceBreak? loose
  | _ => none

end Unicode
end WindowRules
