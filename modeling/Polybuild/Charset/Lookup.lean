import Polybuild.Charset.Basic

/-!
# Looking up sets of characters by name

A pattern may name a general category, a script or a property. In a name, capitals, blanks,
dashes, underscores and characters outside ASCII do not count, nor does `is` at its start. A
bare name is looked up among the properties first, then among the categories, then among the
scripts. A name with a value says which kind is meant.
-/

namespace Polybuild

namespace Charset

/-- A name reduced to what counts in it. -/
def plainName (name : String) : String :=
  let cs := name.toList.filter fun c => c.toNat < 0x80
  let (is, cs) :=
    match name.toList with
    | a :: b :: _ =>
        if (a = 'i' ∨ a = 'I') ∧ (b = 's' ∨ b = 'S') then (true, cs.drop 2) else (false, cs)
    | _ => (false, cs)
  let cs := (cs.filter fun c => c ≠ ' ' && c ≠ '_' && c ≠ '-').map Char.toLower
  if is && cs == ['c'] then "isc" else String.ofList cs

/-- The characters of a category, or of one of the sets that go by a name beside them. -/
def category? (name : String) : Option Charset :=
  if name = "any" then some (.complement empty)
  else if name = "assigned" then some (.complement (ofCategories [.unassigned]))
  else if name = "ascii" then some (range 0 0x7F)
  else (Category.named? name).map ofCategories

/-- The set that a bare name stands for. -/
def named? (name : String) : Option Charset :=
  let name := plainName name
  let property := if name = "cf" ∨ name = "sc" ∨ name = "lc" then none else Property.named? name
  match property with
  | some p => some (ofProperty p)
  | none =>
      match category? name with
      | some s => some s
      | none => (Script.named? name).map ofScript

/-- The set that a name with a value stands for. -/
def valued? (name value : String) : Option Charset :=
  let name := plainName name
  let value := plainName value
  if ["gc", "generalcategory", "category"].contains name then category? value
  else if ["sc", "script"].contains name then (Script.named? value).map ofScript
  else if ["scx", "scriptextensions"].contains name then
    (Script.named? value).map ofScriptExtension
  else none

/-- The characters of ASCII in a class that goes by a name between colons. -/
def asciiClass? (name : String) : Option Charset :=
  match name with
  | "alnum" => some (ofTable "30-39 41-5A 61-7A")
  | "alpha" => some (ofTable "41-5A 61-7A")
  | "ascii" => some (ofTable "0-7F")
  | "blank" => some (ofTable "9 20")
  | "cntrl" => some (ofTable "0-1F 7F")
  | "digit" => some (ofTable "30-39")
  | "graph" => some (ofTable "21-7E")
  | "lower" => some (ofTable "61-7A")
  | "print" => some (ofTable "20-7E")
  | "punct" => some (ofTable "21-2F 3A-40 5B-60 7B-7E")
  | "space" => some (ofTable "9-D 20")
  | "upper" => some (ofTable "41-5A")
  | "word" => some (ofTable "30-39 41-5A 5F 61-7A")
  | "xdigit" => some (ofTable "30-39 41-46 61-66")
  | _ => none

end Charset

end Polybuild
