import Polybuild.Json.Value
import Polybuild.Text.Keyed

/-!
# Reading records out of values

A record is written as an object with the names of its fields, or as a list of their values in
order. `record?` gives the values of the named fields, `none` for those that are missing. Fields
of other names are passed over, but a named field must not come twice.

Forms of structured text differ in what may be passed over, in whether a list may go on behind
the last field, and in which numerals are numbers of 32 bits; `ReadRules` says that.
-/

namespace Polybuild

namespace Json

/-- How strictly values are read. -/
structure ReadRules where
  /-- Whether the value of a field that is not asked for may be passed over. -/
  mayIgnore : Value → Bool
  /-- Whether a list may hold more values than the record has fields. -/
  longLists : Bool
  /-- The number of 32 bits that a numeral stands for. -/
  word? : Numeral → Option Nat

namespace ReadRules

/-- Values of the strict form. What is passed over need only be well-formed. -/
def strict : ReadRules := ⟨fun _ => true, false, Numeral.word?⟩

/-- Values of the relaxed form. What is passed over must be readable. -/
def relaxed : ReadRules := ⟨Value.readable Numeral.hasValue, true, Numeral.wholeOfNearest?⟩

end ReadRules

namespace Value

/-- Whether a name comes at most once among the fields of an object. -/
def comesOnce (fields : List (String × Value)) (name : String) : Bool :=
  (fields.filter fun field => field.1 == name).length ≤ 1

/-- The values of the named fields of a record, in the order of the names. -/
def record? (rules : ReadRules) (names : List String) (v : Value) :
    Option (List (Option Value)) :=
  match v with
  | object fields =>
      if names.all (comesOnce fields) &&
          fields.all fun field => names.contains field.1 || rules.mayIgnore field.2 then
        some (names.map fun name => fields.lookup name)
      else none
  | array items =>
      if items.length ≤ names.length || rules.longLists then
        some (List.range names.length |>.map fun i => items[i]?)
      else none
  | _ => none

/-- The text that a value is. -/
def text? : Value → Option String
  | string s => some s
  | _ => none

/-- The truth value that a value is. -/
def bool? : Value → Option Bool
  | bool b => some b
  | _ => none

/-- The number of 32 bits that a value is. -/
def word? (rules : ReadRules) : Value → Option UInt32
  | number n => (rules.word? n).map UInt32.ofNat
  | _ => none

/-- The list that a value is, each item read by `read`. -/
def list? {α : Type} (read : Value → Option α) : Value → Option (List α)
  | array items => items.mapM read
  | _ => none

/-- The table that a value is, each value read by `read`. -/
def table? {α : Type} (read : Value → Option α) : Value → Option (Keyed α)
  | object fields =>
      (fields.mapM fun field => (read field.2).map fun a => (field.1, a)).map Keyed.ofList
  | _ => none

/-- What `null` stands for, or a value that is there. -/
def nullable? {α : Type} (read : Value → Option α) : Value → Option (Option α)
  | null => some none
  | v => (read v).map some

/-- A field that takes a default when it is missing. -/
def orDefault {α : Type} (fallback : α) (read : Value → Option α) (field : Option Value) :
    Option α :=
  match field with
  | none => some fallback
  | some v => read v

@[simp] theorem orDefault_none {α : Type} (fallback : α) (read : Value → Option α) :
    orDefault fallback read none = some fallback := rfl

@[simp] theorem orDefault_some {α : Type} (fallback : α) (read : Value → Option α) (v : Value) :
    orDefault fallback read (some v) = read v := rfl

end Value

end Json

end Polybuild
