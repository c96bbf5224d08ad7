import Polybuild.Json.Numeral

/-!
# Values of structured text

A value is what a well-formed document says: a tree of literals, numerals, texts, lists and
objects. The fields of an object keep their order and may repeat a name.

A text or a field name can be well-formed and still stand for no text, for instance when half
of a surrogate pair is missing. The text is then `unreadable`, and so is an object with such a
field name. Who reads a value has to refuse it there; who passes over a value may not care.
-/

namespace Polybuild

namespace Json

/-- A value of structured text. -/
inductive Value where
  | null
  | bool (b : Bool)
  | number (n : Numeral)
  | string (s : String)
  | unreadable
  | array (items : List Value)
  | object (fields : List (String × Value))
  deriving Repr

namespace Value

/-- The value of a natural number. -/
def nat (n : Nat) : Value :=
  number (.ofNat n)

/-- A list of texts. -/
def strings (items : List String) : Value :=
  array (items.map string)

/-- The value of a text that may be missing. -/
def stringOrNull (s : Option String) : Value :=
  match s with
  | some s => string s
  | none => null

mutual

/-- Whether `ok` holds of every numeral in a value, and nothing in it is unreadable. -/
def readable (ok : Numeral → Bool) : Value → Bool
  | null => true
  | bool _ => true
  | number n => ok n
  | string _ => true
  | unreadable => false
  | array items => readableItems ok items
  | object fields => readableFields ok fields

/-- `readable` for the items of a list. -/
def readableItems (ok : Numeral → Bool) : List Value → Bool
  | [] => true
  | v :: rest => readable ok v && readableItems ok rest

/-- `readable` for the fields of an object. -/
def readableFields (ok : Numeral → Bool) : List (String × Value) → Bool
  | [] => true
  | (_, v) :: rest => readable ok v && readableFields ok rest

end

mutual

/-- How many lists and objects stand inside each other. -/
def depth : Value → Nat
  | array items => depthItems items + 1
  | object fields => depthFields fields + 1
  | _ => 0

/-- `depth` for the items of a list. -/
def depthItems : List Value → Nat
  | [] => 0
  | v :: rest => max (depth v) (depthItems rest)

/-- `depth` for the fields of an object. -/
def depthFields : List (String × Value) → Nat
  | [] => 0
  | (_, v) :: rest => max (depth v) (depthFields rest)

end

/-- The value of the last field with a name. -/
def field? (v : Value) (name : String) : Option Value :=
  match v with
  | object fields => fields.reverse.lookup name
  | _ => none

end Value

end Json

end Polybuild
