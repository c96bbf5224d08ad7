import Polybuild.Json.Value
import Polybuild.Text.Digits

/-!
# Printing values

A value is printed in the strict form, either on one line without blanks or with two blanks for
each level. In a text, quotes and backslashes get a backslash, and so do the controls that have
a letter; the other controls are written by their number. All other characters stand for
themselves. Lists and objects without items are closed at once.

An unreadable text has no printed form; `null` stands in its place.
-/

namespace Polybuild

namespace Json

/-- A character as it stands between quotes. -/
def escapeChar (c : Char) : List Char :=
  match c with
  | '"' => ['\\', '"']
  | '\\' => ['\\', '\\']
  | '\x08' => ['\\', 'b']
  | '\x0c' => ['\\', 'f']
  | '\n' => ['\\', 'n']
  | '\r' => ['\\', 'r']
  | '\t' => ['\\', 't']
  | c =>
      if c.toNat < 0x20 then
        ['\\', 'u', '0', '0', Text.hexDigit (c.toNat / 16), Text.hexDigit (c.toNat % 16)]
      else [c]

/-- A text between quotes. -/
def quote (s : String) : String :=
  "\"" ++ String.ofList (s.toList.flatMap escapeChar) ++ "\""

/-- A numeral, as it would be written. -/
def Numeral.text (n : Numeral) : String :=
  let sign :=
    match n.sign with
    | .absent => ""
    | .plus => "+"
    | .minus => "-"
  match n.magnitude with
  | .decimal digits none none => sign ++ toString digits
  | .decimal digits behindPoint exponent =>
      sign ++ toString digits ++ "e" ++ toString (shift behindPoint exponent)
  | .hexadecimal value => sign ++ "0x" ++ String.ofList (Text.hexDigits value)
  | .infinity => sign ++ "Infinity"
  | .notANumber => sign ++ "NaN"

/-- A line end and the blanks of a level. -/
def newLine (level : Nat) : String :=
  String.ofList ('\n' :: List.replicate (2 * level) ' ')

/-- What stands between the parts of a value: `none` for a value on one line, the level of the
value for one on several lines. -/
abbrev Layout := Option Nat

/-- The layout of the parts of a value. -/
def Layout.inner (layout : Layout) : Layout :=
  layout.map (· + 1)

/-- The line end of a layout. -/
def Layout.lineEnd (layout : Layout) : String :=
  match layout with
  | none => ""
  | some level => newLine level

/-- The colon of a layout. -/
def Layout.colon (layout : Layout) : String :=
  if layout.isSome then ": " else ":"

mutual

/-- A value in a layout. -/
def Value.print (layout : Layout) : Value → String
  | .null => "null"
  | .bool true => "true"
  | .bool false => "false"
  | .number n => n.text
  | .string s => quote s
  | .unreadable => "null"
  | .array [] => "[]"
  | .array (v :: rest) =>
      "[" ++ layout.inner.lineEnd ++ Value.print layout.inner v ++
        Value.printItems layout.inner rest ++ layout.lineEnd ++ "]"
  | .object [] => "\x7b\x7d"
  | .object ((name, v) :: rest) =>
      "\x7b" ++ layout.inner.lineEnd ++ quote name ++ layout.colon ++ Value.print layout.inner v ++
        Value.printFields layout.inner rest ++ layout.lineEnd ++ "\x7d"

/-- The items behind the first one. -/
def Value.printItems (layout : Layout) : List Value → String
  | [] => ""
  | v :: rest => "," ++ layout.lineEnd ++ Value.print layout v ++ Value.printItems layout rest

/-- The fields behind the first one. -/
def Value.printFields (layout : Layout) : List (String × Value) → String
  | [] => ""
  | (name, v) :: rest =>
      "," ++ layout.lineEnd ++ quote name ++ layout.colon ++ Value.print layout v ++
        Value.printFields layout rest

end

/-- A value on one line. -/
def Value.compact (v : Value) : String :=
  v.print none

/-- A value with two blanks for each level. -/
def Value.pretty (v : Value) : String :=
  v.print (some 0)

end Json

end Polybuild
