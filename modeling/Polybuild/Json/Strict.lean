import Polybuild.Json.Chunk
import Polybuild.Json.Token
import Polybuild.Text.Digits

/-!
# The strict form of structured text

The strict form is read from bytes. Marks, words and numerals are ASCII, and a quoted text may
hold any byte from the space on, so that a text which is no UTF-8 is well-formed and merely
unreadable. A byte is handed on as the character of the same number.

Words are `null`, `true` and `false`. A numeral is a minus or nothing, digits without a
superfluous zero in front, and after that a point with digits and an exponent, if any.

This is the form that `serde_json` reads, and its rules are written out here in full, as those of
the printer are in `Polybuild.Json.Printer`. What is wrong with a document is not told.
-/

namespace Polybuild

namespace Json

namespace Strict

/-- Blanks, quotes and comments of the strict form. -/
def spelling : Spelling where
  isBlank c := c == ' ' || c == '\n' || c == '\t' || c == '\r'
  isLineEnd c := c == '\n'
  isQuote c := c == '"'
  comments := false

/-- Digits at the start of a list of characters, and the rest. -/
def digits (cs : List Char) : List Char × List Char :=
  cs.span fun c => (Text.decimalDigit? c).isSome

/-- The exponent at the start of a list of characters, if there is one, and the rest. There is
no reading when its digits are missing. -/
def exponent? (cs : List Char) : Option (Option Int × List Char) :=
  match cs with
  | e :: rest =>
      if e = 'e' ∨ e = 'E' then
        let (negative, rest) :=
          match rest with
          | '+' :: rest => (false, rest)
          | '-' :: rest => (true, rest)
          | rest => (false, rest)
        let (ds, rest) := digits rest
        (Text.decimal? ds).map fun n => (some (if negative then -(n : Int) else (n : Int)), rest)
      else some (none, cs)
  | [] => some (none, [])

/-- The magnitude of decimal digits, a point with digits and an exponent. -/
def magnitude? (cs : List Char) : Option Magnitude := do
  let (whole, rest) := digits cs
  if whole.isEmpty || (whole.length > 1 && whole.head? == some '0') then none
  else
    let (fraction, rest) ←
      match rest with
      | '.' :: rest =>
          let (ds, rest) := digits rest
          if ds.isEmpty then none else some (some ds, rest)
      | rest => some (none, rest)
    let (exponent, rest) ← exponent? rest
    if rest.isEmpty then
      let n ← Text.decimal? (whole ++ fraction.getD [])
      some (.decimal n (fraction.map (·.length)) exponent)
    else none

/-- The value that a run of characters is. -/
def word? (cs : List Char) : Option Value :=
  if cs = "null".toList then some .null
  else if cs = "true".toList then some (.bool true)
  else if cs = "false".toList then some (.bool false)
  else
    match cs with
    | '-' :: rest => (magnitude? rest).map fun m => .number ⟨.minus, m⟩
    | cs => (magnitude? cs).map fun m => .number ⟨.absent, m⟩

/-- A part of a quoted text: a byte that stands for itself, or a unit of sixteen bits that is
written by its number. -/
inductive Unit16 where
  | byte (b : UInt8)
  | unit (u : Nat)
  deriving DecidableEq, Repr

/-- The number of the character that a backslash and a letter write. -/
def escape? (c : Char) : Option Nat :=
  match c with
  | '"' => some 0x22
  | '\\' => some 0x5C
  | '/' => some 0x2F
  | 'b' => some 8
  | 'f' => some 12
  | 'n' => some 10
  | 'r' => some 13
  | 't' => some 9
  | _ => none

/-- The parts of a quoted text, if it is well-formed. -/
def units? : List Char → Option (List Unit16)
  | [] => some []
  | '\\' :: 'u' :: a :: b :: c :: d :: rest =>
      (Text.hexadecimal? [a, b, c, d]).bind fun u => (units? rest).map (.unit u :: ·)
  | '\\' :: c :: rest =>
      (escape? c).bind fun n => (units? rest).map (.byte (UInt8.ofNat n) :: ·)
  | c :: rest =>
      if c = '\\' ∨ c.toNat < 0x20 then none
      else (units? rest).map (.byte (UInt8.ofNat c.toNat) :: ·)

/-- The bytes that the parts of a text stand for. Two units that are the halves of a pair stand
for one character; half a pair stands for none. -/
def bytes? : List Unit16 → Option (List UInt8)
  | [] => some []
  | .byte b :: rest => (bytes? rest).map (b :: ·)
  | .unit u :: .unit v :: rest =>
      if 0xD800 ≤ u ∧ u < 0xDC00 then
        if 0xDC00 ≤ v ∧ v < 0xE000 then
          (Text.char? ((u - 0xD800) * 0x400 + (v - 0xDC00) + 0x10000)).bind fun c =>
            (bytes? rest).map (c.toString.toUTF8.toList ++ ·)
        else none
      else (Text.char? u).bind fun c =>
        (bytes? (.unit v :: rest)).map (c.toString.toUTF8.toList ++ ·)
  | .unit u :: rest =>
      (Text.char? u).bind fun c => (bytes? rest).map (c.toString.toUTF8.toList ++ ·)

/-- The text that the parts of a quoted text stand for. -/
def text? (units : List Unit16) : Option String :=
  (bytes? units).bind fun bytes => String.fromUTF8? ⟨bytes.toArray⟩

/-- The token of a chunk. -/
def token? : Chunk → Option Token
  | .mark c => Token.ofMark? c
  | .run written => (word? written).map fun v => .literal (some v) none
  | .quoted written =>
      (units? written).map fun units =>
        match text? units with
        | some s => .literal (some (.string s)) (some (some s))
        | none => .literal (some .unreadable) (some none)

end Strict

/-- The value of a document in the strict form. -/
def Value.ofBytes? (bytes : ByteArray) : Option Value := do
  let cs := bytes.toList.map fun b => Char.ofNat b.toNat
  let chunks ← chunks? Strict.spelling cs
  let tokens ← chunks.mapM Strict.token?
  Value.ofTokens? false tokens

end Json

end Polybuild
