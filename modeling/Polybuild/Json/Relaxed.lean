import Polybuild.Charset.Basic
import Polybuild.Json.Chunk
import Polybuild.Json.Token
import Polybuild.Text.Digits

/-!
# The relaxed form of structured text

The relaxed form is written by hand. It has comments, quotes of both kinds, field names without
quotes, a comma behind the last item, hexadecimal numerals, numerals that start or end with a
point, infinities and the name for no number.

A quoted text may be spread over lines with backslashes, and may write a character by its
number. Characters beyond sixteen bits are written as a pair of numbers. The second half is
offset to the first character beyond sixteen bits and the first half, shifted, is laid over it,
so that the lowest bit of a first half that carries into the offset is absorbed.

This is the form that `json5` reads, and its rules are written out here in full. What is wrong with a
document is not told.
-/

namespace Polybuild

namespace Json

namespace Relaxed

/-- The blanks of general category. -/
def spaces : Charset := .ofCategories [.spaceSeparator]

/-- Characters that end a line. -/
def isLineEnd (c : Char) : Bool :=
  c == '\n' || c == '\r' || c == '\u2028' || c == '\u2029'

/-- Blanks, quotes and comments of the relaxed form. -/
def spelling : Spelling where
  isBlank c :=
    isLineEnd c || c == '\t' || c == '\x0b' || c == '\x0c' || c == ' ' || c == '\uFEFF' ||
      (0x80 ≤ c.toNat && spaces.mem c.toNat)
  isLineEnd := isLineEnd
  isQuote c := c == '\'' || c == '"'
  comments := true

/-- A part of a quoted text or of a field name: a character, or a unit of sixteen bits that is
written by its number. -/
inductive Part where
  | char (c : Char)
  | unit (u : Nat)
  deriving DecidableEq, Repr

/-- The character that a backslash and another character write. Digits, `x` and `u` need more
behind them; any other character that is not listed stands for itself. -/
def escape? (c : Char) : Option Char :=
  match c with
  | 'b' => some '\x08'
  | 'f' => some '\x0c'
  | 'n' => some '\n'
  | 'r' => some '\r'
  | 't' => some '\t'
  | 'v' => some '\x0b'
  | '0' => some '\x00'
  | 'x' => none
  | 'u' => none
  | c => if c.isDigit then none else some c

/-- The parts of a quoted text, if it is well-formed. -/
def quotedParts? : List Char → Option (List Part)
  | [] => some []
  | '\\' :: 'u' :: a :: b :: c :: d :: rest =>
      (Text.hexadecimal? [a, b, c, d]).bind fun u => (quotedParts? rest).map (.unit u :: ·)
  | '\\' :: 'x' :: a :: b :: rest =>
      (Text.hexadecimal? [a, b]).bind fun n =>
        (quotedParts? rest).map (.char (Char.ofNat n) :: ·)
  | '\\' :: '\r' :: '\n' :: rest => quotedParts? rest
  | '\\' :: c :: rest =>
      if isLineEnd c then quotedParts? rest
      else (escape? c).bind fun c => (quotedParts? rest).map (.char c :: ·)
  | c :: rest =>
      if c = '\\' ∨ isLineEnd c then none else (quotedParts? rest).map (.char c :: ·)

/-- Characters that a field name may start with. -/
def nameStart : Charset :=
  (Charset.ofCategories
    [.uppercaseLetter, .lowercaseLetter, .titlecaseLetter, .modifierLetter, .otherLetter,
      .letterNumber]).union (.ofTable "24 5F")

/-- Characters that a field name may go on with. -/
def namePart : Charset :=
  nameStart.union
    ((Charset.ofCategories [.nonspacingMark, .decimalNumber, .connectorPunctuation]).union
      ((Charset.ofProperty .diacritic).union (.ofTable "200C-200D")))

/-- The parts of a field name without quotes, from a place where characters of a set may
stand. -/
def nameParts? (allowed : Charset) : List Char → Option (List Part)
  | [] => some []
  | '\\' :: 'u' :: a :: b :: c :: d :: rest =>
      (Text.hexadecimal? [a, b, c, d]).bind fun u =>
        (nameParts? namePart rest).map (.unit u :: ·)
  | c :: rest =>
      if allowed.mem c.toNat then (nameParts? namePart rest).map (.char c :: ·) else none

/-- The character of two units, the first of which opens a pair. -/
def pair? (u v : Nat) : Option Char :=
  if 0xDC00 ≤ v ∧ v < 0xE000 then
    Text.char? (((u - 0xD800) <<< 10) ||| ((v - 0xDC00) + 0x10000))
  else none

/-- The characters that the parts of a text stand for. Half a pair stands for none. -/
def chars? : List Part → Option (List Char)
  | [] => some []
  | .char c :: rest => (chars? rest).map (c :: ·)
  | .unit u :: .unit v :: rest =>
      if 0xD800 ≤ u ∧ u < 0xDC00 then
        (pair? u v).bind fun c => (chars? rest).map (c :: ·)
      else (Text.char? u).bind fun c => (chars? (.unit v :: rest)).map (c :: ·)
  | .unit u :: rest => (Text.char? u).bind fun c => (chars? rest).map (c :: ·)

/-- The text that the parts stand for. -/
def text? (parts : List Part) : Option String :=
  (chars? parts).map String.ofList

/-- Digits at the start of a list of characters, and the rest. -/
def digits (cs : List Char) : List Char × List Char :=
  cs.span Char.isDigit

/-- The exponent that a list of characters is; none for no characters. -/
def exponent? (cs : List Char) : Option (Option Int) :=
  match cs with
  | [] => some none
  | e :: rest =>
      if e = 'e' ∨ e = 'E' then
        match rest with
        | '+' :: ds => (Text.decimal? ds).map fun n => some (n : Int)
        | '-' :: ds => (Text.decimal? ds).map fun n => some (-(n : Int))
        | ds => (Text.decimal? ds).map fun n => some (n : Int)
      else none

/-- The magnitude that a list of characters is. Digits stand before the point or behind it, and
there is no superfluous zero in front. -/
def magnitude? (cs : List Char) : Option Magnitude :=
  if cs = "Infinity".toList then some .infinity
  else if cs = "NaN".toList then some .notANumber
  else
    match cs with
    | '0' :: 'x' :: ds => (Text.hexadecimal? ds).map .hexadecimal
    | '0' :: 'X' :: ds => (Text.hexadecimal? ds).map .hexadecimal
    | cs => do
        let (whole, rest) := digits cs
        if whole.length > 1 && whole.head? == some '0' then none
        else
          match rest with
          | '.' :: rest => do
              let (fraction, rest) := digits rest
              if whole.isEmpty && fraction.isEmpty then none
              else
                let n ← Text.decimal? (whole ++ fraction)
                let exponent ← exponent? rest
                pure (.decimal n (some fraction.length) exponent)
          | rest => do
              let n ← Text.decimal? whole
              let exponent ← exponent? rest
              pure (.decimal n none exponent)

/-- The numeral that a list of characters is. Its sign stands right in front of it. -/
def numeral? (cs : List Char) : Option Numeral :=
  match cs with
  | '+' :: rest => (magnitude? rest).map fun m => ⟨.plus, m⟩
  | '-' :: rest => (magnitude? rest).map fun m => ⟨.minus, m⟩
  | cs => (magnitude? cs).map fun m => ⟨.absent, m⟩

/-- The value that a word is, if it is one. -/
def wordValue? (cs : List Char) : Option Value :=
  if cs = "null".toList then some .null
  else if cs = "true".toList then some (.bool true)
  else if cs = "false".toList then some (.bool false)
  else (numeral? cs).map .number

/-- The token of a chunk. -/
def token? : Chunk → Option Token
  | .mark c => Token.ofMark? c
  | .run written =>
      match wordValue? written, nameParts? nameStart written with
      | value, some parts => some (.literal value (some (text? parts)))
      | some value, none => some (.literal (some value) none)
      | none, none => none
  | .quoted written =>
      (quotedParts? written).map fun parts =>
        match text? parts with
        | some s => .literal (some (.string s)) (some (some s))
        | none => .literal (some .unreadable) (some none)

end Relaxed

/-- The value of a document in the relaxed form. -/
def Value.ofText? (text : String) : Option Value := do
  let chunks ← chunks? Relaxed.spelling text.toList
  let tokens ← chunks.mapM Relaxed.token?
  Value.ofTokens? true tokens

end Json

end Polybuild
