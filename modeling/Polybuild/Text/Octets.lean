/-!
# The octets of a text

A document is read octet by octet, and so is the name of a file. Each octet is taken as the
character of the same number, so that octets can be handled like texts. `inOctets` writes a text in
octets, and `legible` shows octets as a text. It reads characters as long as there are some. Where
the octets begin a character and do not finish it, the mark U+FFFD stands for as many as might have
been one, and it stands for every octet that begins none.
-/

namespace Polybuild

namespace Text

/-- The bytes of some data, each as the character of the same number. -/
def octetsOf (bytes : List UInt8) : List Char :=
  bytes.map fun b => Char.ofNat b.toNat

/-- The octets of a text. -/
def octets (s : String) : List Char :=
  octetsOf s.toUTF8.toList

/-- The octets of a character. -/
def charOctets (c : Char) : List Char :=
  octetsOf (String.utf8EncodeChar c)

/-- The octets of a text, as a text again. -/
def inOctets (s : String) : String :=
  String.ofList (octets s)

/-- A character that has begun: its bits so far, how many octets are to come, and the bounds of the
next one. -/
structure Begun where
  bits : Nat
  more : Nat
  low : Nat
  high : Nat
  deriving DecidableEq, Repr

/-- The character that an octet outside ASCII begins, by its number. The bounds keep out numbers
that are written longer than need be, halves of surrogate pairs and numbers behind the last one. -/
def begun? (octet : Nat) : Option Begun :=
  if octet < 0xC2 ∨ 0xF4 < octet then none
  else if octet ≤ 0xDF then some ⟨octet - 0xC0, 1, 0x80, 0xBF⟩
  else if octet ≤ 0xEF then
    some ⟨octet - 0xE0, 2, if octet = 0xE0 then 0xA0 else 0x80, if octet = 0xED then 0x9F else 0xBF⟩
  else
    some ⟨octet - 0xF0, 3, if octet = 0xF0 then 0x90 else 0x80, if octet = 0xF4 then 0x8F else 0xBF⟩

/-- The mark for octets that are no character. -/
def illegible : Char := '\uFFFD'

/-- What an octet between characters shows, and what it begins. -/
def beginWith (octet : Char) : List Char × Option Begun :=
  if octet.toNat < 0x80 then ([octet], none)
  else
    match begun? octet.toNat with
    | some b => ([], some b)
    | none => ([illegible], none)

/-- What one more octet shows, and what has begun after it. -/
def readOctet (begun : Option Begun) (octet : Char) : List Char × Option Begun :=
  match begun with
  | none => beginWith octet
  | some b =>
      if b.low ≤ octet.toNat ∧ octet.toNat ≤ b.high then
        let bits := b.bits * 64 + octet.toNat % 64
        if b.more = 1 then ([Char.ofNat bits], none) else ([], some ⟨bits, b.more - 1, 0x80, 0xBF⟩)
      else (illegible :: (beginWith octet).1, (beginWith octet).2)

/-- What octets show behind a character that may have begun. -/
def legibleFrom (begun : Option Begun) : List Char → List Char
  | [] => if begun.isSome then [illegible] else []
  | octet :: rest => (readOctet begun octet).1 ++ legibleFrom (readOctet begun octet).2 rest

/-- The text that octets show. -/
def legible (s : String) : String :=
  String.ofList (legibleFrom none s.toList)

end Text

end Polybuild
