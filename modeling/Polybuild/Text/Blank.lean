/-!
# Blank characters

`isBlank` is the property `White_Space` of the character database: the tab and its
neighbours, the space, the next line, the no-break space, and the spaces of typography.
A byte order mark and a zero-width space are not blank.

`trim` takes the blanks off both ends of a text. A text is `blank` when it holds nothing
but blanks, so the empty text is blank.
-/

namespace Polybuild

namespace Text

/-- The characters with the property `White_Space`. -/
def isBlank (c : Char) : Bool :=
  let n := c.toNat
  (9 ≤ n && n ≤ 13) || n == 0x20 || n == 0x85 || n == 0xA0 || n == 0x1680 ||
    (0x2000 ≤ n && n ≤ 0x200A) || n == 0x2028 || n == 0x2029 || n == 0x202F ||
    n == 0x205F || n == 0x3000

/-- Takes the characters that `p` holds of off both ends. -/
def stripEnds (p : Char → Bool) (cs : List Char) : List Char :=
  ((cs.dropWhile p).reverse.dropWhile p).reverse

/-- A text without the blanks at its ends. -/
def trim (s : String) : String :=
  String.ofList (stripEnds isBlank s.toList)

/-- A text without the characters at its start that `p` holds of. -/
def trimStart (p : Char → Bool) (s : String) : String :=
  String.ofList (s.toList.dropWhile p)

/-- Whether a text holds nothing but blanks. -/
def blank (s : String) : Bool :=
  s.toList.all isBlank

@[simp] theorem blank_empty : blank "" = true := rfl

end Text

end Polybuild
