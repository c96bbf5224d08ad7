import Polybuild.Charset.Basic

/-!
# Quoted texts for display

A text is shown between double quotes on one line. Quotes, backslashes and the common controls
get a backslash. A character that would not be seen, or that would join the character before it,
is shown by its number: controls, formats, private and unassigned characters, separators other
than the space, and characters that extend the one before them.
-/

namespace Polybuild

namespace Text

/-- Characters that cannot be seen in a text. -/
def unseenCharacters : Charset :=
  (Charset.ofCategories
    [.control, .format, .surrogate, .privateUse, .unassigned, .lineSeparator,
      .paragraphSeparator, .spaceSeparator]).union (.ofProperty .graphemeExtend)

/-- A character as it is shown between quotes. -/
def shownChar (c : Char) : List Char :=
  match c with
  | '"' => ['\\', '"']
  | '\\' => ['\\', '\\']
  | '\n' => ['\\', 'n']
  | '\t' => ['\\', 't']
  | '\r' => ['\\', 'r']
  | '\x00' => ['\\', '0']
  | c =>
      if c ≠ ' ' && unseenCharacters.mem c.toNat then
        ['\\', 'u', '\x7b'] ++ hexDigits c.toNat ++ ['\x7d']
      else [c]

/-- A text as it is shown. -/
def shown (s : String) : String :=
  "\"" ++ String.ofList (s.toList.flatMap shownChar) ++ "\""

end Text

end Polybuild
