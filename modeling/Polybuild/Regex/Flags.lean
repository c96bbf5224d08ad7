import Polybuild.Charset.Basic
import Polybuild.Regex.Expr
import Polybuild.Text.Blank

/-!
# Flags of regular expressions

Flags change what the parts of a pattern mean. They are applied while a pattern is read: a set is
folded when case does not count, and a complement is refused when characters are taken as bytes,
since it would hold bytes that are no characters.
-/

namespace Polybuild

namespace Regex

/-- The flags that change the meaning of a pattern. -/
structure Flags where
  ignoreCase : Bool
  multiLine : Bool
  dotAll : Bool
  unicode : Bool
  carriage : Bool
  extended : Bool
  deriving DecidableEq, Repr

namespace Flags

/-- The flags at the start of a pattern. -/
def initial : Flags := ⟨false, false, false, true, false, false⟩

/-- The flags with one of them switched. The flag for reluctant repetition has no effect. -/
def switch? (f : Flags) (letter : Char) (on : Bool) : Option Flags :=
  match letter with
  | 'i' => some { f with ignoreCase := on }
  | 'm' => some { f with multiLine := on }
  | 's' => some { f with dotAll := on }
  | 'u' => some { f with unicode := on }
  | 'R' => some { f with carriage := on }
  | 'x' => some { f with extended := on }
  | 'U' => some f
  | _ => none

end Flags

/-- Drops blanks and comments, or first the rest of a comment. -/
def dropBlanks : Bool → List Char → List Char
  | _, [] => []
  | true, c :: cs => dropBlanks (c ≠ '\n') cs
  | false, c :: cs =>
      if Text.isBlank c then dropBlanks false cs
      else if c = '#' then dropBlanks true cs
      else c :: cs

/-- Drops what does not count between the parts of a pattern. -/
def Flags.skip (f : Flags) (cs : List Char) : List Char :=
  if f.extended then dropBlanks false cs else cs

/-- The text without its start, if it starts so. -/
def after? (start : String) (cs : List Char) : Option (List Char) :=
  if start.toList.isPrefixOf cs then some (cs.drop start.length) else none

/-- A part of a pattern that stands for one place or one character. -/
inductive Primitive where
  /-- A character; `asByte` if it is written as a byte of two digits. -/
  | literal (c : Char) (asByte : Bool)
  | set (s : Charset)
  | look (l : Look)

/-- The set of one character under the flags. -/
def literalSet (f : Flags) (c : Char) : Charset :=
  if f.ignoreCase then
    if f.unicode then .folded (.single c) else .foldedAscii (.single c)
  else .single c

/-- A set with the characters in the other case, if case does not count. -/
def foldSet (f : Flags) (s : Charset) : Charset :=
  if f.ignoreCase then (if f.unicode then .folded s else .foldedAscii s) else s

/-- A set or its complement. When characters are taken as bytes the complement is refused,
since it holds bytes that are no characters. -/
def negateSet? (f : Flags) (negated : Bool) (s : Charset) : Option Charset :=
  if negated then (if f.unicode then some (.complement s) else none) else some s

end Regex

end Polybuild
