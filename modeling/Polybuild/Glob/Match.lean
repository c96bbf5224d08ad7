import Polybuild.Glob.Pattern

/-!
# Matching names with a glob pattern

A pattern is compared with a name from left to right. There are two ways to fail: the name may
not fit, and then a star on the left tries a longer text, or the name may be used up while the
pattern still asks for a character, and then no star can help any more.

A folder token tries the rest of the pattern where it stands and behind every slash, and when no
slash is left, at the end of the name.
-/

namespace Polybuild

namespace Glob

/-- How the comparison of tokens with a text ends. -/
inductive Verdict where
  | fits
  | differs
  /-- The text ended while a character was asked for. -/
  | usedUp
  deriving DecidableEq, Repr

/-- Whether a class lists a character. -/
def ClassItem.holds (item : ClassItem) (c : Char) : Bool :=
  match item with
  | .single d => c == d
  | .range first last => first ≤ c && c ≤ last

/-- Whether a token that stands for one character stands for this one. -/
def Token.holds (t : Token) (c : Char) : Bool :=
  match t with
  | .char d => c == d
  | .anyChar => true
  | .oneOf items => items.any fun item => item.holds c
  | .noneOf items => !items.any fun item => item.holds c
  | .anyText => false
  | .anyFolders => false

/-- The first verdict other than `differs` of a comparison that is tried behind every character
of a text, or only behind its slashes, and in the end on the empty text. -/
def tryBehind (slashesOnly : Bool) (compare : List Char → Verdict) : List Char → Verdict
  | [] => compare []
  | c :: rest =>
      if slashesOnly && c != '/' then tryBehind slashesOnly compare rest
      else
        match compare rest with
        | .differs => tryBehind slashesOnly compare rest
        | verdict => verdict

/-- The comparison of tokens with a text. -/
def compareTokens : List Token → List Char → Verdict
  | [], [] => .fits
  | [], _ :: _ => .differs
  | .anyText :: rest, text =>
      match compareTokens rest text with
      | .differs => tryBehind false (compareTokens rest) text
      | verdict => verdict
  | .anyFolders :: rest, text =>
      match compareTokens rest text with
      | .differs => tryBehind true (compareTokens rest) text
      | verdict => verdict
  | _ :: _, [] => .usedUp
  | t :: rest, c :: text => if t.holds c then compareTokens rest text else .differs

/-- Whether a whole text fits a pattern. -/
def Pattern.matches (p : Pattern) (text : String) : Bool :=
  compareTokens p.tokens text.toList == .fits

@[simp] theorem compareTokens_nil_nil : compareTokens [] [] = .fits := rfl

end Glob

end Polybuild
