import Polybuild.Charset.Basic

/-!
# Regular expressions

A regular expression is built from sets of characters and from looks, which take no character
and ask what stands on both sides of a place in the text. Which repetition is tried first and
what a group captures has no bearing on whether a text matches, so neither is kept.
-/

namespace Polybuild

namespace Regex

/-- What is asked of a place in the text. With `ascii`, words are made of letters, digits and
underscores of ASCII alone. With `carriage`, a carriage return ends a line too, and one before a
line feed belongs to it. -/
inductive Look where
  | textStart
  | textEnd
  | lineStart (carriage : Bool)
  | lineEnd (carriage : Bool)
  | wordBoundary (ascii : Bool)
  | noWordBoundary (ascii : Bool)
  | wordStart (ascii : Bool)
  | wordEnd (ascii : Bool)
  /-- No word character on the left. -/
  | wordStartHalf (ascii : Bool)
  /-- No word character on the right. -/
  | wordEndHalf (ascii : Bool)
  deriving DecidableEq, Repr

/-- A regular expression. -/
inductive Expr where
  | empty
  | set (s : Charset)
  | look (l : Look)
  | append (a b : Expr)
  | either (a b : Expr)
  /-- At least `least` times, and at most `most` times if there is a bound. -/
  | repeated (e : Expr) (least : Nat) (most : Option Nat)
  deriving Repr

namespace Expr

/-- Expressions one behind the other. -/
def concat : List Expr → Expr
  | [] => empty
  | [e] => e
  | e :: f :: rest => append e (concat (f :: rest))

/-- One of several expressions. -/
def alternatives : List Expr → Expr
  | [] => empty
  | [e] => e
  | e :: f :: rest => either e (alternatives (f :: rest))

end Expr

end Regex

end Polybuild
