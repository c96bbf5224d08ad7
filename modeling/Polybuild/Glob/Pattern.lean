/-!
# Glob patterns

A glob pattern is a list of tokens. A character stands for itself, `?` for any character and
`*` for any text, slashes and leading dots included. A class in brackets stands for one of its
characters, or with `!` for any other; it lists single characters and ranges, and its first
character may be the closing bracket. Two stars are a folder token: they must be a whole
segment of the pattern and stand for nothing or for a text that ends with a slash.

`ofText?` reads a pattern. Three stars, two stars inside a segment and a bracket that opens no
class are faults, and then there is no pattern.

Patterns and their matching follow the rules of `glob` and are written out here in full.
-/

namespace Polybuild

namespace Glob

/-- What a class lists. -/
inductive ClassItem where
  | single (c : Char)
  | range (first last : Char)
  deriving DecidableEq, Repr

/-- A part of a pattern. -/
inductive Token where
  | char (c : Char)
  | anyChar
  | anyText
  /-- Any folders, each with the slash behind it. -/
  | anyFolders
  | oneOf (items : List ClassItem)
  | noneOf (items : List ClassItem)
  deriving DecidableEq, Repr

/-- A pattern that file names are compared with. -/
structure Pattern where
  tokens : List Token
  deriving DecidableEq, Repr

/-- The items of a class. Three characters with a dash in the middle are a range, wherever they
come; every other character is single. -/
def classItems : List Char → List ClassItem
  | first :: '-' :: last :: rest => .range first last :: classItems rest
  | c :: rest => .single c :: classItems rest
  | [] => []

/-- The class behind an opening bracket and what follows it. The closing bracket is looked for
behind the first character of the class. -/
def class? (cs : List Char) : Option (Token × List Char) :=
  match cs with
  | '!' :: c :: rest =>
      let inner := rest.takeWhile (· ≠ ']')
      match rest.drop inner.length with
      | _ :: behind => some (.noneOf (classItems (c :: inner)), behind)
      | [] => none
  | '!' :: [] => none
  | c :: rest =>
      let inner := rest.takeWhile (· ≠ ']')
      match rest.drop inner.length with
      | _ :: behind => some (.oneOf (classItems (c :: inner)), behind)
      | [] => none
  | [] => none

/-- A folder token behind the tokens so far, which are in reverse. It adds nothing to another
one, except as the second token of the pattern. -/
def pushFolders (sofar : List Token) : List Token :=
  if sofar.length > 1 && sofar.head? == some .anyFolders then sofar else .anyFolders :: sofar

/-- Reads the tokens of a pattern. `sofar` holds those already read, in reverse; `fresh` says
whether a segment of the pattern starts here; `skip` characters belong to the last token. -/
def readTokens? (sofar : List Token) (fresh : Bool) : Nat → List Char → Option (List Token)
  | _, [] => some sofar.reverse
  | skip + 1, c :: rest => readTokens? sofar (c == '/') skip rest
  | 0, c :: rest =>
      if c = '?' then readTokens? (.anyChar :: sofar) false 0 rest
      else if c = '*' then
        match rest.takeWhile (· == '*') with
        | [] => readTokens? (.anyText :: sofar) false 0 rest
        | ['*'] =>
            if fresh then
              match rest.drop 1 with
              | [] => some (pushFolders sofar).reverse
              | '/' :: _ => readTokens? (pushFolders sofar) true 2 rest
              | _ => none
            else none
        | _ => none
      else if c = '[' then
        match class? rest with
        | some (token, behind) =>
            readTokens? (token :: sofar) false (rest.length - behind.length) rest
        | none => none
      else readTokens? (.char c :: sofar) (c == '/') 0 rest

/-- The pattern that a text writes. -/
def Pattern.ofText? (text : String) : Option Pattern :=
  (readTokens? [] true 0 text.toList).map Pattern.mk

end Glob

end Polybuild
