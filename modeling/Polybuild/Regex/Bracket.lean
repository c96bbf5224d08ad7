import Polybuild.Regex.Escape

/-!
# Classes in brackets

A class lists characters, ranges, sets and further classes. Operations between its parts all bind
alike and are taken from left to right. The classes that are open while one is read are kept on a
stack.

A class knows its depth: how many classes, lists and operations stand inside each other in it.
-/

namespace Polybuild

namespace Regex

/-- Operations between the parts of a class. -/
inductive SetOperation where
  | intersection
  | difference
  | symmetricDifference
  deriving DecidableEq, Repr

/-- A set, and how deep classes, lists and operations stand inside each other in what writes it. -/
structure DeepSet where
  set : Charset
  depth : Nat
  deriving Repr

/-- A class that is not closed yet: whether it is negated, the operation that waits for its
right side with its left side, and the union read behind it, with the number of its items and the
depth of the deepest. -/
structure OpenClass where
  negated : Bool
  waiting : Option (SetOperation × DeepSet)
  union : Charset
  items : Nat
  depth : Nat

namespace OpenClass

/-- A class of which nothing has been read. -/
def start (negated : Bool) : OpenClass := ⟨negated, none, .empty, 0, 0⟩

/-- The class with one more item in its union. -/
def add (k : OpenClass) (s : Charset) (depth : Nat := 0) : OpenClass :=
  { k with union := k.union.union s, items := k.items + 1, depth := max k.depth depth }

/-- The union behind the last operation. Several items are a list, which is one level more. -/
def lastUnion (k : OpenClass) : DeepSet :=
  ⟨k.union, if k.items > 1 then k.depth + 1 else k.depth⟩

/-- What the class stands for so far. -/
def combined (f : Flags) (k : OpenClass) : DeepSet :=
  match k.waiting with
  | none => k.lastUnion
  | some (operation, left) =>
      let right := k.lastUnion
      let a := foldSet f left.set
      let b := foldSet f right.set
      let set :=
        match operation with
        | .intersection => .intersection a b
        | .difference => .difference a b
        | .symmetricDifference => .symmetricDifference a b
      ⟨set, max left.depth right.depth + 1⟩

/-- The class behind an operation. -/
def operate (f : Flags) (k : OpenClass) (operation : SetOperation) : OpenClass :=
  { start k.negated with waiting := some (operation, k.combined f) }

/-- The set of a closed class, one level above its parts. -/
def close? (f : Flags) (k : OpenClass) : Option DeepSet :=
  let inner := k.combined f
  (negateSet? f k.negated (foldSet f inner.set)).map fun set => ⟨set, inner.depth + 1⟩

end OpenClass

/-- The dashes at the start of a class, and the rest. -/
def takeDashes (f : Flags) : Nat → List Char → Nat × List Char
  | 0, cs => (0, cs)
  | room + 1, cs =>
      match cs with
      | '-' :: rest =>
          let (n, rest) := takeDashes f room (f.skip rest)
          (n + 1, rest)
      | cs => (0, cs)

/-- A class behind its opening bracket. Dashes at its start stand for themselves, and so does a
closing bracket that comes first. -/
def openClass? (f : Flags) (cs : List Char) : Option (OpenClass × List Char) :=
  let (negated, cs) :=
    match f.skip cs with
    | '^' :: rest => (true, f.skip rest)
    | cs => (false, cs)
  let (dashes, cs) := takeDashes f cs.length cs
  let start := OpenClass.start negated
  if dashes > 0 then
    if cs.isEmpty then none
    else some (dashes.repeat (fun k => k.add (.single '-')) start, cs)
  else
    match cs with
    | [] => none
    | ']' :: rest =>
        let rest := f.skip rest
        if rest.isEmpty then none else some (start.add (.single ']'), rest)
    | cs => some (start, cs)

/-- A class of ASCII that goes by a name between colons, behind its opening bracket. -/
def readAsciiClass? (cs : List Char) : Option (Bool × Charset × List Char) :=
  match cs with
  | ':' :: rest => do
      let (negated, rest) :=
        match rest with
        | '^' :: rest => (true, rest)
        | rest => (false, rest)
      let name := rest.takeWhile (· ≠ ':')
      let rest ← after? ":]" (rest.drop name.length)
      let s ← Charset.asciiClass? (String.ofList name)
      pure (negated, s, rest)
  | _ => none

/-- A character of a class, or what stands behind a backslash. -/
def readClassItem? (f : Flags) (cs : List Char) : Option (Primitive × List Char) :=
  match cs with
  | [] => none
  | '\\' :: rest => readEscape? f rest
  | c :: rest => some (.literal c false, rest)

/-- The character that a primitive is, for the end of a range. Taken as bytes, it must be in
ASCII. -/
def classLiteral? (f : Flags) (p : Primitive) : Option Char :=
  match p with
  | .literal c _ => if f.unicode || c.toNat < 0x80 then some c else none
  | _ => none

/-- The set that a primitive stands for in a class. -/
def classSet? (f : Flags) (p : Primitive) : Option Charset :=
  match p with
  | .literal _ _ => (classLiteral? f p).map Charset.single
  | .set s => some s
  | .look _ => none

/-- What comes behind the next character, past what does not count. -/
def peekBehind (f : Flags) (cs : List Char) : Option Char :=
  if f.extended then
    let rest := (cs.drop 1).dropWhile Text.isBlank
    match rest with
    | '#' :: rest => (rest.dropWhile Text.isBlank).head?
    | rest => rest.head?
  else (cs.drop 1).head?

/-- A single item of a class or a range. -/
def readRange? (f : Flags) (cs : List Char) : Option (Charset × List Char) := do
  let (first, rest) ← readClassItem? f cs
  let rest := f.skip rest
  match rest with
  | [] => none
  | '-' :: behind =>
      if peekBehind f rest == some ']' || peekBehind f rest == some '-' then do
        let s ← classSet? f first
        pure (s, rest)
      else do
        let (last, rest) ← readClassItem? f (f.skip behind)
        let first ← classLiteral? f first
        let last ← classLiteral? f last
        if first ≤ last then pure (.range first.toNat last.toNat, rest) else none
  | rest => do
      let s ← classSet? f first
      pure (s, rest)

/-- One step of the reading of a class: the classes that are open behind it, the innermost
first, or the set of the outermost one when it is closed. -/
def stepClass? (f : Flags) (current : OpenClass) (outer : List OpenClass) (cs : List Char) :
    Option (Sum (OpenClass × List OpenClass) DeepSet × List Char) :=
  match f.skip cs with
  | [] => none
  | '[' :: rest =>
      match readAsciiClass? rest with
      | some (negated, s, rest) => do
          let s ← negateSet? f negated (foldSet f s)
          pure (.inl (current.add s, outer), rest)
      | none => do
          let (inner, rest) ← openClass? f rest
          pure (.inl (inner, current :: outer), rest)
  | ']' :: rest => do
      let s ← current.close? f
      match outer with
      | [] => pure (.inr s, rest)
      | around :: outer => pure (.inl (around.add s.set s.depth, outer), rest)
  | '&' :: '&' :: rest => pure (.inl (current.operate f .intersection, outer), rest)
  | '-' :: '-' :: rest => pure (.inl (current.operate f .difference, outer), rest)
  | '~' :: '~' :: rest => pure (.inl (current.operate f .symmetricDifference, outer), rest)
  | cs => do
      let (s, rest) ← readRange? f cs
      pure (.inl (current.add s, outer), rest)

/-- Reads a class to its end. -/
def readClass? (f : Flags) (current : OpenClass) (outer : List OpenClass) (cs : List Char) :
    Option (DeepSet × List Char) :=
  match stepClass? f current outer cs with
  | none => none
  | some (.inr s, rest) => some (s, rest)
  | some (.inl (current, outer), rest) =>
      if rest.length < cs.length then readClass? f current outer rest else none
termination_by cs.length

end Regex

end Polybuild
