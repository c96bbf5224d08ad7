import Polybuild.Regex.Bracket
import Polybuild.Regex.Footprint

/-!
# Reading regular expressions

A pattern is read from left to right. What is open is kept on stacks: the groups around the
place that has been reached, each with the alternatives and items read in it so far, and inside
of brackets the classes around that place. Flags are part of the state, hold to the end of their
group, and are applied while the pattern is read, so an expression carries none.

There is no expression for a pattern that breaks the rules: unclosed and unopened groups and
classes, repetitions of nothing or with impossible counts, unknown escapes, flags, names and
classes, ranges in the wrong order, groups of one name, looks around groups, references to
groups, and sets that would match half a character when characters are taken as bytes. Nor is
there one for a pattern that is too deep or would take too much room.

Patterns, their sets of characters and their matching follow the rules of `regex` and are written
out here in full. Two things are less exact: the room that a pattern takes is an estimate from below,
and names of properties for the borders of clusters, words and sentences and for ages are refused.
-/

namespace Polybuild

namespace Regex

/-- A decimal number and what follows it. Blanks around it do not count. -/
def readDecimal (f : Flags) (cs : List Char) : Option Nat × List Char :=
  let rec digits (room : Nat) (cs : List Char) : List Char × List Char :=
    match room, cs with
    | room + 1, c :: rest =>
        if c.isDigit then
          let (ds, rest) := digits room (f.skip rest)
          (c :: ds, rest)
        else ([], cs)
    | _, cs => ([], cs)
  let rec blanks (room : Nat) (cs : List Char) : List Char :=
    match room, cs with
    | room + 1, c :: rest => if Text.isBlank c then blanks room (f.skip rest) else cs
    | _, cs => cs
  let (ds, rest) := digits cs.length (cs.dropWhile Text.isBlank)
  ((Text.decimal? ds).filter (· < Nat.pow 2 32), blanks rest.length rest)

/-- The counts of a repetition, behind its opening brace, and what follows its closing brace. -/
def readCounts? (f : Flags) (cs : List Char) : Option (Nat × Option Nat × List Char) := do
  let cs := f.skip cs
  if cs.isEmpty then none
  let (least, rest) := readDecimal f cs
  let least ← least
  match rest with
  | '\x7d' :: rest => pure (least, some least, rest)
  | ',' :: rest =>
      match f.skip rest with
      | '\x7d' :: rest => pure (least, none, rest)
      | rest => do
          let (most, rest) := readDecimal f rest
          let most ← most
          match rest with
          | '\x7d' :: rest => if least ≤ most then pure (least, some most, rest) else none
          | _ => none
  | _ => none

/-- The flags up to a colon or a closing parenthesis, that character, and the rest. A letter or
the dash may come once, and a letter must follow the dash. There is none for no flags before a
parenthesis. -/
def readFlags? (f : Flags) (on : Bool) (seen : List Char) :
    List Char → Option (Flags × Char × List Char)
  | [] => none
  | c :: rest =>
      if c = ':' ∨ c = ')' then
        if seen.head? == some '-' || (seen.isEmpty && c == ')') then none else some (f, c, rest)
      else if seen.contains c then none
      else if c = '-' then readFlags? f false (c :: seen) rest
      else (f.switch? c on).bind fun f => readFlags? f on (c :: seen) rest

/-- The name of a group up to its closing angle, and the rest. -/
def readGroupName? (cs : List Char) : Option (String × List Char) :=
  let name := cs.takeWhile (· ≠ '>')
  match name, cs.drop name.length with
  | first :: others, _ :: rest =>
      let startsName := first = '_' || (Charset.ofProperty .alphabetic).mem first.toNat
      let goesOn := others.all fun c =>
        c = '_' || c = '.' || c = '[' || c = ']' || Charset.alphanumeric.mem c.toNat
      if startsName && goesOn then some (String.ofList name, rest) else none
  | _, _ => none

/-- An expression, and how deep groups, repetitions, classes and lists stand inside each other in
the pattern that writes it. -/
structure DeepExpr where
  expr : Expr
  depth : Nat
  deriving Repr

namespace DeepExpr

/-- The depth of a list of parts: a single part is as deep as it is, several are one level
more. -/
def listDepth (depths : List Nat) : Nat :=
  match depths with
  | [] => 0
  | [d] => d
  | depths => depths.foldl max 0 + 1

end DeepExpr

/-- A group that is not closed yet: the flags around it, the alternatives before it, and the
items in front of it, both in reverse. An item is `none` where flags were set. -/
structure OpenGroup where
  flags : Flags
  alternatives : List DeepExpr
  items : List (Option DeepExpr)

/-- The state of the reading of a pattern. -/
structure ReadState where
  flags : Flags
  alternatives : List DeepExpr
  items : List (Option DeepExpr)
  groups : List OpenGroup
  names : List String

namespace ReadState

/-- Nothing read so far. -/
def initial : ReadState := ⟨.initial, [], [], [], []⟩

/-- One more item. -/
def push (s : ReadState) (e : Expr) (depth : Nat := 0) : ReadState :=
  { s with items := some ⟨e, depth⟩ :: s.items }

/-- The items since the last bar, as one expression. Flags count as items. -/
def branch (s : ReadState) : DeepExpr :=
  ⟨Expr.concat (s.items.reverse.filterMap fun item => item.map (·.expr)),
    DeepExpr.listDepth (s.items.map fun item => (item.map (·.depth)).getD 0)⟩

/-- All that was read in the current group. -/
def whole (s : ReadState) : DeepExpr :=
  let branches := (s.branch :: s.alternatives).reverse
  ⟨Expr.alternatives (branches.map (·.expr)), DeepExpr.listDepth (branches.map (·.depth))⟩

/-- A group is opened, in which some flags hold. -/
def openGroup (s : ReadState) (flags : Flags) : ReadState :=
  { s with flags := flags, alternatives := [], items := [],
           groups := ⟨s.flags, s.alternatives, s.items⟩ :: s.groups }

/-- The current group is closed. -/
def closeGroup? (s : ReadState) : Option ReadState :=
  match s.groups with
  | [] => none
  | g :: groups =>
      let inner := s.whole
      some { s with flags := g.flags, alternatives := g.alternatives,
                    items := some ⟨inner.expr, inner.depth + 1⟩ :: g.items, groups := groups }

/-- The last item is repeated. Flags and nothing at all cannot be. -/
def repeat? (s : ReadState) (least : Nat) (most : Option Nat) : Option ReadState :=
  match s.items with
  | some e :: items =>
      some { s with items := some ⟨.repeated e.expr least most, e.depth + 1⟩ :: items }
  | _ => none

/-- What stands behind an opening parenthesis. -/
def group? (s : ReadState) (cs : List Char) : Option (ReadState × List Char) :=
  let named (rest : List Char) : Option (ReadState × List Char) := do
    let (name, rest) ← readGroupName? rest
    if s.names.contains name then none
    else
      let s' := s.openGroup s.flags
      pure ({ s' with names := name :: s.names }, rest)
  match s.flags.skip cs with
  | '?' :: 'P' :: '<' :: rest => named rest
  | '?' :: '<' :: '=' :: _ => none
  | '?' :: '<' :: '!' :: _ => none
  | '?' :: '<' :: rest => named rest
  | '?' :: rest => do
      let (flags, closing, rest) ← readFlags? s.flags true [] rest
      if closing = ')' then
        pure ({ s with flags := flags, items := none :: s.items }, rest)
      else pure (s.openGroup flags, rest)
  | rest => pure (s.openGroup s.flags, rest)

/-- Drops the mark of a reluctant repetition. -/
def dropReluctant (cs : List Char) : List Char :=
  match cs with
  | '?' :: rest => rest
  | rest => rest

/-- The set of the characters that a dot stands for. Taken as bytes there is none. -/
def dotSet? (f : Flags) : Option Charset :=
  if !f.unicode then none
  else if f.dotAll then some (.complement .empty)
  else if f.carriage then some (.complement (.ofTable "A D"))
  else some (.complement (.ofTable "A"))

/-- The expression of a primitive outside of classes. Taken as a byte, a character must be in
ASCII. -/
def primitive? (f : Flags) (p : Primitive) : Option Expr :=
  match p with
  | .literal c asByte =>
      if asByte && !f.unicode && 0x80 ≤ c.toNat then none else some (.set (literalSet f c))
  | .set s => some (.set s)
  | .look l => some (.look l)

/-- The pattern one part further. -/
def step? (s : ReadState) (c : Char) (rest : List Char) : Option (ReadState × List Char) :=
  match c with
  | '(' => s.group? rest
  | ')' => (s.closeGroup?).map fun s => (s, rest)
  | '|' => some ({ s with alternatives := s.branch :: s.alternatives, items := [] }, rest)
  | '[' => do
      let (opened, rest) ← openClass? s.flags rest
      let (set, rest) ← readClass? s.flags opened [] rest
      pure (s.push (.set set.set) set.depth, rest)
  | '?' => (s.repeat? 0 (some 1)).map fun s => (s, dropReluctant rest)
  | '*' => (s.repeat? 0 none).map fun s => (s, dropReluctant rest)
  | '+' => (s.repeat? 1 none).map fun s => (s, dropReluctant rest)
  | '\x7b' => do
      let (least, most, rest) ← readCounts? s.flags rest
      let s' ← s.repeat? least most
      pure (s', dropReluctant (s.flags.skip rest))
  | '\\' => do
      let (p, rest) ← readEscape? s.flags rest
      let e ← primitive? s.flags p
      pure (s.push e, rest)
  | '.' => (dotSet? s.flags).map fun set => (s.push (.set set), rest)
  | '^' =>
      some (s.push (.look
        (if s.flags.multiLine then .lineStart s.flags.carriage else .textStart)), rest)
  | '$' =>
      some (s.push (.look
        (if s.flags.multiLine then .lineEnd s.flags.carriage else .textEnd)), rest)
  | c => some (s.push (.set (literalSet s.flags c)), rest)

/-- Reads a pattern to its end. -/
def run? (s : ReadState) (cs : List Char) : Option ReadState :=
  match s.flags.skip cs with
  | [] => some s
  | c :: rest =>
      match s.step? c rest with
      | none => none
      | some (s, rest) => if rest.length < cs.length then run? s rest else none
termination_by cs.length

end ReadState

/-- How deep groups, repetitions, classes and lists may stand inside each other. -/
def maxDepth : Nat := 250

/-- The expression that a pattern writes. -/
def Expr.ofPattern? (pattern : String) : Option Expr := do
  let s ← ReadState.initial.run? pattern.toList
  let e := s.whole
  if s.groups.isEmpty && e.depth ≤ maxDepth && e.expr.footprint ≤ maxFootprint then some e.expr
  else none

end Regex

end Polybuild
