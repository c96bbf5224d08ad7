import Polybuild.Regex.Expr

/-!
# Searching a text with a regular expression

`ends e places` gives the places in the text that the expression leads to from some of
`places`. Since only the set of places counts, no way through the expression is followed
twice, and a repetition need not be tried more often than the text has places: by then one of
its rounds took no character, and a further round of that kind adds nothing.

A text matches if the expression leads anywhere from any of its places.
-/

namespace Polybuild

namespace Regex

/-- The characters that words are made of. -/
def unicodeWord : Charset := Charset.wordCharacters

/-- The characters of ASCII that words are made of. -/
def asciiWord : Charset := Charset.ofTable "30-39 41-5A 5F 61-7A"

/-- Whether a character, if there is one, belongs to a word. -/
def isWord (ascii : Bool) (c : Option Char) : Bool :=
  c.any fun c => (if ascii then asciiWord else unicodeWord).mem c.toNat

/-- Whether a look holds between two characters; at the ends of the text there is none. -/
def Look.holds (l : Look) (before after : Option Char) : Bool :=
  match l with
  | .textStart => before.isNone
  | .textEnd => after.isNone
  | .lineStart carriage =>
      before.isNone || before == some '\n' ||
        (carriage && before == some '\r' && after != some '\n')
  | .lineEnd carriage =>
      if carriage then
        after.isNone || after == some '\r' || (after == some '\n' && before != some '\r')
      else after.isNone || after == some '\n'
  | .wordBoundary ascii => isWord ascii before != isWord ascii after
  | .noWordBoundary ascii => isWord ascii before == isWord ascii after
  | .wordStart ascii => !isWord ascii before && isWord ascii after
  | .wordEnd ascii => isWord ascii before && !isWord ascii after
  | .wordStartHalf ascii => !isWord ascii before
  | .wordEndHalf ascii => !isWord ascii after

/-- The character before a place. -/
def before? (text : Array Char) (place : Nat) : Option Char :=
  if place = 0 then none else text[place - 1]?

/-- Two sets of places together. -/
def unite (a b : List Nat) : List Nat :=
  a ++ b.filter fun place => !a.contains place

/-- A step taken a number of times. -/
def times (step : List Nat → List Nat) : Nat → List Nat → List Nat
  | 0, places => places
  | n + 1, places => times step n (step places)

/-- What a step leads to when it is taken at most a number of times. -/
def upTo (step : List Nat → List Nat) : Nat → List Nat → List Nat
  | 0, places => places
  | n + 1, places =>
      let more := (step places).filter fun place => !places.contains place
      if more.isEmpty then places else upTo step n (places ++ more)

namespace Expr

/-- The places that an expression leads to. -/
def ends (text : Array Char) : Expr → List Nat → List Nat
  | empty, places => places
  | set s, places =>
      places.filterMap fun place =>
        match text[place]? with
        | some c => if s.mem c.toNat then some (place + 1) else none
        | none => none
  | look l, places => places.filter fun place => l.holds (before? text place) text[place]?
  | append a b, places => b.ends text (a.ends text places)
  | either a b, places => unite (a.ends text places) (b.ends text places)
  | repeated e least most, places =>
      let rounds := text.size + 1
      let first := times (e.ends text) (min least rounds) places
      let extra :=
        match most with
        | none => rounds
        | some most => min (most - least) rounds
      upTo (e.ends text) extra first

/-- Whether an expression matches somewhere in a text. -/
def foundIn (e : Expr) (text : String) : Bool :=
  let cs := text.toList.toArray
  !(e.ends cs (List.range (cs.size + 1))).isEmpty

end Expr

end Regex

end Polybuild
