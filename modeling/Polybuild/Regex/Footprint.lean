import Polybuild.Charset.Changes
import Polybuild.Regex.Expr

/-!
# The room that an expression takes

A counted repetition stands for as many copies, so a short pattern can write a very large
expression. The footprint of an expression estimates, in bytes, what a machine that runs it would
take: some bytes for every state. A set outside ASCII is read octet by octet, so its states are those
of the sequences of octets that its characters are written in, and sequences that start alike share
states. This is not more than what such a machine takes, so an expression with a footprint of more
than `maxFootprint` cannot be run in that much room.

What a set takes is told from its stretches of characters. How it is written does not matter.
-/

namespace Polybuild

namespace Regex

/-- The bytes of one state. -/
def stateRoom : Nat := 32

/-- The bytes of a state that leads two ways. -/
def forkRoom : Nat := 40

/-- The bytes of a way to one more sequence of octets. -/
def wayRoom : Nat := 4

/-- The bytes of a way for one more stretch of ASCII. -/
def stretchRoom : Nat := 8

/-- The bytes that may be taken. -/
def maxFootprint : Nat := 10 * Nat.pow 2 20

/-- The numbers that are written in the same number of octets: how many octets follow the first one,
the first number and the last one. Half of a pair of surrogates is no character. -/
def writtenAlike : List (Nat × Nat × Nat) :=
  [(0, 0, 0x7F), (1, 0x80, 0x7FF), (2, 0x800, 0xD7FF), (2, 0xE000, 0xFFFF), (3, 0x10000, 0x10FFFF)]

/-- The numbers from a first to a last one as sequences of ranges of digits to the base 64, with a
number of digits behind the first one. A digit with a range is followed by all digits. -/
def digitRanges : Nat → Nat → Nat → List (List (Nat × Nat))
  | 0, first, last => [[(first, last)]]
  | more + 1, first, last =>
      let base := 64 ^ (more + 1)
      let lead := first / base
      let lead' := last / base
      if lead = lead' then
        (digitRanges more (first % base) (last % base)).map fun digits => (lead, lead) :: digits
      else
        let front :=
          if first % base = 0 then []
          else (digitRanges more (first % base) (base - 1)).map fun digits => (lead, lead) :: digits
        let back :=
          if last % base = base - 1 then []
          else (digitRanges more 0 (last % base)).map fun digits => (lead', lead') :: digits
        let from' := if front.isEmpty then lead else lead + 1
        let upTo := if back.isEmpty then lead' + 1 else lead'
        let between :=
          if from' < upTo then [(from', upTo - 1) :: List.replicate (more + 1) (0, 63)] else []
        front ++ between ++ back

/-- The sequences of ranges that the characters of a stretch are written in. -/
def sequences (span : Nat × Nat) : List (List (Nat × Nat)) :=
  writtenAlike.flatMap fun (more, first, last) =>
    if max span.1 first ≤ min span.2 last then
      digitRanges more (max span.1 first) (min span.2 last)
    else []

/-- How many states a sequence has beside those that it shares with the one before. -/
def ownStates : List (Nat × Nat) → List (Nat × Nat) → Nat
  | a :: before, b :: here => if a = b then ownStates before here else here.length + 1
  | _, here => here.length

/-- The states of a list of sequences. Sequences of different lengths share none. -/
def statesFrom (before : List (Nat × Nat)) : List (List (Nat × Nat)) → Nat
  | [] => 0
  | here :: rest =>
      (if before.length = here.length then ownStates before here else here.length) +
        statesFrom here rest

/-- The room that stretches of characters take. -/
def roomOf (spans : List (Nat × Nat)) : Nat :=
  let sequences := spans.flatMap sequences
  match spans, sequences with
  | [], _ => stateRoom
  | [(first, last)], [sequence] =>
      -- one character is read without any choice
      if first = last then sequence.length * stateRoom else (sequence.length + 1) * stateRoom
  | _, _ =>
      if spans.all fun span => span.2 < 0x80 then stateRoom + spans.length * stretchRoom
      else (statesFrom [] sequences + 1) * stateRoom + sequences.length * wayRoom

namespace Expr

/-- Whether an expression takes no character, whatever it matches. -/
def takesNothing : Expr → Bool
  | empty => true
  | set _ => false
  | look _ => true
  | append a b => a.takesNothing && b.takesNothing
  | either a b => a.takesNothing && b.takesNothing
  | repeated e _ most => e.takesNothing || most == some 0

/-- The room that an expression takes, at the least. Rounds that take nothing are not repeated. -/
def footprint : Expr → Nat
  | empty => 0
  | set s => roomOf s.spans
  | look _ => stateRoom
  | append a b => a.footprint + b.footprint
  | either a b => a.footprint + b.footprint + forkRoom
  | repeated e least most =>
      let bound (n : Nat) : Nat := if e.takesNothing then min n 1 else n
      match most with
      | none => max (bound least) 1 * e.footprint + forkRoom
      | some most => bound most * e.footprint + (bound most - bound least) * forkRoom

@[simp] theorem footprint_empty : empty.footprint = 0 := rfl

end Expr

end Regex

end Polybuild
