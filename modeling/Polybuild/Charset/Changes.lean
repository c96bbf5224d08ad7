import Polybuild.Charset.Basic

/-!
# Where a set of characters changes

However a set is put together, it is known by the numbers at which membership changes. `marks` are
read off the way a set is put together, and there is no change anywhere else; `changes` are those of
them where membership does change, in order. `spans` are the stretches between them.
-/

namespace Polybuild

namespace Charset

/-- The last number that a character can have. -/
def lastNumber : Nat := 0x10FFFF

/-- The numbers of a run. -/
def Run.numbers (r : Run) : List Nat :=
  (List.range ((r.last - r.first) / r.stride + 1)).map fun i => r.first + i * r.stride

/-- The numbers at which membership in a run can change. -/
def Run.marks (r : Run) : List Nat :=
  if r.stride = 1 then [r.first, r.last + 1] else r.numbers.flatMap fun n => [n, n + 1]

/-- The characters that fold to another one by some runs, and those that another one folds to. -/
def foldableBy (runs : List FoldRun) : List Nat :=
  runs.flatMap fun r =>
    r.run.numbers.flatMap fun n => [n, r.target + (n - r.run.first)]

/-- The characters that fold to another one, and those that another one folds to. -/
def foldable : List Nat := foldableBy foldRuns

/-- The letters of ASCII, and the characters right behind them. -/
def letterMarks : List Nat := List.range' 0x41 27 ++ List.range' 0x61 27

/-- The numbers at which membership in a set can change. -/
def marks : Charset → List Nat
  | ofRuns rs => rs.flatMap Run.marks
  | union a b => a.marks ++ b.marks
  | intersection a b => a.marks ++ b.marks
  | difference a b => a.marks ++ b.marks
  | symmetricDifference a b => a.marks ++ b.marks
  | complement a => 0 :: a.marks
  | folded a => a.marks ++ foldable.flatMap fun n => [n, n + 1]
  | foldedAscii a => a.marks ++ letterMarks

/-- Whether the character before the one with a number is in the set. -/
def memBefore (s : Charset) (n : Nat) : Bool :=
  n != 0 && s.mem (n - 1)

/-- A number put into a list in order, unless it is there. -/
def putInOrder (n : Nat) : List Nat → List Nat
  | [] => [n]
  | m :: rest =>
      if n < m then n :: m :: rest
      else if n = m then m :: rest
      else m :: putInOrder n rest

/-- The numbers at which membership changes, in order. -/
def changes (s : Charset) : List Nat :=
  (s.marks.foldr putInOrder []).filter fun n => n ≤ lastNumber && s.mem n != s.memBefore n

/-- The first and the last number of each stretch that starts at one change and ends before the
next. -/
def spansOf : List Nat → List (Nat × Nat)
  | [] => []
  | [first] => [(first, lastNumber)]
  | first :: next :: rest => (first, next - 1) :: spansOf rest

/-- The stretches of characters that a set consists of. -/
def spans (s : Charset) : List (Nat × Nat) :=
  spansOf s.changes

end Charset

end Polybuild
