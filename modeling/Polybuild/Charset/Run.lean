import Polybuild.Text.Digits
import Polybuild.Text.Pieces

/-!
# Runs of characters

The tables of the character database are lists of runs: numbers from a first to a last one in
equal steps. A table is kept as a text of words, one for each run, in hexadecimal digits:
`41-5A` for all numbers from the first to the last, `100-136/2` for every second of them, and
`AD` for a single one.
-/

namespace Polybuild

namespace Charset

/-- The numbers from `first` to `last`, in steps of `stride`. -/
structure Run where
  first : Nat
  last : Nat
  stride : Nat
  deriving DecidableEq, Repr

namespace Run

/-- Whether a number is in the run. -/
def holds (r : Run) (n : Nat) : Bool :=
  decide (r.first ≤ n) && decide (n ≤ r.last) && (n - r.first) % r.stride == 0

/-- The run with a single number. -/
def single (n : Nat) : Run := ⟨n, n, 1⟩

@[simp] theorem holds_single (n : Nat) : (single n).holds n = true := by
  simp [single, holds]

/-- The run that a word of a table writes. -/
def ofWord? (word : String) : Option Run :=
  let (range, stride) :=
    match Text.split '/' word with
    | [range, stride] => (range, Text.hexadecimal? stride.toList)
    | _ => (word, some 1)
  match Text.split '-' range with
  | [first] => do
      let first ← Text.hexadecimal? first.toList
      pure (single first)
  | [first, last] => do
      let first ← Text.hexadecimal? first.toList
      let last ← Text.hexadecimal? last.toList
      let stride ← stride
      pure ⟨first, last, stride⟩
  | _ => none

end Run

/-- The words of a table, which stand between blanks or on lines of their own. -/
def words (table : String) : List String :=
  (Text.split '\n' table).flatMap fun line => (Text.split ' ' line).filter (· ≠ "")

/-- The runs of a table. -/
def runsOf (table : String) : List Run :=
  (words table).filterMap Run.ofWord?

end Charset

end Polybuild
