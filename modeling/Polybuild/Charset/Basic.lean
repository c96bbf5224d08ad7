import Polybuild.Charset.Folding
import Polybuild.Charset.Property
import Polybuild.Charset.Script

/-!
# Sets of characters

A set of characters is built from runs of numbers by the operations of sets, and `mem` says
which characters are in it. A set is `folded` by adding the characters that differ from one of
its members in their case only.
-/

namespace Polybuild

/-- A set of characters, as it is put together. -/
inductive Charset where
  | ofRuns (rs : List Charset.Run)
  | union (a b : Charset)
  | intersection (a b : Charset)
  | difference (a b : Charset)
  | symmetricDifference (a b : Charset)
  | complement (a : Charset)
  /-- With all characters that fold as a member does. -/
  | folded (a : Charset)
  /-- With the letters of ASCII that a member is in the other case. -/
  | foldedAscii (a : Charset)
  deriving Repr

namespace Charset

/-- The letter of ASCII in the other case, by its number. -/
def otherCase? (n : Nat) : Option Nat :=
  if 0x41 ≤ n ∧ n ≤ 0x5A then some (n + 0x20)
  else if 0x61 ≤ n ∧ n ≤ 0x7A then some (n - 0x20)
  else none

/-- Whether the character with a number is in the set. -/
def mem : Charset → Nat → Bool
  | ofRuns rs, n => rs.any fun r => r.holds n
  | union a b, n => a.mem n || b.mem n
  | intersection a b, n => a.mem n && b.mem n
  | difference a b, n => a.mem n && !b.mem n
  | symmetricDifference a b, n => a.mem n != b.mem n
  | complement a, n => !a.mem n
  | folded a, n => a.mem n || (variants n).any a.mem
  | foldedAscii a, n => a.mem n || (otherCase? n).any a.mem

/-- The set without members. -/
def empty : Charset := .ofRuns []

@[simp] theorem mem_empty (n : Nat) : empty.mem n = false := rfl

/-- The set of one character. -/
def single (c : Char) : Charset := .ofRuns [.single c.toNat]

@[simp] theorem mem_single (c : Char) : (single c).mem c.toNat = true := by
  simp [single, mem]

/-- The set of the characters from one number to another. -/
def range (first last : Nat) : Charset := .ofRuns [⟨first, last, 1⟩]

/-- The set of the characters that a table lists. -/
def ofTable (table : String) : Charset := .ofRuns (runsOf table)

/-- The characters of some general categories. -/
def ofCategories (categories : List Category) : Charset :=
  let tables := categories.filter (· ≠ .unassigned)
  let listed := .ofRuns (tables.flatMap fun c => runsOf c.table)
  if categories.contains .unassigned then
    listed.union
      (.complement (.ofRuns (Category.assigned.flatMap fun c => runsOf c.table)))
  else listed

/-- The characters with a property. -/
def ofProperty (p : Property) : Charset :=
  .symmetricDifference (ofCategories p.categories) (ofTable p.exceptions)

/-- The characters of a script. -/
def ofScript (s : Script) : Charset :=
  ofTable s.members

/-- The characters that are used in a script. -/
def ofScriptExtension (s : Script) : Charset :=
  .symmetricDifference (ofTable s.members) (ofTable s.extensionDiffers)

/-- The decimal digits of all scripts. -/
def digits : Charset := ofCategories [.decimalNumber]

/-- The blanks of all scripts. -/
def blanks : Charset := ofProperty .whiteSpace

/-- The characters that words are made of. -/
def wordCharacters : Charset :=
  (ofProperty .alphabetic).union
    ((ofCategories
      [.nonspacingMark, .spacingMark, .enclosingMark, .decimalNumber, .connectorPunctuation]).union
      (ofProperty .joinControl))

/-- The letters and digits of all scripts. -/
def alphanumeric : Charset :=
  (ofProperty .alphabetic).union (ofCategories [.decimalNumber, .letterNumber, .otherNumber])

end Charset

end Polybuild
