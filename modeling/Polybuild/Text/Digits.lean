/-!
# Digits

The values of decimal and hexadecimal digits, and the numbers that lists of them write.
-/

namespace Polybuild

namespace Text

/-- The value of a decimal digit. -/
def decimalDigit? (c : Char) : Option Nat :=
  if '0' ≤ c ∧ c ≤ '9' then some (c.toNat - '0'.toNat) else none

/-- The value of a hexadecimal digit. -/
def hexDigit? (c : Char) : Option Nat :=
  if '0' ≤ c ∧ c ≤ '9' then some (c.toNat - '0'.toNat)
  else if 'a' ≤ c ∧ c ≤ 'f' then some (c.toNat - 'a'.toNat + 10)
  else if 'A' ≤ c ∧ c ≤ 'F' then some (c.toNat - 'A'.toNat + 10)
  else none

/-- The number that digits write in a base, the most significant one first. -/
def number? (base : Nat) (digit? : Char → Option Nat) (cs : List Char) : Option Nat :=
  cs.foldlM (fun n c => (digit? c).map fun d => n * base + d) 0

/-- The number that decimal digits write; there must be one at least. -/
def decimal? (cs : List Char) : Option Nat :=
  if cs.isEmpty then none else number? 10 decimalDigit? cs

/-- The number that hexadecimal digits write; there must be one at least. -/
def hexadecimal? (cs : List Char) : Option Nat :=
  if cs.isEmpty then none else number? 16 hexDigit? cs

/-- A hexadecimal digit in lower case. -/
def hexDigit (n : Nat) : Char :=
  "0123456789abcdef".toList.getD n '0'

/-- The hexadecimal digits of a number, with as few digits as it needs. -/
def hexDigits (n : Nat) : List Char :=
  Nat.toDigits 16 n

/-- The character with a number, if there is one. -/
def char? (n : Nat) : Option Char :=
  if n.isValidChar then some (Char.ofNat n) else none

end Text

end Polybuild
