/-!
# Numerals

A numeral is a number as it is written: with or without a sign, in decimal or hexadecimal
digits, or by name. Of a decimal numeral the digits are kept as one natural number, with the
count of those behind the point and the exponent, so a numeral without a point and an exponent
is told from one that only has a whole value.

`isFinite` says whether a numeral has a nearest binary number of double width, and
`wholeOfNearest?` gives the whole part of that binary number, cut to 32 bits. The arithmetic is
exact: a decimal just below a whole number may have that whole number as its nearest.
-/

namespace Polybuild

namespace Json

/-- The sign in front of a numeral. -/
inductive Sign where
  | absent
  | plus
  | minus
  deriving DecidableEq, Repr

/-- The numeral behind its sign. -/
inductive Magnitude where
  /-- All digits as one number, the count of digits behind the point if there is a point, and
  the exponent if there is one. -/
  | decimal (digits : Nat) (behindPoint : Option Nat) (exponent : Option Int)
  | hexadecimal (value : Nat)
  | infinity
  | notANumber
  deriving DecidableEq, Repr

/-- A number as it is written. -/
structure Numeral where
  sign : Sign
  magnitude : Magnitude
  deriving DecidableEq, Repr

namespace Numeral

/-- The numeral of a natural number. -/
def ofNat (n : Nat) : Numeral :=
  ⟨.absent, .decimal n none none⟩

/-- The numeral of an integer. -/
def ofInt (n : Int) : Numeral :=
  if n < 0 then ⟨.minus, .decimal n.natAbs none none⟩ else ofNat n.natAbs

/-- The natural number that a numeral writes in decimal digits alone. -/
def natural? (n : Numeral) : Option Nat :=
  match n with
  | ⟨.absent, .decimal digits none none⟩ => some digits
  | _ => none

@[simp] theorem natural?_ofNat (n : Nat) : (ofNat n).natural? = some n := rfl

/-- The largest number of 32 bits. -/
def wordMax : Nat := Nat.pow 2 32 - 1

/-- The number of 32 bits that a numeral writes in decimal digits alone. -/
def word? (n : Numeral) : Option Nat :=
  n.natural?.filter (· ≤ wordMax)

/-- The least number that has no nearest finite binary number of double width. -/
def overflow : Nat := Nat.pow 2 1024 - Nat.pow 2 970

/-- The value of decimal digits times a power of ten, as a quotient of natural numbers. A power
that puts the first digit more than `10 ^ 310` or less than `10 ^ (-10)` from the point is
brought there, which keeps both sides of `overflow` and of one half apart. -/
def quotient (digits : Nat) (shift : Int) : Nat × Nat :=
  let size : Int := (Nat.toDigits 10 digits).length
  if digits = 0 then (0, 1)
  else if size + shift > 310 then (Nat.pow 10 310, 1)
  else if size + shift < -10 then (1, Nat.pow 10 10)
  else if shift ≥ 0 then (digits * Nat.pow 10 shift.toNat, 1)
  else (digits, Nat.pow 10 (-shift).toNat)

/-- The power of ten that belongs to the last digit of a decimal numeral. -/
def shift (behindPoint : Option Nat) (exponent : Option Int) : Int :=
  exponent.getD 0 - (behindPoint.getD 0 : Int)

/-- A quotient rounded to the nearest natural number, a half to the even neighbour. -/
def roundQuotient (num den : Nat) : Nat :=
  let whole := num / den
  let rest := 2 * (num % den)
  if rest < den then whole
  else if rest > den then whole + 1
  else if whole % 2 = 0 then whole else whole + 1

/-- The whole part of the binary number of 53 digits that is nearest to a quotient, cut to 32
bits. -/
def nearestWhole (num den : Nat) : Nat :=
  let whole := num / den
  if wordMax < whole then wordMax
  else if 2 * num < den then 0
  else
    let scale := if whole = 0 then Nat.pow 2 53 else Nat.pow 2 (52 - whole.log2)
    min wordMax (roundQuotient (num * scale) den / scale)

/-- Whether a decimal or hexadecimal numeral has a nearest finite binary number. -/
def isFinite (n : Numeral) : Bool :=
  match n.magnitude with
  | .decimal digits behindPoint exponent =>
      let (num, den) := quotient digits (shift behindPoint exponent)
      decide (num < overflow * den)
  | .hexadecimal value => decide (value < overflow)
  | .infinity => false
  | .notANumber => false

/-- The whole part, from zero to the largest number of 32 bits, of the binary number that a
numeral stands for. Numbers below zero count as zero, numbers that are too large as the largest.
There is none if the numeral has no nearest binary number, for hexadecimal digits behind a sign
or of more than 32 bits, and for a plus in front of a name. -/
def wholeOfNearest? (n : Numeral) : Option Nat :=
  match n.magnitude with
  | .decimal digits behindPoint exponent =>
      let (num, den) := quotient digits (shift behindPoint exponent)
      if n.isFinite then
        some (if n.sign = .minus then 0 else nearestWhole num den)
      else none
  | .hexadecimal value =>
      if n.sign = .absent ∧ value ≤ wordMax then some value else none
  | .infinity =>
      match n.sign with
      | .absent => some wordMax
      | .minus => some 0
      | .plus => none
  | .notANumber => if n.sign = .plus then none else some 0

/-- Whether a numeral has a value when it is read without being asked for a certain kind of
number: a plain decimal must fit into 64 bits with a sign, any other must have a binary
value. -/
def hasValue (n : Numeral) : Bool :=
  match n.magnitude with
  | .decimal digits none none =>
      if n.sign = .minus then decide (digits ≤ Nat.pow 2 63)
      else decide (digits < Nat.pow 2 63)
  | _ => n.wholeOfNearest?.isSome

end Numeral

end Json

end Polybuild
