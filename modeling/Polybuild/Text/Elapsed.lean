/-!
# Lengths of time

A length of time is a number of nanoseconds. Its text is a number of the largest of four units
that is not larger than it, with the digits behind the point that it needs and no others.
-/

namespace Polybuild

namespace Text

/-- The units of time with their lengths in nanoseconds, the largest one first. Each has as many
digits behind its point as its length has zeros. -/
def timeUnits : List (Nat × Nat × String) :=
  [(1000000000, 9, "s"), (1000000, 6, "ms"), (1000, 3, "µs")]

/-- The digits of a number, filled up with zeros in front. -/
def paddedDigits (width n : Nat) : List Char :=
  let digits := Nat.toDigits 10 n
  List.replicate (width - digits.length) '0' ++ digits

/-- Digits behind a point without the zeros at their end. -/
def fractionText (width n : Nat) : String :=
  let digits := ((paddedDigits width n).reverse.dropWhile (· == '0')).reverse
  if digits.isEmpty then "" else "." ++ String.ofList digits

/-- The text of a number of nanoseconds. -/
def elapsed (nanoseconds : Nat) : String :=
  match timeUnits.find? fun unit => unit.1 ≤ nanoseconds with
  | some (length, width, name) =>
      toString (nanoseconds / length) ++ fractionText width (nanoseconds % length) ++ name
  | none => toString nanoseconds ++ "ns"

end Text

end Polybuild
