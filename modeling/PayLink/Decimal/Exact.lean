/-!
# Exact decimals

Decimal text read without rounding. A decimal is held as an integer below 2^96 and the number of
its fractional digits, of which there are at most 28; a text that needs more is refused. Trailing
zeros of the fraction count as digits when the text is read and are dropped afterwards.
-/

namespace PayLink.Decimal

/-- The bound of the digits, read without the point. -/
def mantissaBound : Nat := Nat.pow 2 96

/-- The greatest number of fractional digits. -/
def maxScale : Nat := 28

/-- The number `mantissa / 10 ^ scale`. -/
structure Exact where
  /-- The digits without the point. -/
  mantissa : Nat
  /-- The number of fractional digits. -/
  scale : Nat
  deriving DecidableEq, Repr

namespace Exact

/-- The whole part of a text and, after its first point, the fraction. -/
def parts (cs : List Char) : List Char × List Char :=
  let whole := cs.takeWhile (· ≠ '.')
  (whole, cs.drop (whole.length + 1))

/-- Reads digits with at most one point and at least one digit. -/
def ofText? (cs : List Char) : Option Exact :=
  let (whole, fraction) := parts cs
  let digits := whole ++ fraction
  if digits.all Char.isDigit ∧ digits ≠ [] ∧ fraction.length ≤ maxScale
      ∧ Nat.ofDigitChars 10 digits 0 < mantissaBound then
    some ⟨Nat.ofDigitChars 10 digits 0, fraction.length⟩
  else none

/-- Drops trailing zeros of `scale` fractional digits. -/
def dropZeros (mantissa : Nat) : (scale : Nat) → Exact
  | 0 => ⟨mantissa, 0⟩
  | scale + 1 =>
    if mantissa % 10 = 0 then dropZeros (mantissa / 10) scale else ⟨mantissa, scale + 1⟩

/-- The same number with as few fractional digits as it has. -/
def normalize (d : Exact) : Exact :=
  dropZeros d.mantissa d.scale

end Exact

end PayLink.Decimal
