import PayLink.Decimal.Rounding
/-!
# Binary floating numbers

A 64-bit floating number as the exact number that its bits denote: a sign and an integer times a
power of two. Nothing here computes with floating arithmetic.
-/

namespace PayLink.Decimal

/-- What 64 bits denote. -/
inductive Binary64
  /-- No number. -/
  | nan
  /-- An infinity. -/
  | infinite (negative : Bool)
  /-- The number `± mantissa · 2 ^ exponent`; zero has two signs. -/
  | finite (negative : Bool) (mantissa : Nat) (exponent : Int)
  deriving DecidableEq, Repr

namespace Binary64

/-- The number of bits of the stored fraction. -/
def fractionBits : Nat := 52

/-- The exponent of the last bit of the smallest numbers. -/
def minExponent : Int := -1074

/-- Reads 64 bits: a sign, eleven bits of exponent, and the fraction. -/
def ofBits (bits : UInt64) : Binary64 :=
  let n : Nat := bits.toNat
  let negative : Bool := n / Nat.pow 2 63 = 1
  let biased : Nat := n / Nat.pow 2 fractionBits % Nat.pow 2 11
  let fraction : Nat := n % Nat.pow 2 fractionBits
  if biased = 2047 then
    if fraction = 0 then .infinite negative else .nan
  else if biased = 0 then .finite negative fraction minExponent
  else .finite negative (Nat.pow 2 fractionBits + fraction) (minExponent + (biased : Int) - 1)

/-- The integer nearest to `mantissa · 2 ^ exponent · factor`, a half going to the even one. -/
def scaledRound (mantissa : Nat) (exponent : Int) (factor : Nat) : Nat :=
  roundHalfEven (mantissa * factor * Nat.pow 2 exponent.toNat) (Nat.pow 2 (-exponent).toNat)

end Binary64

end PayLink.Decimal
