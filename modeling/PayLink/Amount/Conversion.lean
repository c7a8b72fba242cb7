import PayLink.Amount
import PayLink.Decimal.Exact
import PayLink.Decimal.Shortest
import PayLink.Error
/-!
# Amounts from numbers and to numbers

The ways between minor units and decimal numbers. Text is converted without any rounding; a
floating number is rounded once, from its exact value. What does not fit is refused with the input
in the message.
-/

namespace PayLink.Amount

open Decimal

/-- The decimal text of an amount with `places` decimal places. -/
def decimalText (a : Amount) (places : UInt8) : String :=
  String.ofList (scaledText a.units places.toNat)

/-- The amount as the ledger carries it. -/
def toLedger (a : Amount) : Except PayError UInt64 :=
  if a.units < ledgerBound then .ok (UInt64.ofNat a.units)
  else .error (.invalidAmount
    (a.text ++ " minor units exceed the 64-bit ledger amount"))

/-- The amount that a floating number of whole units denotes, to the nearest minor unit. -/
def ofBinary64 (x : Binary64) (places : Int) : Except PayError Amount :=
  match x with
  | .nan | .infinite _ => .error (.invalidAmount (x.text ++ " is not a finite number"))
  | .finite negative mantissa exponent =>
    if negative ∧ mantissa ≠ 0 then .error (.invalidAmount (x.text ++ " is negative"))
    else if places < 0 ∨ 255 < places then
      .error (.invalidAmount
        ("decimals must be between 0 and 255, got " ++ toString places))
    else
      match ofNat? (Binary64.scaledRound mantissa exponent (Nat.pow 10 places.toNat)) with
      | some a => .ok a
      | none => .error (.invalidAmount
          (x.text ++ " with " ++ toString places ++ " decimals does not fit in 128 bits"))

/-- Why a text is no amount. -/
inductive TextFlaw
  /-- It is not written as a plain decimal number. -/
  | notPlain
  /-- It has a digit beyond the last decimal place. -/
  | tooPrecise (places : Nat)
  /-- It is too large. -/
  | tooLarge
  deriving DecidableEq, Repr

/-- The wording of a flaw. -/
def TextFlaw.message : TextFlaw → String
  | .notPlain => "is not a plain decimal number"
  | .tooPrecise places => "has more than " ++ toString places ++ " fractional digits"
  | .tooLarge => "does not fit in 128 bits"

/-- The minor units of an exact decimal. The power of ten that scales it must fit in 128 bits too,
even where the decimal is zero. -/
def ofExact (d : Exact) (places : Nat) : Except TextFlaw Amount :=
  if places < d.scale then .error (.tooPrecise places)
  else if Nat.pow 10 (places - d.scale) < amountBound then
    match ofNat? (d.mantissa * Nat.pow 10 (places - d.scale)) with
    | some a => .ok a
    | none => .error .tooLarge
  else .error .tooLarge

/-- The amount of a plain decimal number of whole units. -/
def ofDecimal (cs : List Char) (places : Nat) : Except TextFlaw Amount :=
  match Exact.ofText? cs with
  | none => .error .notPlain
  | some d => ofExact d.normalize places

/-- Reads the decimal text of an amount. -/
def parse (s : String) (places : UInt8) : Except PayError Amount :=
  (ofDecimal s.toList places.toNat).mapError fun flaw =>
    .invalidAmount (Text.quoted s ++ " " ++ flaw.message)

end PayLink.Amount
