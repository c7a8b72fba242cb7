import PayLink.Json.Value
/-!
# Bounded values

A value whose kind is only known after it was read is held in memory first. That takes more than
skipping it: it must not be nested too deeply, its strings must denote texts, and its numbers must
be within the range of 64-bit floating numbers.
-/

namespace PayLink.Json

/-- The least number that is too large for a 64-bit floating number even after rounding. -/
def overflowBound : Nat := Nat.pow 2 1024 - Nat.pow 2 970

/-- Whether a number is within the range of 64-bit floating numbers. A number with many more digits
before its point than the bound is not computed. -/
def Number.isBounded : Number → Bool
  | .integer n => n.natAbs < overflowBound
  | .real m e =>
    m = 0 || (e + (Nat.toDigits 10 m.natAbs).length < 400
      && (e < 0 || m.natAbs * Nat.pow 10 e.toNat < overflowBound)
      && (0 ≤ e || m.natAbs < overflowBound * Nat.pow 10 (-e).toNat))
  | .unbounded => false

mutual

/-- Whether a value can be held in memory with at most `levels` arrays and objects around each
other. -/
def Value.isBounded : (levels : Nat) → Value → Bool
  | _, .null | _, .bool _ => true
  | _, .number n => n.isBounded
  | _, .string s => s.isSome
  | 0, .array _ => false
  | n + 1, .array vs => itemsBounded n vs
  | 0, .object _ => false
  | n + 1, .object ms => membersBounded n ms

/-- Whether all items of an array can be held. -/
def Value.itemsBounded : (levels : Nat) → List Value → Bool
  | _, [] => true
  | n, v :: vs => v.isBounded n && itemsBounded n vs

/-- Whether all members of an object can be held. -/
def Value.membersBounded : (levels : Nat) → List (Option String × Value) → Bool
  | _, [] => true
  | n, (k, v) :: ms => k.isSome && v.isBounded n && membersBounded n ms

end

end PayLink.Json
