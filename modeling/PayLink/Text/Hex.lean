/-!
# Hexadecimal digits

The value of a digit in either case, and the digit of a value in each case.
-/

namespace PayLink.Text.Hex

/-- The value of a hexadecimal digit. -/
def digit? (c : Char) : Option Nat :=
  if '0' ≤ c ∧ c ≤ '9' then some (c.toNat - 48)
  else if 'a' ≤ c ∧ c ≤ 'f' then some (c.toNat - 87)
  else if 'A' ≤ c ∧ c ≤ 'F' then some (c.toNat - 55)
  else none

/-- The lower-case digit of a value below sixteen. -/
def lower (n : Nat) : Char :=
  Nat.digitChar n

/-- The upper-case digit of a value below sixteen. -/
def upper (n : Nat) : Char :=
  (Nat.digitChar n).toUpper

/-- A lower-case digit is read back. -/
theorem digit?_lower : ∀ n < 16, digit? (lower n) = some n := by
  decide

/-- An upper-case digit is read back. -/
theorem digit?_upper : ∀ n < 16, digit? (upper n) = some n := by
  decide

end PayLink.Text.Hex
