/-!
# Amounts

A payment amount is a natural number of minor units of its asset, below 2^128. It has no decimal
point of its own: how many minor units make one whole unit belongs to the asset.
-/

namespace PayLink

/-- The bound of amounts. -/
def amountBound : Nat := Nat.pow 2 128

/-- The bound of the amounts that the ledger can carry. -/
def ledgerBound : Nat := Nat.pow 2 64

/-- A number of minor units. -/
structure Amount where
  /-- The number. -/
  units : Nat
  /-- It fits in 128 bits. -/
  units_lt : units < amountBound
  deriving DecidableEq

namespace Amount

/-- Amounts with the same number of units are equal. -/
theorem eq_of_units {a b : Amount} (h : a.units = b.units) : a = b := by
  cases a; cases b; simp_all

/-- The amount of `n` units, if it fits. -/
def ofNat? (n : Nat) : Option Amount :=
  if h : n < amountBound then some ⟨n, h⟩ else none

/-- An amount is made of the number of its units. -/
theorem ofNat?_units (a : Amount) : ofNat? a.units = some a := by
  simp [ofNat?, a.units_lt]

/-- The digits of an amount. -/
def digits (a : Amount) : List Char :=
  Nat.toDigits 10 a.units

/-- How an amount is laid out in a column. -/
inductive Layout
  /-- The digits alone. -/
  | plain
  /-- Blanks in front, up to a width. -/
  | right (width : Nat)
  /-- Blanks behind, up to a width. -/
  | left (width : Nat)
  /-- Blanks on both sides, up to a width, an odd one behind. -/
  | centred (width : Nat)
  /-- Zeros in front, up to a width. -/
  | zeroFilled (width : Nat)
  /-- A plus sign in front. -/
  | signed
  deriving DecidableEq, Repr

/-- The text of an amount. -/
def text (a : Amount) : String :=
  String.ofList a.digits

/-- The text of an amount in a layout. -/
def laidOut (a : Amount) (layout : Layout) : String :=
  let ds := a.digits
  String.ofList <|
    match layout with
    | .plain => ds
    | .right width => ds.leftpad width ' '
    | .left width => ds.rightpad width ' '
    | .centred width => (ds.leftpad (ds.length + (width - ds.length) / 2) ' ').rightpad width ' '
    | .zeroFilled width => ds.leftpad width '0'
    | .signed => '+' :: ds

end Amount

end PayLink
