import PayLink.Decimal.Binary64
import PayLink.Decimal.Text
/-!
# Shortest decimal text

The text of a floating number with the fewest digits that still read back as that number, written
without an exponent. The decimals that round to a number form an interval around it. The text is the
point of the coarsest decimal grid that has one in the interval, and of several such points the
nearest, the upper one if two are equally near.
-/

namespace PayLink.Decimal

/-- The decimals that round to a number, with all four quantities counted in units of
`1 / unit`. -/
structure Neighbourhood where
  /-- How many units make one. -/
  unit : Nat
  /-- The number itself. -/
  centre : Nat
  /-- The lower end. -/
  low : Nat
  /-- The upper end. -/
  high : Nat
  /-- Whether the ends round to the number as well. -/
  closed : Bool
  deriving Repr

namespace Neighbourhood

/-- The interval of a positive number `mantissa · 2 ^ exponent`. Its ends lie half way to the next
number on each side; below a power of two the numbers stand twice as close. -/
def ofParts (mantissa : Nat) (exponent : Int) : Neighbourhood :=
  let scale := Nat.pow 2 (exponent - 2).toNat
  let narrow := mantissa = Nat.pow 2 Binary64.fractionBits ∧ Binary64.minExponent < exponent
  { unit := Nat.pow 2 (2 - exponent).toNat
    centre := 4 * mantissa * scale
    low := (4 * mantissa - (if narrow then 1 else 2)) * scale
    high := (4 * mantissa + 2) * scale
    closed := mantissa % 2 = 0 }

/-- The same interval with units that are `k` times as fine. -/
def refine (h : Neighbourhood) (k : Nat) : Neighbourhood :=
  { h with unit := h.unit * k, centre := h.centre * k, low := h.low * k, high := h.high * k }

/-- Whether `x` units lie in the interval. -/
def contains (h : Neighbourhood) (x : Nat) : Bool :=
  if h.closed then h.low ≤ x && x ≤ h.high else h.low < x && x < h.high

/-- The multiple of `step` units that lies in the interval, if one does; the nearest one. -/
def hit? (h : Neighbourhood) (step : Nat) : Option Nat :=
  let below := h.centre / step
  let above := below + 1
  match h.contains (below * step), h.contains (above * step) with
  | true, true =>
    if h.centre - below * step < above * step - h.centre then some below else some above
  | true, false => some below
  | false, true => some above
  | false, false => none

/-- The point of the grid of multiples of `10 ^ power` in the interval, as a multiple. -/
def gridHit? (h : Neighbourhood) (power : Int) : Option Nat :=
  (h.refine (Nat.pow 10 (-power).toNat)).hit? (h.unit * Nat.pow 10 power.toNat)

/-- The first grid with a hit among `count` grids from `10 ^ power` down. -/
def search (h : Neighbourhood) : (count : Nat) → (power : Int) → Nat × Int
  | 0, power => (0, power)
  | count + 1, power =>
    match h.gridHit? power with
    | some k => (k, power)
    | none => h.search count (power - 1)

end Neighbourhood

namespace Binary64

/-- The greatest power of ten not above a finite number. -/
def maxPower : Nat := 308

/-- The text of `digits · 10 ^ power`. -/
def positional (digits : Nat) (power : Int) : List Char :=
  scaledText (digits * Nat.pow 10 power.toNat) (-power).toNat

/-- The text of a positive number. The grid of the last bit of the smallest numbers always has a
hit, so the search ends there at the latest. -/
def magnitudeText (mantissa : Nat) (exponent : Int) : List Char :=
  let (digits, power) :=
    (Neighbourhood.ofParts mantissa exponent).search (maxPower + 1076) maxPower
  positional digits power

/-- The shortest text of a floating number. -/
def text : Binary64 → String
  | .nan => "NaN"
  | .infinite negative => if negative then "-inf" else "inf"
  | .finite negative mantissa exponent =>
    let magnitude := if mantissa = 0 then ['0'] else magnitudeText mantissa exponent
    String.ofList (if negative then '-' :: magnitude else magnitude)

end Binary64

end PayLink.Decimal
