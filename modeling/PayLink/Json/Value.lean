/-!
# JSON values

The values that a JSON text denotes, and that a settings file denotes too. Objects keep all their
members in order, duplicates included, because whether a duplicate matters is decided by the type
that is read. Numbers are exact.
-/

namespace PayLink.Json

/-- A number of a text. -/
inductive Number
  /-- A number written without fraction and exponent, other than `-0`. -/
  | integer (n : Int)
  /-- The number `mantissa · 10 ^ exponent`, written with a fraction, an exponent or as `-0`. -/
  | real (mantissa : Int) (exponent : Int)
  /-- A number that is infinite or undefined; only settings files can write one. -/
  | unbounded
  deriving DecidableEq, Repr

/-- A value. A string (or a key) is `none` if its escapes hold half of a surrogate pair without the
other half: such a string denotes no text, and is tolerated only where it is not looked at. -/
inductive Value
  /-- The value that stands for no value. -/
  | null
  /-- A truth value. -/
  | bool (b : Bool)
  /-- A number. -/
  | number (n : Number)
  /-- A string. -/
  | string (s : Option String)
  /-- A list of values. -/
  | array (items : List Value)
  /-- Keys with values, in the order of the text. -/
  | object (members : List (Option String × Value))
  deriving Repr

namespace Value

/-- A string that denotes a text. -/
def text (s : String) : Value := .string (some s)

/-- A natural number. -/
def nat (n : Nat) : Value := .number (.integer n)

/-- An object whose keys denote texts. -/
def ofMembers (ms : List (String × Value)) : Value :=
  .object (ms.map fun m => (some m.1, m.2))

/-- The text of a string. -/
def text? : Value → Option String
  | .string s => s
  | _ => none

/-- A truth value. -/
def bool? : Value → Option Bool
  | .bool b => some b
  | _ => none

/-- A natural number below `bound`. -/
def natBelow? (bound : Nat) : Value → Option Nat
  | .number (.integer (.ofNat n)) => if n < bound then some n else none
  | _ => none

/-- The items of an array, each read by `f`. -/
def items? {α : Type} (f : Value → Option α) : Value → Option (List α)
  | .array vs => vs.mapM f
  | _ => none

/-- A value that may be null. -/
def nullable? {α : Type} (f : Value → Option α) : Value → Option (Option α)
  | .null => some none
  | v => (f v).map some

end Value

end PayLink.Json
