/-!
# IPv4 addresses in links

A host whose last part is a number is an IPv4 address: up to four numbers, decimal, octal after a
zero or hexadecimal after `0x`, of which the last fills the bytes that the others leave.
-/

namespace PayLink.Url.Ipv4

/-- A part of an address that is a number. -/
inductive Part
  /-- A number below 2^32. -/
  | small (n : Nat)
  /-- A larger number. -/
  | large
  deriving DecidableEq, Repr

/-- The value of digits in a base; `none` if a character is no digit of it. -/
def valueIn? (base : Nat) (cs : List Char) : Option Nat :=
  cs.foldlM (fun n c =>
    let d :=
      if '0' ≤ c ∧ c ≤ '9' then c.toNat - 48
      else if 'a' ≤ c ∧ c ≤ 'f' then c.toNat - 87
      else if 'A' ≤ c ∧ c ≤ 'F' then c.toNat - 55
      else 16
    if d < base then some (n * base + d) else none) 0

/-- The number that a part writes. A bare base mark is zero. -/
def part? (cs : List Char) : Option Part :=
  let value :=
    match cs with
    | [] => none
    | '0' :: 'x' :: ds | '0' :: 'X' :: ds => valueIn? 16 ds
    | '0' :: d :: ds => valueIn? 8 (d :: ds)
    | ds => valueIn? 10 ds
  value.map fun n => if n < Nat.pow 2 32 then .small n else .large

/-- The parts of a host, without an empty one at the end. -/
def parts (host : List Char) : List (List Char) :=
  let ps := host.splitOn '.'
  if ps.getLast? = some [] then ps.dropLast else ps

/-- Whether a host must be an IPv4 address: its last part is all digits or a number. -/
def endsInNumber (host : List Char) : Bool :=
  match (parts host).getLast? with
  | none => false
  | some last => (!last.isEmpty && last.all Char.isDigit) || (part? last).isSome

/-- The address of numbers, the last of which fills what the others leave. -/
def ofNumbers? (ns : List Nat) : Option Nat :=
  match ns.getLast? with
  | none => none
  | some last =>
    let leading := ns.dropLast
    if 3 < leading.length ∨ Nat.pow 256 (4 - leading.length) ≤ last ∨ leading.any (255 < ·) then none
    else some (leading.foldr (fun n (acc : Nat × Nat) => (acc.1 + n * acc.2, acc.2 * 256))
      (last, Nat.pow 256 (4 - leading.length))).1

/-- The number of a part that is below 2^32. -/
def small? : Part → Option Nat
  | .small n => some n
  | .large => none

/-- The address that a host writes. -/
def ofHost? (host : List Char) : Option Nat := do
  let ns ← (parts host).mapM fun p => (part? p).bind small?
  ofNumbers? ns

/-- The text of an address: its four bytes. -/
def text (n : Nat) : List Char :=
  Nat.toDigits 10 (n / Nat.pow 2 24) ++ '.' :: Nat.toDigits 10 (n / Nat.pow 2 16 % 256)
    ++ '.' :: Nat.toDigits 10 (n / Nat.pow 2 8 % 256) ++ '.' :: Nat.toDigits 10 (n % 256)

end PayLink.Url.Ipv4
