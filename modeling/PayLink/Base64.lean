/-!
# Base64 text

Bytes as text, three bytes to four characters. Writing pads the last group. Reading accepts a last
group without all of its padding, but the bits of its last character that belong to no byte must be
zero, so a text denotes nothing that writing could not have meant.
-/

namespace PayLink.Base64

/-- The digits in order of value. -/
def alphabet : List Char :=
  "ABCDEFGHIJKLMNOPQRSTUVWXYZabcdefghijklmnopqrstuvwxyz0123456789+/".toList

/-- The character of a six-bit value. -/
def digitChar (n : Nat) : Char :=
  alphabet.getD n 'A'

/-- The value of a character; `none` outside the alphabet. -/
def digit? (c : Char) : Option Nat :=
  alphabet.idxOf? c

/-- The text of bytes, padded. -/
def encode : List UInt8 → List Char
  | [] => []
  | [a] =>
    [digitChar (a.toNat / 4), digitChar (a.toNat % 4 * 16), '=', '=']
  | [a, b] =>
    [digitChar (a.toNat / 4), digitChar (a.toNat % 4 * 16 + b.toNat / 16),
      digitChar (b.toNat % 16 * 4), '=']
  | a :: b :: c :: rest =>
    digitChar (a.toNat / 4) :: digitChar (a.toNat % 4 * 16 + b.toNat / 16)
      :: digitChar (b.toNat % 16 * 4 + c.toNat / 64) :: digitChar (c.toNat % 64) :: encode rest

/-- The bytes of six-bit values; `none` if bits are left over that are not zero. -/
def ofDigits? : List Nat → Option (List UInt8)
  | [] => some []
  | [_] => none
  | [p, q] => if q % 16 = 0 then some [UInt8.ofNat (p * 4 + q / 16)] else none
  | [p, q, r] =>
    if r % 4 = 0 then
      some [UInt8.ofNat (p * 4 + q / 16), UInt8.ofNat (q % 16 * 16 + r / 4)]
    else none
  | p :: q :: r :: s :: rest =>
    (ofDigits? rest).map fun bs =>
      UInt8.ofNat (p * 4 + q / 16) :: UInt8.ofNat (q % 16 * 16 + r / 4)
        :: UInt8.ofNat (r % 4 * 64 + s) :: bs

/-- How much padding may follow `count` digits. -/
def maxPadding (count : Nat) : Nat :=
  (4 - count % 4) % 4

/-- The bytes of a text. -/
def decode? (cs : List Char) : Option (List UInt8) := do
  let digits := cs.takeWhile (· ≠ '=')
  let padding := cs.drop digits.length
  if padding.all (· = '=') ∧ padding.length ≤ maxPadding digits.length then
    ofDigits? (← digits.mapM digit?)
  else none

end PayLink.Base64
