import PayLink.Positional
/-!
# Base58 text

Bytes as text over an alphabet of 58 letters and digits without `0`, `O`, `I` and `l`. Each leading
zero byte is a leading `1`; the other bytes are a big-endian number, and the rest of the text is
the same number in base 58 with as few digits as it has.
-/

namespace PayLink.Base58

open Positional

/-- The digits in order of value. -/
def alphabet : List Char :=
  "123456789ABCDEFGHJKLMNPQRSTUVWXYZabcdefghijkmnopqrstuvwxyz".toList

/-- The character of a digit value. -/
def digitChar (d : Nat) : Char :=
  alphabet.getD d '1'

/-- The value of a digit character; `none` outside the alphabet. -/
def digit? (c : Char) : Option Nat :=
  alphabet.idxOf? c

/-- The text of bytes. -/
def encode (bs : List UInt8) : List Char :=
  List.replicate (bs.takeWhile (· == 0)).length '1'
    ++ (digits 58 (value 256 (bs.map UInt8.toNat))).map digitChar

/-- The bytes of a text; `none` if a character is outside the alphabet. -/
def decode? (cs : List Char) : Option (List UInt8) := do
  let ds ← cs.mapM digit?
  some (List.replicate (ds.takeWhile (· == 0)).length 0
    ++ (digits 256 (value 58 ds)).map UInt8.ofNat)

end PayLink.Base58
