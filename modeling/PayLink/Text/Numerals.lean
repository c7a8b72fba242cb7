/-!
# Numbers in a compact text

Tables of numbers are written as texts of base-36 numerals, each followed by a blank.
-/

namespace PayLink.Text.Numerals

/-- The value of a base-36 digit, with lower-case letters above nine. -/
def digit (c : Char) : Nat :=
  if c.isDigit then c.toNat - 48 else c.toNat - 87

/-- The numbers of a text of numerals. -/
def numbers (cs : List Char) : Array Nat :=
  (cs.foldl
    (fun (acc : Array Nat × Nat) c =>
      if c = ' ' then (acc.1.push acc.2, 0) else (acc.1, acc.2 * 36 + digit c))
    (#[], 0)).1

/-- The numbers of a text on several lines. -/
def ofLines (lines : List String) : Array Nat :=
  numbers (lines.flatMap String.toList)

end PayLink.Text.Numerals
