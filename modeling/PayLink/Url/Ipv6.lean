import PayLink.Text.Hex
/-!
# IPv6 addresses in links

Eight groups of up to four hexadecimal digits with colons between them. Two colons stand for one or
more groups of zero, once, and the last two groups may be written like an IPv4 address. The text of
an address leaves out the first of the longest runs of at least two zero groups.
-/

namespace PayLink.Url.Ipv6

open PayLink.Text

/-- The number of a group. -/
def group? (cs : List Char) : Option Nat :=
  if cs.isEmpty ∨ 4 < cs.length then none
  else cs.foldlM (fun n c => (Hex.digit? c).map (n * 16 + ·)) 0

/-- A byte in decimal, without leading zeros. -/
def byte? (cs : List Char) : Option Nat :=
  if cs.isEmpty ∨ !cs.all Char.isDigit ∨ (1 < cs.length ∧ cs.head? = some '0') then none
  else
    let n := Nat.ofDigitChars 10 cs 0
    if n < 256 then some n else none

/-- Two groups written like an IPv4 address. -/
def dotted? (cs : List Char) : Option (List Nat) :=
  match (cs.splitOn '.').map byte? with
  | [some a, some b, some c, some d] => some [a * 256 + b, c * 256 + d]
  | _ => none

/-- The groups of pieces between colons; only the last may be written like an IPv4 address. -/
def groups? (mayEndDotted : Bool) : List (List Char) → Option (List Nat)
  | [] => some []
  | [p] => if mayEndDotted && p.contains '.' then dotted? p else (group? p).map ([·])
  | p :: ps => do
    let g ← group? p
    let gs ← groups? mayEndDotted ps
    some (g :: gs)

/-- The groups of a side of two colons; a side may be empty. -/
def side? (mayEndDotted : Bool) (cs : List Char) : Option (List Nat) :=
  if cs.isEmpty then some [] else groups? mayEndDotted (cs.splitOn ':')

/-- What stands before and after the first two colons that follow each other. -/
def gap? : List Char → Option (List Char × List Char)
  | ':' :: ':' :: rest => some ([], rest)
  | c :: rest => (gap? rest).map fun (before, after) => (c :: before, after)
  | [] => none

/-- The eight groups that a text between brackets writes. -/
def ofText? (cs : List Char) : Option (List Nat) :=
  match gap? cs with
  | none => do
    let gs ← groups? true (cs.splitOn ':')
    if gs.length = 8 then some gs else none
  | some (before, after) => do
    let left ← side? false before
    let right ← side? true after
    if left.length + right.length ≤ 7 then
      some (left ++ List.replicate (8 - left.length - right.length) 0 ++ right)
    else none

/-- How many groups at the start are zero. -/
def zeros (gs : List Nat) : Nat :=
  (gs.takeWhile (· = 0)).length

/-- The place and length of the first longest run of zero groups, where `index` groups stand before
`gs`. -/
def longestZeros (index : Nat) : List Nat → Nat × Nat
  | [] => (index, 0)
  | g :: gs =>
    let later := longestZeros (index + 1) gs
    let here := zeros (g :: gs)
    if later.2 ≤ here then (index, here) else later

/-- Groups with colons between them. -/
def joined (gs : List Nat) : List Char :=
  List.intercalate [':'] (gs.map (Nat.toDigits 16))

/-- The text of groups. -/
def text (gs : List Nat) : List Char :=
  let (place, length) := longestZeros 0 gs
  if length < 2 then joined gs
  else joined (gs.take place) ++ ':' :: ':' :: joined (gs.drop (place + length))

end PayLink.Url.Ipv6
