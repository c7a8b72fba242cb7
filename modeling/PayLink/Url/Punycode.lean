/-!
# Punycode

A text of any characters written in lower-case letters, digits and hyphens. The ASCII characters
come first. The others are put in by increasing code point, and for each a number says how many
places and code points are skipped before it. Numbers are written in base 36 with thresholds that
adapt to the numbers before: a digit below its threshold ends the number.
-/

namespace PayLink.Url.Punycode

/-- The digit of a value: letters, then decimal digits. -/
def digit (n : Nat) : Char :=
  if n < 26 then Char.ofNat (0x61 + n) else Char.ofNat (0x30 + (n - 26))

/-- The value of a digit. -/
def value? (c : Char) : Option Nat :=
  if c.isLower then some (c.toNat - 0x61)
  else if c.isDigit then some (c.toNat - 0x30 + 26)
  else none

/-- The threshold of a digit at a place that counts in steps of 36 from 36. -/
def threshold (bias place : Nat) : Nat :=
  max 1 (min 26 (place - bias))

/-- A threshold leaves values on both sides. -/
theorem threshold_bounds (bias place : Nat) :
    1 ≤ threshold bias place ∧ threshold bias place ≤ 26 := by
  unfold threshold
  omega

/-- How often a number is divided by 35 until it is at most 455, in steps of 36, and what is left.
-/
def shrink (delta steps : Nat) : Nat × Nat :=
  if 455 < delta then shrink (delta / 35) (steps + 36) else (delta, steps)
termination_by delta
decreasing_by exact Nat.div_lt_self (by omega) (by omega)

/-- The bias after a number, with the length of the text so far. -/
def adapt (delta length : Nat) (isFirst : Bool) : Nat :=
  let scaled := if isFirst then delta / 700 else delta / 2
  let (rest, steps) := shrink (scaled + scaled / length) 0
  steps + 36 * rest / (rest + 38)

/-- The digits of a number, from a place on. -/
def digits (bias place n : Nat) : List Char :=
  let t := threshold bias place
  if n < t then [digit n]
  else digit (t + (n - t) % (36 - t)) :: digits bias (place + 36) ((n - t) / (36 - t))
termination_by n
decreasing_by
  have := threshold_bounds bias place
  exact Nat.lt_of_le_of_lt (Nat.div_le_self _ _) (by omega)

/-- Reads the digits of a number from a place on, where a digit has the given weight, and gives what
follows them. -/
def number? (bias place weight : Nat) : List Char → Option (Nat × List Char)
  | [] => none
  | c :: cs =>
    match value? c with
    | none => none
    | some d =>
      if d < threshold bias place then some (d * weight, cs)
      else
        (number? bias (place + 36) (weight * (36 - threshold bias place)) cs).map fun r =>
          (d * weight + r.1, r.2)

/-- A number has at least one digit. -/
theorem length_number? {bias place weight n : Nat} {cs rest : List Char}
    (h : number? bias place weight cs = some (n, rest)) : rest.length < cs.length := by
  induction cs generalizing place weight n with
  | nil => simp [number?] at h
  | cons c cs ih =>
    simp only [number?] at h
    split at h
    · simp at h
    · split at h
      · simp only [Option.some.injEq, Prod.mk.injEq] at h
        simp [h.2]
      · obtain ⟨⟨m, r⟩, hr, he⟩ := Option.map_eq_some_iff.mp h
        simp only [Prod.mk.injEq] at he
        obtain ⟨_, rfl⟩ := he
        exact Nat.lt_succ_of_lt (ih hr)

/-- How a text is being written. -/
structure Writer where
  /-- The numbers so far. -/
  out : List Char := []
  /-- How many places and code points have been skipped since the last number. -/
  skipped : Nat := 0
  /-- The bias of the next number. -/
  bias : Nat := 72
  /-- How many characters have been written. -/
  length : Nat
  deriving Repr

namespace Writer

/-- Passes a character of the text while the characters with a code point are written. -/
def pass (basicLength code : Nat) (w : Writer) (c : Char) : Writer :=
  if c.toNat < code then { w with skipped := w.skipped + 1 }
  else if c.toNat = code then
    { out := w.out ++ digits w.bias 36 w.skipped
      skipped := 0
      bias := adapt w.skipped (w.length + 1) (w.length = basicLength)
      length := w.length + 1 }
  else w

/-- Writes the characters with the given code points, which increase, where `next` is the least code
point that has not been looked for. -/
def writeAll (cs : List Char) (basicLength : Nat) (w : Writer) (next : Nat) : List Nat → Writer
  | [] => w
  | code :: codes =>
    let start := { w with skipped := w.skipped + (code - next) * (w.length + 1) }
    let w := cs.foldl (pass basicLength code) start
    writeAll cs basicLength { w with skipped := w.skipped + 1 } (code + 1) codes

end Writer

/-- Whether a character is written as itself. -/
def isBasic (c : Char) : Bool :=
  c.toNat < 0x80

/-- Inserts a number into increasing numbers unless it is there. -/
def insertCode (n : Nat) : List Nat → List Nat
  | [] => [n]
  | m :: ms => if n < m then n :: m :: ms else if n = m then m :: ms else m :: insertCode n ms

/-- The code points beyond ASCII of a text, increasing. -/
def codes (cs : List Char) : List Nat :=
  ((cs.filter fun c => !isBasic c).map Char.toNat).foldr insertCode []

/-- Writes a text. -/
def encode (cs : List Char) : List Char :=
  let basic := cs.filter isBasic
  let w := Writer.writeAll cs basic.length { length := basic.length } 0x80 (codes cs)
  (if basic.isEmpty then [] else basic ++ ['-']) ++ w.out

/-- Puts characters into a text as numbers say. The next one has at least the code point `code` and
stands at `place` or later. -/
def insertAll? (out : List Char) (bias code place : Nat) (isFirst : Bool) (cs : List Char) :
    Option (List Char) :=
  if cs.isEmpty then some out
  else
    match _h : number? bias 36 1 cs with
    | none => none
    | some (n, rest) =>
      let length := out.length + 1
      let code := code + (place + n) / length
      let place := (place + n) % length
      if code.isValidChar then
        insertAll? (out.insertIdx place (Char.ofNat code)) (adapt n length isFirst) code (place + 1)
          false rest
      else none
termination_by cs.length
decreasing_by exact length_number? _h

/-- The ASCII characters that a written text begins with, and the numbers. A hyphen ends the ASCII
characters if there are any. -/
def split (cs : List Char) : List Char × List Char :=
  let numbers := (cs.reverse.takeWhile (· ≠ '-')).reverse
  let front := cs.take (cs.length - numbers.length)
  if front.length ≤ 1 then ([], cs) else (front.dropLast, numbers)

/-- Reads a written text. -/
def decode? (cs : List Char) : Option (List Char) :=
  let (basic, numbers) := split cs
  if basic.all isBasic then insertAll? basic 72 0x80 0 true numbers else none

end PayLink.Url.Punycode
