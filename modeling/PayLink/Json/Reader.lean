import PayLink.Json.Value
import PayLink.Text.Hex
/-!
# Reading JSON

A reader of JSON texts over character lists: every function takes the characters that are left and
returns what it read with the characters that are left after it. A text is accepted only if it is
one value with blanks around it. Nesting may be of any depth.
-/

namespace PayLink.Json.Reader

/-- The characters between tokens. -/
def isBlank (c : Char) : Bool :=
  c = ' ' || c = '\t' || c = '\n' || c = '\r'

/-- What is left after the blanks. -/
def skipBlanks (cs : List Char) : List Char :=
  cs.dropWhile isBlank

/-- The number that four hexadecimal digits write. -/
def hex4? (a b c d : Char) : Option Nat := do
  let p ← Text.Hex.digit? a
  let q ← Text.Hex.digit? b
  let r ← Text.Hex.digit? c
  let s ← Text.Hex.digit? d
  some (((p * 16 + q) * 16 + r) * 16 + s)

/-- One step of a string: a character, or half of a surrogate pair. -/
inductive Part
  /-- A character, written as itself or by an escape. -/
  | scalar (c : Char)
  /-- An escaped surrogate. -/
  | half (n : Nat)
  deriving DecidableEq, Repr

/-- The part that an escape of the 16-bit number `n` writes. -/
def partOf (n : Nat) : Part :=
  if 0xD800 ≤ n ∧ n < 0xE000 then .half n else .scalar (Char.ofNat n)

/-- The character of an escape with a single letter. -/
def escaped? : Char → Option Char
  | '"' => some '"'
  | '\\' => some '\\'
  | '/' => some '/'
  | 'b' => some '\x08'
  | 'f' => some '\x0c'
  | 'n' => some '\n'
  | 'r' => some '\r'
  | 't' => some '\t'
  | _ => none

/-- The parts of a string up to its closing quote. Control characters must be escaped. -/
def parts? : List Char → Option (List Part × List Char)
  | [] => none
  | '"' :: rest => some ([], rest)
  | '\\' :: 'u' :: a :: b :: c :: d :: rest => do
    let n ← hex4? a b c d
    let (ps, rest) ← parts? rest
    some (partOf n :: ps, rest)
  | '\\' :: e :: rest => do
    let c ← escaped? e
    let (ps, rest) ← parts? rest
    some (.scalar c :: ps, rest)
  | c :: rest =>
    if c.toNat < 0x20 ∨ c = '\\' then none
    else do
      let (ps, rest) ← parts? rest
      some (.scalar c :: ps, rest)

/-- The text of parts: two halves make one character, and a half alone makes no text. -/
def join? : List Part → Option (List Char)
  | [] => some []
  | .scalar c :: ps => (join? ps).map (c :: ·)
  | .half a :: .half b :: ps =>
    if a < 0xDC00 ∧ 0xDC00 ≤ b then
      (join? ps).map (Char.ofNat (0x10000 + (a - 0xD800) * 1024 + (b - 0xDC00)) :: ·)
    else none
  | .half _ :: _ => none

/-- A string after its opening quote. -/
def string? (cs : List Char) : Option (Option String × List Char) := do
  let (ps, rest) ← parts? cs
  some ((join? ps).map String.ofList, rest)

/-- The digits at the start, and what is left after them. -/
def digits (cs : List Char) : List Char × List Char :=
  cs.span Char.isDigit

/-- The digits of an integer part: no leading zero unless it is the only digit. -/
def whole? (cs : List Char) : Option (List Char × List Char) :=
  match digits cs with
  | ([], _) => none
  | (['0'], rest) => some (['0'], rest)
  | ('0' :: _, _) => none
  | (ds, rest) => some (ds, rest)

/-- The digits of a fraction; none if no point follows. -/
def fraction? : List Char → Option (List Char × List Char)
  | '.' :: cs =>
    match digits cs with
    | ([], _) => none
    | (ds, rest) => some (ds, rest)
  | cs => some ([], cs)

/-- The digits of an exponent as a number. -/
def power? (cs : List Char) : Option (Nat × List Char) :=
  match digits cs with
  | ([], _) => none
  | (ds, rest) => some (Nat.ofDigitChars 10 ds 0, rest)

/-- An exponent; `none` inside if there is none. -/
def exponent? : List Char → Option (Option Int × List Char)
  | e :: cs =>
    if e = 'e' ∨ e = 'E' then
      match cs with
      | '-' :: cs => (power? cs).map fun (n, rest) => (some (-(n : Int)), rest)
      | '+' :: cs => (power? cs).map fun (n, rest) => (some (n : Int), rest)
      | cs => (power? cs).map fun (n, rest) => (some (n : Int), rest)
    else some (none, e :: cs)
  | [] => some (none, [])

/-- The number with the given parts. -/
def numberOf (negative : Bool) (whole fraction : List Char) (exponent : Option Int) : Number :=
  let magnitude : Nat := Nat.ofDigitChars 10 (whole ++ fraction) 0
  let signed : Int := if negative then -magnitude else magnitude
  match fraction, exponent with
  | [], none => if negative ∧ magnitude = 0 then .real 0 0 else .integer signed
  | _, e => .real signed (e.getD 0 - fraction.length)

/-- A number without its sign. -/
def unsigned? (negative : Bool) (cs : List Char) : Option (Number × List Char) := do
  let (w, cs) ← whole? cs
  let (f, cs) ← fraction? cs
  let (e, cs) ← exponent? cs
  some (numberOf negative w f e, cs)

/-- A number. -/
def number? : List Char → Option (Number × List Char)
  | '-' :: cs => unsigned? true cs
  | cs => unsigned? false cs

mutual

/-- A value, with blanks allowed before it. The first argument bounds the number of steps. -/
def value? : Nat → List Char → Option (Value × List Char)
  | 0, _ => none
  | n + 1, cs =>
    match skipBlanks cs with
    | '[' :: rest =>
      match skipBlanks rest with
      | ']' :: rest => some (.array [], rest)
      | rest => (elements? n rest).map fun (vs, rest) => (.array vs, rest)
    | '{' :: rest =>
      match skipBlanks rest with
      | '}' :: rest => some (.object [], rest)
      | rest => (members? n rest).map fun (ms, rest) => (.object ms, rest)
    | '"' :: rest => (string? rest).map fun (s, rest) => (.string s, rest)
    | 'n' :: 'u' :: 'l' :: 'l' :: rest => some (.null, rest)
    | 't' :: 'r' :: 'u' :: 'e' :: rest => some (.bool true, rest)
    | 'f' :: 'a' :: 'l' :: 's' :: 'e' :: rest => some (.bool false, rest)
    | rest => (number? rest).map fun (k, rest) => (.number k, rest)

/-- The items of an array that is not empty, up to its closing bracket. -/
def elements? : Nat → List Char → Option (List Value × List Char)
  | 0, _ => none
  | n + 1, cs => do
    let (v, rest) ← value? n cs
    match skipBlanks rest with
    | ',' :: rest =>
      let (vs, rest) ← elements? n rest
      some (v :: vs, rest)
    | ']' :: rest => some ([v], rest)
    | _ => none

/-- The members of an object that is not empty, up to its closing brace. -/
def members? : Nat → List Char → Option (List (Option String × Value) × List Char)
  | 0, _ => none
  | n + 1, cs =>
    match skipBlanks cs with
    | '"' :: rest => do
      let (k, rest) ← string? rest
      match skipBlanks rest with
      | ':' :: rest =>
        let (v, rest) ← value? n rest
        match skipBlanks rest with
        | ',' :: rest =>
          let (ms, rest) ← members? n rest
          some ((k, v) :: ms, rest)
        | '}' :: rest => some ([(k, v)], rest)
        | _ => none
      | _ => none
    | _ => none

end

end PayLink.Json.Reader

namespace PayLink.Json

/-- The value of a text; `none` if the text is not exactly one value. Two steps for each character
are enough, because every step but the one into an item consumes a character. -/
def read? (s : String) : Option Value :=
  let cs := s.toList
  match Reader.value? (2 * cs.length + 2) cs with
  | some (v, rest) => if (Reader.skipBlanks rest).isEmpty then some v else none
  | none => none

end PayLink.Json
