import PayLink.Json.Value
import PayLink.Text.Hex
/-!
# Numbers, truth values and dates of settings files

A value that no quote or bracket begins is a single word. Numbers may have underscores between
digits. A date or time has no meaning for any setting, so it is checked and then kept as an object
with one nameless member.
-/

namespace PayLink.Toml

open PayLink.Json

/-- The digits of a numeral without its underscores; each underscore must stand between digits. -/
def digits? (isDigit : Char → Bool) : List Char → Option (List Char)
  | [] => none
  | [c] => if isDigit c then some [c] else none
  | c :: '_' :: rest => if isDigit c then (digits? isDigit rest).map (c :: ·) else none
  | c :: rest => if isDigit c then (digits? isDigit rest).map (c :: ·) else none

/-- The digits of a decimal numeral, which has no leading zero. -/
def whole? (cs : List Char) : Option (List Char) := do
  let ds ← digits? Char.isDigit cs
  if ds.head? = some '0' ∧ 1 < ds.length then none else some ds

/-- The value of digits in a base. -/
def valueIn (base : Nat) (ds : List Char) : Nat :=
  ds.foldl (fun n d => n * base + (Text.Hex.digit? d).getD 0) 0

/-- The digits of a base. -/
def isDigitOf (base : Nat) (c : Char) : Bool :=
  match Text.Hex.digit? c with
  | some d => d < base
  | none => false

/-- An integer, if it fits in 128 bits with or without a sign. -/
def bounded? (n : Int) : Option Number :=
  if -(Nat.pow 2 127 : Nat) ≤ n ∧ n < (Nat.pow 2 128 : Nat) then some (.integer n) else none

/-- The sign of a numeral and what follows it. -/
def splitSign : List Char → Bool × List Char
  | '-' :: rest => (true, rest)
  | '+' :: rest => (false, rest)
  | cs => (false, cs)

/-- An integer. -/
def integer? : List Char → Option Number
  | '0' :: 'x' :: ds => (digits? (isDigitOf 16) ds).bind fun ds => bounded? (valueIn 16 ds)
  | '0' :: 'o' :: ds => (digits? (isDigitOf 8) ds).bind fun ds => bounded? (valueIn 8 ds)
  | '0' :: 'b' :: ds => (digits? (isDigitOf 2) ds).bind fun ds => bounded? (valueIn 2 ds)
  | cs => do
    let (negative, cs) := splitSign cs
    let n := valueIn 10 (← whole? cs)
    bounded? (if negative then -n else n)

/-- An exponent behind its letter. -/
def power? (cs : List Char) : Option Int := do
  let (negative, cs) := splitSign cs
  let n := valueIn 10 (← digits? Char.isDigit cs)
  some (if negative then -n else n)

/-- A number with a fraction or an exponent. -/
def real? (cs : List Char) : Option Number := do
  let (negative, cs) := splitSign cs
  if cs = "inf".toList ∨ cs = "nan".toList then some .unbounded
  else
    let mantissa := cs.takeWhile fun c => c ≠ 'e' && c ≠ 'E'
    let whole := mantissa.takeWhile (· ≠ '.')
    let e ← match cs.drop mantissa.length with
      | [] => some 0
      | _ :: cs => power? cs
    let f ← match mantissa.drop whole.length with
      | [] => some []
      | _ :: cs => digits? Char.isDigit cs
    let n := valueIn 10 ((← whole? whole) ++ f)
    some (.real (if negative then -n else n) (e - f.length))

/-- The number that a word writes. -/
def number? (cs : List Char) : Option Number :=
  (integer? cs).orElse fun _ => real? cs

/-- The value of exactly `count` digits at the start of a text, and what follows them. -/
def fixed? (count : Nat) (cs : List Char) : Option (Nat × List Char) :=
  let ds := cs.take count
  if ds.length = count ∧ ds.all Char.isDigit then some (valueIn 10 ds, cs.drop count) else none

/-- What follows a character that must begin a text. -/
def expect? (c : Char) : List Char → Option (List Char)
  | d :: rest => if d = c then some rest else none
  | [] => none

/-- How many days a month has. -/
def daysOf (year month : Nat) : Nat :=
  if month = 2 then
    if year % 4 = 0 ∧ (year % 100 ≠ 0 ∨ year % 400 = 0) then 29 else 28
  else if [4, 6, 9, 11].contains month then 30
  else 31

/-- What follows a date at the start of a text. -/
def date? (cs : List Char) : Option (List Char) := do
  let (year, cs) ← fixed? 4 cs
  let (month, cs) ← fixed? 2 (← expect? '-' cs)
  let (day, cs) ← fixed? 2 (← expect? '-' cs)
  if 1 ≤ month ∧ month ≤ 12 ∧ 1 ≤ day ∧ day ≤ daysOf year month then some cs else none

/-- What follows the fraction of a second, if there is one. -/
def subsecond? : List Char → Option (List Char)
  | '.' :: rest =>
    let ds := rest.takeWhile Char.isDigit
    if ds.isEmpty then none else some (rest.drop ds.length)
  | cs => some cs

/-- What follows a time at the start of a text. Seconds may be left out. -/
def time? (cs : List Char) : Option (List Char) := do
  let (hour, cs) ← fixed? 2 cs
  let (minute, cs) ← fixed? 2 (← expect? ':' cs)
  if 23 < hour ∨ 59 < minute then none
  else
    match cs with
    | ':' :: cs => do
      let (second, cs) ← fixed? 2 cs
      if 60 < second then none else subsecond? cs
    | cs => some cs

/-- Whether a text is a distance from the reference meridian. -/
def isOffset (cs : List Char) : Bool :=
  match cs with
  | [] | ['Z'] | ['z'] => true
  | sign :: rest =>
    (sign = '+' || sign = '-') &&
      match fixed? 2 rest with
      | some (hour, ':' :: rest) =>
        match fixed? 2 rest with
        | some (minute, []) => hour ≤ 23 && minute ≤ 59
        | _ => false
      | _ => false

/-- Whether a word is a date, a time or both. -/
def isMoment (cs : List Char) : Bool :=
  match date? cs with
  | some [] => true
  | some (mark :: rest) =>
    (mark = 'T' || mark = 't' || mark = ' ') &&
      match time? rest with
      | some rest => isOffset rest
      | none => false
  | none => time? cs = some []

/-- A date or time. -/
def moment (cs : List Char) : Value :=
  .object [(some "", .text (String.ofList cs))]

/-- The value that a word writes. -/
def scalar? (cs : List Char) : Option Value :=
  if cs = "true".toList then some (.bool true)
  else if cs = "false".toList then some (.bool false)
  else if isMoment cs then some (moment cs)
  else (number? cs).map .number

/-- Whether a character belongs to a word. -/
def isWordChar (c : Char) : Bool :=
  c.isAlphanum || c = '+' || c = '-' || c = '.' || c = ':' || c = '_'

/-- The word at the start of a text, and what follows it. A single blank may stand between a date
and a time. -/
def splitWord (cs : List Char) : List Char × List Char :=
  let word := cs.takeWhile isWordChar
  let rest := cs.drop word.length
  match rest with
  | ' ' :: d :: _ =>
    if d.isDigit ∧ date? word = some [] then
      let more := (rest.drop 1).takeWhile isWordChar
      (word ++ ' ' :: more, rest.drop (more.length + 1))
    else (word, rest)
  | _ => (word, rest)

end PayLink.Toml
