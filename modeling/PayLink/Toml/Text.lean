import PayLink.Text.Hex
import PayLink.Toml.Lexical
/-!
# Strings of settings files

Strings between double quotes have escapes, strings between single quotes have none. Three quotes
begin a string that may span lines; a line end right behind them does not belong to it, and up to
two quotes may stand before the three that end it.
-/

namespace PayLink.Toml

open PayLink.Text

/-- The number that hexadecimal digits write. -/
def hexValue? (ds : List Char) : Option Nat :=
  ds.foldlM (fun n d => (Hex.digit? d).map (n * 16 + ·)) 0

/-- The character that hexadecimal digits write, if it is one. -/
def hexChar? (ds : List Char) : Option Char := do
  let n ← hexValue? ds
  if n.isValidChar then some (Char.ofNat n) else none

/-- The character of an escape with a single letter. -/
def letterEscape? : Char → Option Char
  | 'b' => some '\x08'
  | 't' => some '\t'
  | 'n' => some '\n'
  | 'f' => some '\x0c'
  | 'r' => some '\r'
  | 'e' => some '\x1b'
  | '"' => some '"'
  | '\\' => some '\\'
  | _ => none

/-- The character of an escape after its backslash, and what follows it. -/
def escape? : List Char → Option (Char × List Char)
  | 'x' :: rest => (hexChar? (rest.take 2)).bind (sized 2 rest)
  | 'u' :: rest => (hexChar? (rest.take 4)).bind (sized 4 rest)
  | 'U' :: rest => (hexChar? (rest.take 8)).bind (sized 8 rest)
  | e :: rest => (letterEscape? e).map fun c => (c, rest)
  | [] => none
where
  /-- The character with what follows `n` digits, if there are so many. -/
  sized (n : Nat) (rest : List Char) (c : Char) : Option (Char × List Char) :=
    if n ≤ rest.length then some (c, rest.drop n) else none

/-- The characters of a string on one line, up to its closing double quote. The first argument
bounds the number of steps. -/
def basic? : Nat → List Char → Option (List Char × List Char)
  | 0, _ => none
  | _ + 1, '"' :: rest => some ([], rest)
  | n + 1, '\\' :: rest => do
    let (c, rest) ← escape? rest
    let (cs, rest) ← basic? n rest
    some (c :: cs, rest)
  | n + 1, c :: rest =>
    if isControl c then none
    else do
      let (cs, rest) ← basic? n rest
      some (c :: cs, rest)
  | _ + 1, [] => none

/-- The characters of a string on one line, up to its closing single quote. -/
def literal? : List Char → Option (List Char × List Char)
  | '\'' :: rest => some ([], rest)
  | c :: rest =>
    if isControl c then none
    else (literal? rest).map fun (cs, rest) => (c :: cs, rest)
  | [] => none

/-- The quotes that belong to a string of several lines and what follows its end, if the text begins
with the end. -/
def closing? (quote : Char) (cs : List Char) : Option (List Char × List Char) :=
  let run := cs.takeWhile (· = quote)
  if run.length < 3 then none
  else
    let extra := min (run.length - 3) 2
    some (List.replicate extra quote, cs.drop (extra + 3))

/-- What follows a backslash at the end of a line: the next character that is no blank and no line
end. -/
def continuation? (cs : List Char) : Option (List Char) := do
  let rest ← newline? (skipBlanks cs)
  some (rest.dropWhile fun c => isBlank c || c = '\n' || c = '\r')

/-- The characters of a string of several lines, up to its end. -/
def multiline? (quote : Char) (escapes : Bool) : Nat → List Char → Option (List Char × List Char)
  | 0, _ => none
  | _ + 1, [] => none
  | n + 1, c :: rest =>
    match closing? quote (c :: rest) with
    | some done => some done
    | none =>
      if c = '\\' ∧ escapes then
        match continuation? rest with
        | some rest => multiline? quote escapes n rest
        | none => do
          let (e, rest) ← escape? rest
          let (cs, rest) ← multiline? quote escapes n rest
          some (e :: cs, rest)
      else if isControl c ∧ (newline? (c :: rest)).isNone then none
      else do
        let (cs, rest) ← multiline? quote escapes n rest
        some (c :: cs, rest)

/-- The string of several lines after its three opening quotes. -/
def block? (quote : Char) (escapes : Bool) (cs : List Char) : Option (List Char × List Char) :=
  let body := (newline? cs).getD cs
  multiline? quote escapes (body.length + 1) body

/-- A string that the text begins with, of any kind. -/
def string? : List Char → Option (List Char × List Char)
  | '"' :: '"' :: '"' :: rest => block? '"' true rest
  | '"' :: rest => basic? (rest.length + 1) rest
  | '\'' :: '\'' :: '\'' :: rest => block? '\'' false rest
  | '\'' :: rest => literal? rest
  | _ => none

end PayLink.Toml
