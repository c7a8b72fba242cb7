/-!
# Blanks, comments and line ends of settings files

A line ends with a line feed, which a carriage return may precede, and may end with a comment. No
control character other than the tab may stand anywhere.
-/

namespace PayLink.Toml

/-- The characters between tokens of a line. -/
def isBlank (c : Char) : Bool :=
  c = ' ' || c = '\t'

/-- The characters that may stand nowhere. -/
def isControl (c : Char) : Bool :=
  (c.toNat < 0x20 && c ≠ '\t') || c.toNat = 0x7F

/-- What is left after the blanks. -/
def skipBlanks (cs : List Char) : List Char :=
  cs.dropWhile isBlank

/-- What is left after a line end. -/
def newline? : List Char → Option (List Char)
  | '\n' :: rest => some rest
  | '\r' :: '\n' :: rest => some rest
  | _ => none

/-- What is left after a comment, from its number sign to the end of the line. -/
def skipComment? : List Char → Option (List Char)
  | '\r' :: '\n' :: rest => some ('\r' :: '\n' :: rest)
  | '\n' :: rest => some ('\n' :: rest)
  | c :: rest => if isControl c then none else skipComment? rest
  | [] => some []

/-- What is left after blanks, a comment and the end of the line or of the text. -/
def lineEnd? (cs : List Char) : Option (List Char) := do
  let rest ← match skipBlanks cs with
    | '#' :: rest => skipComment? rest
    | rest => some rest
  if rest.isEmpty then some [] else newline? rest

/-- What is left after any number of blanks, comments and line ends. The first argument bounds the
number of lines. -/
def skipLines? : Nat → List Char → Option (List Char)
  | 0, _ => none
  | n + 1, cs =>
    match skipBlanks cs with
    | '#' :: rest => do skipLines? n (← skipComment? rest)
    | rest =>
      match newline? rest with
      | some rest => skipLines? n rest
      | none => some rest

/-- What is left after all blanks, comments and line ends. -/
def skipSpace? (cs : List Char) : Option (List Char) :=
  skipLines? (cs.length + 1) cs

end PayLink.Toml
