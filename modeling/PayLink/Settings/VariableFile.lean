import PayLink.Settings.Environment
import PayLink.Text.Letters
/-!
# Variables from a file

A file of lines that give values to variables which have none yet. Quotes may span lines, a value
may refer to variables, and reading stops at the first line that is not understood; what stands
before it still counts.
-/

namespace PayLink.VariableFile

open PayLink.Text

/-- Where the end of a line finds the reader of its quotes. -/
inductive Quoting
  /-- Outside quotes. -/
  | outside
  /-- Outside quotes, behind a blank. -/
  | blank
  /-- Behind a backslash, outside quotes. -/
  | escape
  /-- Between single quotes. -/
  | single
  /-- Behind a backslash, between single quotes. -/
  | singleEscape
  /-- Between double quotes. -/
  | double
  /-- Behind a backslash, between double quotes. -/
  | doubleEscape
  deriving DecidableEq, Repr

/-- What a character outside quotes leads to. -/
def opening : Char → Quoting
  | '\\' => .escape
  | '"' => .double
  | '\'' => .single
  | _ => .outside

/-- What a character leads to. -/
def Quoting.next (q : Quoting) (c : Char) : Quoting :=
  match q with
  | .blank => opening c
  | .outside => if isWhite c && c ≠ '\n' && c ≠ '\r' then .blank else opening c
  | .escape => .outside
  | .double => if c = '\\' then .doubleEscape else if c = '"' then .outside else .double
  | .doubleEscape => .double
  | .single => if c = '\\' then .singleEscape else if c = '\'' then .outside else .single
  | .singleEscape => .single

/-- Reads to the end of a line or to a comment: what stands before the comment, and the state at the
end, which is `none` at a comment. -/
def scan : Quoting → List Char → List Char × Option Quoting
  | q, [] => ([], some q)
  | q, c :: cs =>
    if q = .blank ∧ c = '#' then ([], none)
    else
      let (kept, last) := scan (q.next c) cs
      (c :: kept, last)

/-- The lines of a text, each with the line feed that ends it. -/
def rawLines : List Char → List (List Char)
  | [] => []
  | c :: cs =>
    if c = '\n' then [c] :: rawLines cs
    else
      match rawLines cs with
      | [] => [[c]]
      | l :: ls => (c :: l) :: ls

/-- A line without its line end. -/
def chomp (l : List Char) : List Char :=
  match l.reverse with
  | '\n' :: '\r' :: rest => rest.reverse
  | '\n' :: rest => rest.reverse
  | _ => l

/-- The lines of a text where quotes may span lines; `none` stands for quotes that are never closed.
`held` is what is left over from lines before. -/
def logicalLines (held : List Char) (q : Quoting) : List (List Char) → List (Option (List Char))
  | [] => if q = .outside then [] else [none]
  | l :: ls =>
    let all := held ++ l
    if (all.dropWhile isWhite).head? = some '#' then some [] :: logicalLines [] .outside ls
    else
      match scan q l with
      | (kept, none) => some (held ++ kept) :: logicalLines [] .outside ls
      | (_, some .outside) => some (chomp all) :: logicalLines [] .outside ls
      | (_, some q) => logicalLines all q ls

/-- What the reader of a value is in. -/
inductive Mode
  /-- Nothing in particular. -/
  | plain
  /-- The name behind a dollar sign. -/
  | name
  /-- The name between braces behind a dollar sign. -/
  | block
  deriving DecidableEq, Repr

/-- The reader of a value. -/
structure ValueReader where
  /-- Whether it is between single quotes. -/
  single : Bool := false
  /-- Whether it is between double quotes. -/
  double : Bool := false
  /-- Whether it is behind a backslash. -/
  escaped : Bool := false
  /-- Whether it is behind the end of the value. -/
  ended : Bool := false
  /-- Whether it is behind the mark of a comment. -/
  comment : Bool := false
  /-- Whether it is within a reference. -/
  mode : Mode := .plain
  /-- The name of the reference so far. -/
  name : List Char := []
  /-- The value so far. -/
  value : List Char := []
  deriving Repr

namespace ValueReader

/-- Puts the value of the reference that ends here in its place. -/
def substitute (r : ValueReader) (env : Environment) : ValueReader :=
  { r with value := r.value ++ (env.get? r.name).getD [], name := [], mode := .plain }

/-- Adds a character to the value. -/
def push (r : ValueReader) (c : Char) : ValueReader :=
  { r with value := r.value ++ [c] }

/-- A character within a reference. -/
def inReference (r : ValueReader) (env : Environment) (c : Char) : ValueReader :=
  if isLetterOrDigit c then { r with name := r.name ++ [c] }
  else if r.mode = .block then
    if c = '}' then r.substitute env else { r with name := r.name ++ [c] }
  else if c = '{' ∧ r.name.isEmpty then { r with mode := .block }
  else if c = '$' then { r.substitute env with mode := .name }
  else (r.substitute env).push c

/-- A character that is outside quotes and references. -/
def outside (r : ValueReader) (c : Char) : ValueReader :=
  match c with
  | '\'' => { r with single := true }
  | '"' => { r with double := true }
  | '\\' => { r with escaped := true }
  | ' ' | '\t' => { r with ended := true }
  | c => r.push c

/-- One character of a value; `none` if it cannot stand where it does. -/
def read? (env : Environment) (r : ValueReader) (c : Char) : Option ValueReader :=
  if r.comment then some r
  else if r.ended then
    if c = ' ' ∨ c = '\t' then some r
    else if c = '#' then some { r with comment := true }
    else none
  else if r.escaped then
    match c with
    | '\\' | '\'' | '"' | '$' | ' ' => some { r.push c with escaped := false }
    | 'n' => some { r.push '\n' with escaped := false }
    | _ => none
  else if r.single then some (if c = '\'' then { r with single := false } else r.push c)
  else if r.mode ≠ .plain then some (r.inReference env c)
  else if c = '$' then some { r with mode := .name }
  else if r.double then
    some (if c = '"' then { r with double := false }
      else if c = '\\' then { r with escaped := true }
      else r.push c)
  else some (r.outside c)

/-- The value at the end; `none` if a quote or a brace is still open. -/
def finish? (r : ValueReader) (env : Environment) : Option (List Char) :=
  if r.mode = .block ∨ r.single ∨ r.double then none else some (r.substitute env).value

end ValueReader

/-- The value of a text. -/
def value? (env : Environment) (cs : List Char) : Option (List Char) := do
  let r ← cs.foldlM (ValueReader.read? env) {}
  r.finish? env

/-- The name at the start of a text, and what follows it. -/
def name? (cs : List Char) : Option (List Char × List Char) :=
  match cs with
  | [] => none
  | c :: _ =>
    if c.isAlpha ∨ c = '_' then
      some (cs.span fun c => c.isAlphanum || c = '_' || c = '.')
    else none

/-- What follows an equals sign. -/
def afterEquals? : List Char → Option (List Char)
  | '=' :: rest => some rest
  | _ => none

/-- The name of a line and what follows its equals sign. A word may stand before the name that marks
it as a variable. -/
def assignment? (cs : List Char) : Option (List Char × List Char) := do
  let (name, rest) ← name? cs
  let rest := rest.dropWhile isWhite
  match afterEquals? rest with
  | some rest => some (name, rest)
  | none =>
    if name = "export".toList then do
      let (name, rest) ← name? rest
      let rest ← afterEquals? (rest.dropWhile isWhite)
      some (name, rest)
    else none

/-- What the lines of a file make of an environment, up to the first line that is not understood. -/
def loadLines (env : Environment) : List (Option (List Char)) → Environment
  | [] => env
  | none :: _ => env
  | some l :: ls =>
    let text := ((l.dropWhile isWhite).reverse.dropWhile isWhite).reverse
    if text.isEmpty ∨ text.head? = some '#' then loadLines env ls
    else
      match assignment? text with
      | none => env
      | some (name, rest) =>
        let rest := rest.dropWhile isWhite
        if rest.isEmpty ∨ rest.head? = some '#' then loadLines (env.setIfMissing name []) ls
        else
          match value? env rest with
          | none => env
          | some v => loadLines (env.setIfMissing name v) ls

/-- Adds the variables of a file to an environment. -/
def load (env : Environment) (text : String) : Environment :=
  let cs := match text.toList with
    | '\uFEFF' :: cs => cs
    | cs => cs
  loadLines env (logicalLines [] .outside (rawLines cs))

end PayLink.VariableFile
