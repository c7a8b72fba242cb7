import PayLink.Toml.Scalar
import PayLink.Toml.Table
import PayLink.Toml.Text
/-!
# Reading settings files

A file is a list of lines. A line gives a value to a key within the table of the last header, or is
a header itself. The result is one value, an object.
-/

namespace PayLink.Toml

open PayLink.Json

/-- A character of a key without quotes. -/
def isKeyChar (c : Char) : Bool :=
  c.isAlphanum || c = '_' || c = '-'

/-- One part of a key. -/
def keyPart? (cs : List Char) : Option (String × List Char) :=
  match cs with
  | '"' :: rest => (basic? (rest.length + 1) rest).map fun (k, rest) => (String.ofList k, rest)
  | '\'' :: rest => (literal? rest).map fun (k, rest) => (String.ofList k, rest)
  | cs =>
    let k := cs.takeWhile isKeyChar
    if k.isEmpty then none else some (String.ofList k, cs.drop k.length)

/-- The parts of a key, with points between them. The first argument bounds their number. -/
def key? : Nat → List Char → Option (List String × List Char)
  | 0, _ => none
  | n + 1, cs => do
    let (k, rest) ← keyPart? (skipBlanks cs)
    match skipBlanks rest with
    | '.' :: rest =>
      let (ks, rest) ← key? n rest
      some (k :: ks, rest)
    | rest => some ([k], rest)

mutual

/-- A value. `levels` bounds how deep it may be nested, and the second argument the number of
steps. -/
def value? (levels : Nat) : Nat → List Char → Option (Value × List Char)
  | 0, _ => none
  | n + 1, cs =>
    match cs with
    | '[' :: rest =>
      if levels = 0 then none
      else (items? (levels - 1) n rest).map fun (vs, rest) => (.array vs, rest)
    | '{' :: rest =>
      if levels = 0 then none
      else
        (pairs? (levels - 1) n [] rest).map fun (ms, rest) => (.object (membersToValue ms), rest)
    | '"' :: _ | '\'' :: _ => (string? cs).map fun (s, rest) => (.text (String.ofList s), rest)
    | cs =>
      let (word, rest) := splitWord cs
      (scalar? word).map fun v => (v, rest)

/-- The items of an array up to its closing bracket. -/
def items? (levels : Nat) : Nat → List Char → Option (List Value × List Char)
  | 0, _ => none
  | n + 1, cs => do
    match ← skipSpace? cs with
    | ']' :: rest => some ([], rest)
    | cs =>
      let (v, rest) ← value? levels n cs
      match ← skipSpace? rest with
      | ',' :: rest =>
        let (vs, rest) ← items? levels n rest
        some (v :: vs, rest)
      | ']' :: rest => some ([v], rest)
      | _ => none

/-- The members of a table between braces up to the closing one, added to those before. -/
def pairs? (levels : Nat) : Nat → Members → List Char → Option (Members × List Char)
  | 0, _, _ => none
  | n + 1, ms, cs => do
    match ← skipSpace? cs with
    | '}' :: rest => some (ms, rest)
    | cs =>
      let (k, rest) ← key? (cs.length + 1) cs
      let rest ← expect? '=' rest
      let (v, rest) ← value? levels n (skipBlanks rest)
      let ms ← ms.define v k
      match ← skipSpace? rest with
      | ',' :: rest => pairs? levels n ms rest
      | '}' :: rest => some (ms, rest)
      | _ => none

end

/-- How deep values may be nested. -/
def maxLevels : Nat := 80

/-- What has been read of a file: the root table, and the header of the current table. -/
structure Progress where
  /-- The root table. -/
  root : Members
  /-- The header of the table that lines add to; empty for the root. -/
  header : List String

/-- One line that is not blank, and what follows it. -/
def line? (p : Progress) (cs : List Char) : Option (Progress × List Char) := do
  match cs with
  | '[' :: '[' :: rest =>
    let (k, rest) ← key? (rest.length + 1) rest
    let rest ← expect? ']' (← expect? ']' rest)
    let root ← p.root.change Members.openRow k
    some (⟨root, k⟩, ← lineEnd? rest)
  | '[' :: rest =>
    let (k, rest) ← key? (rest.length + 1) rest
    let rest ← expect? ']' rest
    let root ← p.root.change Members.openTable k
    some (⟨root, k⟩, ← lineEnd? rest)
  | cs =>
    let (k, rest) ← key? (cs.length + 1) cs
    let rest ← expect? '=' rest
    let (v, rest) ← value? maxLevels (2 * rest.length + 2) (skipBlanks rest)
    let root ← p.root.defineWithin p.header k v
    some (⟨root, p.header⟩, ← lineEnd? rest)

/-- The lines of a file. The first argument bounds their number. -/
def lines? : Nat → Progress → List Char → Option Members
  | 0, _, _ => none
  | n + 1, p, cs => do
    match ← skipSpace? cs with
    | [] => some p.root
    | cs =>
      let (p, rest) ← line? p cs
      lines? n p rest

/-- A text without the mark of its byte order. -/
def withoutMark : List Char → List Char
  | '\uFEFF' :: rest => rest
  | cs => cs

/-- The value of a settings file. -/
def read? (cs : List Char) : Option Value :=
  let cs := withoutMark cs
  (lines? (cs.length + 1) ⟨[], []⟩ cs).map fun ms => .object (membersToValue ms)

end PayLink.Toml
