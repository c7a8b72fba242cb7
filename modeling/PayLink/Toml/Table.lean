import PayLink.Json.Value
/-!
# Tables of settings files

A table is filled in pieces: by headers, by keys with several parts, and by values. What was
written in one way may be added to only in the ways that keep each table defined once. A table
remembers how it came about.
-/

namespace PayLink.Toml

open PayLink.Json

/-- How a table came about. -/
inductive Origin
  /-- By its own header. -/
  | header
  /-- On the way to another header. -/
  | passing
  /-- By a key with several parts. -/
  | dotted
  deriving DecidableEq, Repr

/-- What a key stands for. -/
inductive Node
  /-- A value, which is complete. -/
  | value (v : Value)
  /-- A table. -/
  | table (origin : Origin) (members : List (String × Node))
  /-- A list of tables, each begun by a header of its own; the last one comes first. -/
  | rows (last : List (String × Node)) (earlier : List (List (String × Node)))

/-- Keys with what they stand for. -/
abbrev Members := List (String × Node)

namespace Members

/-- What a key stands for. -/
def find? (k : String) (ms : Members) : Option Node :=
  ms.lookup k

/-- The members with another node for a key that is there. -/
def replace (k : String) (node : Node) (ms : Members) : Members :=
  ms.map fun m => if m.1 = k then (k, node) else m

/-- Gives a value to a key with the given parts. Only tables that came about on the way or by such a
key may be passed, and only one of the latter may be added to. -/
def define (v : Value) : List String → Members → Option Members
  | [], _ => none
  | [k], ms =>
    match find? k ms with
    | none => some (ms ++ [(k, .value v)])
    | some _ => none
  | k :: ks, ms =>
    match find? k ms with
    | none => (define v ks []).map fun sub => ms ++ [(k, .table .dotted sub)]
    | some (.table origin sub) =>
      if origin = .header ∨ (ks.length = 1 ∧ origin ≠ .dotted) then none
      else (define v ks sub).map fun sub => replace k (.table origin sub) ms
    | some _ => none

/-- Changes what stands at the last key of a path; tables on the way are made if they are missing,
and of a list of tables the last one is meant. -/
def change (f : Option Node → Option Node) : List String → Members → Option Members
  | [], _ => none
  | [k], ms =>
    match find? k ms with
    | none => (f none).map fun node => ms ++ [(k, node)]
    | some node => (f (some node)).map fun node => replace k node ms
  | k :: ks, ms =>
    match find? k ms with
    | none => (change f ks []).map fun sub => ms ++ [(k, .table .passing sub)]
    | some (.table origin sub) =>
      (change f ks sub).map fun sub => replace k (.table origin sub) ms
    | some (.rows last earlier) =>
      (change f ks last).map fun last => replace k (.rows last earlier) ms
    | some (.value _) => none

/-- What the header of a table makes of a node. -/
def openTable : Option Node → Option Node
  | none => some (.table .header [])
  | some (.table .passing ms) => some (.table .header ms)
  | some _ => none

/-- What the header of a list of tables makes of a node. -/
def openRow : Option Node → Option Node
  | none => some (.rows [] [])
  | some (.rows last earlier) => some (.rows [] (last :: earlier))
  | some _ => none

/-- Gives a value to a key within the table that a header opened. -/
def defineWithin (header key : List String) (v : Value) (ms : Members) : Option Members :=
  if header.isEmpty then define v key ms
  else
    change
      (fun node =>
        match node with
        | some (.table origin sub) => (define v key sub).map (.table origin)
        | some (.rows last earlier) => (define v key last).map fun last => .rows last earlier
        | _ => none)
      header ms

end Members

mutual

/-- The value of a node. -/
def Node.toValue : Node → Value
  | .value v => v
  | .table _ ms => .object (membersToValue ms)
  | .rows last earlier => .array (rowsToValue earlier [.object (membersToValue last)])

/-- The members of tables as values. -/
def membersToValue : List (String × Node) → List (Option String × Value)
  | [] => []
  | (k, node) :: ms => (some k, node.toValue) :: membersToValue ms

/-- Earlier tables of a list, the last one first, before values that follow them. -/
def rowsToValue : List (List (String × Node)) → List Value → List Value
  | [], vs => vs
  | ms :: earlier, vs => rowsToValue earlier (.object (membersToValue ms) :: vs)

end

end PayLink.Toml
