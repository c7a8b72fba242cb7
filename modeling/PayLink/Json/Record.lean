import PayLink.Json.Value
/-!
# Records in JSON

How a type with named fields is read from a value: from an object, whose members may stand in any
order and may include unknown ones, or from an array with the fields in their order. A field that
occurs twice is refused. The reader of a type first cuts the value into its known fields and then
reads each of them.
-/

namespace PayLink.Json

/-- The known fields that a value has, by name. -/
abbrev Record := List (String × Value)

namespace Record

/-- The members whose names are known; `none` if a name denotes no text. -/
def known? (names : List String) : List (Option String × Value) → Option Record
  | [] => some []
  | (none, _) :: _ => none
  | (some k, v) :: ms =>
    (known? names ms).map fun r => if names.contains k then (k, v) :: r else r

/-- Whether no name occurs twice. -/
def distinct : Record → Bool
  | [] => true
  | (k, _) :: r => !(r.any fun m => m.1 = k) && distinct r

/-- The fields of a value with the given names. -/
def ofValue? (names : List String) : Value → Option Record
  | .object ms => do
    let r ← known? names ms
    if distinct r then some r else none
  | .array vs => if vs.length ≤ names.length then some (names.zip vs) else none
  | _ => none

/-- A field that must be there. -/
def required {α : Type} (r : Record) (name : String) (f : Value → Option α) : Option α := do
  f (← r.lookup name)

/-- A field that has a default. -/
def optional {α : Type} (r : Record) (name : String) (default : α) (f : Value → Option α) :
    Option α :=
  match r.lookup name with
  | none => some default
  | some v => f v

/-- A field that may be missing or null. -/
def maybe {α : Type} (r : Record) (name : String) (f : Value → Option α) : Option (Option α) :=
  r.optional name none (Value.nullable? f)

end Record

/-- A field that is written only if it is set. -/
def memberIfSet {α : Type} (name : String) (f : α → Value) : Option α → List (String × Value)
  | none => []
  | some a => [(name, f a)]

end PayLink.Json
