import PayLink.Text.Numerals
/-!
# Sets of code points as runs

Unicode properties hold on long runs of code points. A set is kept as the increasing list of the
code points at which membership changes, and written as a text of base-36 distances between them. A
property with several values is kept as the runs on which it has one.
-/

namespace PayLink.Text

/-- A set of code points, given by the places where membership changes: the first edge enters the
set, the second leaves it, and so on. -/
structure Runs where
  /-- The places where membership changes, increasing. -/
  edges : Array Nat

namespace Runs

/-- Running sums: the places that distances lead to. -/
def places (distances : Array Nat) : Array Nat :=
  (distances.foldl
    (fun (acc : Array Nat × Nat) d => (acc.1.push (acc.2 + d), acc.2 + d)) (#[], 0)).1

/-- Reads a set from the distances between its edges, written on several lines. -/
def ofLines (lines : List String) : Runs :=
  ⟨places (Numerals.ofLines lines)⟩

/-- A code point is in the set if an odd number of edges lie at or before it. -/
def contains (r : Runs) (n : Nat) : Bool :=
  r.edges.foldl (fun inside e => if e ≤ n then !inside else inside) false

end Runs

/-- A run of code points that share a value. -/
structure ValuedRun where
  /-- The first code point. -/
  first : Nat
  /-- How many there are. -/
  count : Nat
  /-- Their value. -/
  value : Nat
  deriving Repr

/-- The runs on which a property has another value than zero. -/
structure ValuedRuns where
  /-- The runs, in order. -/
  runs : List ValuedRun

namespace ValuedRuns

/-- Reads runs from numbers, three for each: the distance from the start of the run before, the
count and the value. -/
def ofNumbers (place : Nat) : List Nat → List ValuedRun
  | gap :: count :: value :: rest => ⟨place + gap, count, value⟩ :: ofNumbers (place + gap) rest
  | _ => []

/-- Reads runs from the text of their numbers, written on several lines. -/
def ofLines (lines : List String) : ValuedRuns :=
  ⟨ofNumbers 0 (Numerals.ofLines lines).toList⟩

/-- The value at a code point. -/
def value (r : ValuedRuns) (n : Nat) : Nat :=
  ((r.runs.find? fun run => run.first ≤ n ∧ n < run.first + run.count).map ValuedRun.value).getD 0

end ValuedRuns

end PayLink.Text
