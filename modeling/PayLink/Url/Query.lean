import PayLink.Url.Basic
import PayLink.Url.Form
/-!
# The pairs of a link

The query of a link seen as pairs, and the two ways to change it: to append pairs to it, which
leaves what is there as it is written, and to replace it by pairs.
-/

namespace PayLink.Url

/-- The pairs of a link's query. -/
def pairs (u : Url) : List Form.Pair :=
  Form.read (u.query.getD [])

/-- A query with further text behind it. -/
def extend : Option (List Char) → List Char → List Char
  | none, more => more
  | some old, more => if old.isEmpty then more else old ++ '&' :: more

/-- Appends pairs; a link to which none are appended keeps its query or its lack of one. -/
def appendPairs (u : Url) (ps : List Form.Pair) : Url :=
  if ps.isEmpty then u else { u with query := some (extend u.query (Form.write ps)) }

/-- Replaces the query by pairs; no pairs leave no query. -/
def withPairs (u : Url) (ps : List Form.Pair) : Url :=
  { u with query := if ps.isEmpty then none else some (Form.write ps) }

end PayLink.Url
