import PayLink.Text.Cut
import PayLink.Url.Percent
/-!
# Queries as pairs

A query holds pairs of a key and a value, joined by `&`, with `=` between key and value. A space is
a plus sign, and every byte that is not a letter, a digit or one of `*-._` is escaped, so no text
can reach beyond its own key or value.
-/

namespace PayLink.Url.Form

open PayLink.Text

/-- A key and its value. -/
abbrev Pair := List Char × List Char

/-- The characters that stand for themselves. -/
def isPlain (c : Char) : Bool :=
  c.isAlphanum || c = '*' || c = '-' || c = '.' || c = '_'

/-- One character of a key or value. -/
def encodeChar (c : Char) : List Char :=
  if isPlain c then [c] else if c = ' ' then ['+'] else Percent.escapeChar c

/-- A key or value. -/
def encode (cs : List Char) : List Char :=
  cs.flatMap encodeChar

/-- A pair. -/
def encodePair (p : Pair) : List Char :=
  encode p.1 ++ '=' :: encode p.2

/-- The query of pairs. -/
def write : List Pair → List Char
  | [] => []
  | [p] => encodePair p
  | p :: ps => encodePair p ++ '&' :: write ps

/-- What a key or value denotes. Bytes that are not UTF-8 become replacement characters. -/
def decode (cs : List Char) : List Char :=
  Utf8.decodeLenient (Percent.decode (cs.map fun c => if c = '+' then ' ' else c))

/-- The pair of a part of a query. -/
def decodePair (cs : List Char) : Pair :=
  let (key, value) := cut '=' cs
  (decode key, decode (value.getD []))

/-- The pairs of a query; empty parts hold none. -/
def read (cs : List Char) : List Pair :=
  ((cs.splitOn '&').filter fun part => !part.isEmpty).map decodePair

end PayLink.Url.Form
