import PayLink.Url.Basic
/-!
# Paths

How the segments of a path are read. A segment of one dot stands for nothing and one of two dots
takes back the segment before it, but never a segment that looks like the letter of a drive. Both
leave an empty segment where the path ends with them.
-/

namespace PayLink.Url.Path

/-- A segment of one dot, which may be escaped. -/
def isSingleDot (s : List Char) : Bool :=
  ["." , "%2e"].contains (String.ofList (s.map Char.toLower))

/-- A segment of two dots, each of which may be escaped. -/
def isDoubleDot (s : List Char) : Bool :=
  ["..", ".%2e", "%2e.", "%2e%2e"].contains (String.ofList (s.map Char.toLower))

/-- A segment that begins like the letter of a drive. -/
def isDriveLike : List Char → Bool
  | [a, b] => a.isAlpha && (b = ':' || b = '|')
  | a :: b :: c :: _ => a.isAlpha && (b = ':' || b = '|') && c = '\\'
  | _ => false

/-- The segments without the last one, which stays if it looks like the letter of a drive. -/
def dropLast (done : List (List Char)) : List (List Char) :=
  match done.getLast? with
  | none => []
  | some s => if isDriveLike s then done else done.dropLast

/-- One segment after those that are done. -/
def step (done : List (List Char)) (s : List Char) (isLast : Bool) : List (List Char) :=
  let ending : List (List Char) := if isLast then [[]] else []
  if isDoubleDot s then dropLast done ++ ending
  else if isSingleDot s then done ++ ending
  else done ++ [s]

/-- The segments of a path from its raw segments, in order. -/
def resolve (done : List (List Char)) : List (List Char) → List (List Char)
  | [] => done
  | s :: rest => resolve (step done s rest.isEmpty) rest

/-- The raw segments of a path. -/
def split (kind : SchemeKind) (cs : List Char) : List (List Char) :=
  cs.splitOnP fun c => c = '/' || (kind.isSpecial && c = '\\')

/-- The segments of the text after the first slash of a path. -/
def segments (kind : SchemeKind) (cs : List Char) : List (List Char) :=
  resolve [] ((split kind cs).map (Percent.encode Percent.inPath))

/-- The segments of the text after an authority. Under a special scheme there is always one. -/
def afterAuthority (kind : SchemeKind) : List Char → List (List Char)
  | [] => if kind.isSpecial then [[]] else []
  | c :: cs =>
    if c = '/' || (kind.isSpecial && c = '\\') then segments kind cs else segments kind (c :: cs)

end PayLink.Url.Path
