import PayLink.Url.Path
/-!
# Links to files

Under the scheme of files, a first segment of a letter and a colon (or a bar) is a drive. A link to
a drive has no host, and neither has one to the local host.
-/

namespace PayLink.Url.FilePath

/-- A letter with a colon or a bar behind it. -/
def isDrive : List Char → Bool
  | [a, b] => a.isAlpha && (b = ':' || b = '|')
  | _ => false

/-- The segments of a file's path so far, and whether its link has lost its host. -/
structure State where
  /-- The segments. -/
  segments : List (List Char)
  /-- Whether a drive has taken the place of the host. -/
  lostHost : Bool
  deriving Repr

/-- One segment after those that are done. A drive at the start is written with a colon, and ends a
segment even if more follows. -/
def step (st : State) (s : List Char) (isLast : Bool) : State :=
  if st.segments.isEmpty then
    match s with
    | [a, b] =>
      if isDrive [a, b] then ⟨[[a, ':']], true⟩
      else ⟨Path.step [] s isLast, st.lostHost⟩
    | a :: ':' :: rest =>
      if a.isAlpha then ⟨Path.step [[a, ':']] rest isLast, st.lostHost⟩
      else ⟨Path.step [] s isLast, st.lostHost⟩
    | s => ⟨Path.step [] s isLast, st.lostHost⟩
  else ⟨Path.step st.segments s isLast, st.lostHost⟩

/-- The state after raw segments. -/
def resolve (st : State) : List (List Char) → State
  | [] => st
  | s :: rest => resolve (step st s rest.isEmpty) rest

/-- Segments without the empty ones at the start; one always stays. -/
def trim (segments : List (List Char)) : List (List Char) :=
  match segments.dropWhile List.isEmpty with
  | [] => [[]]
  | ss => ss

/-- The path of the text after its first slash. -/
def ofText (cs : List Char) : State :=
  let st := resolve ⟨[], false⟩ ((Path.split .file cs).map (Percent.encode Percent.inPath))
  ⟨trim st.segments, st.lostHost⟩

/-- Whether the text after two slashes begins with a host and not with a drive. -/
def hostText (cs : List Char) : List Char :=
  let host := cs.takeWhile fun c => c ≠ '/' && c ≠ '\\'
  if isDrive host then [] else host

end PayLink.Url.FilePath
