import PayLink.Text.Cut
import PayLink.Url.FilePath
import PayLink.Url.Host
/-!
# Reading links

The parts of a text are cut from both ends: the scheme from the front, the fragment and the query
from the back, and what is left is an authority and a path, or a path alone. Each part is then read
by its own rules. Blanks around the text and line breaks within it do not count.
-/

namespace PayLink.Url

open PayLink.Text

/-- Blanks and controls around a text. -/
def isEdge (c : Char) : Bool :=
  c.toNat ≤ 0x20

/-- Line breaks and tabs within a text. -/
def isBreak (c : Char) : Bool :=
  c = '\t' || c = '\n' || c = '\r'

/-- The text without what does not count. -/
def cleaned (cs : List Char) : List Char :=
  (((cs.dropWhile isEdge).reverse.dropWhile isEdge).reverse).filter fun c => !isBreak c

/-- The characters of a scheme after the first, which is a letter. -/
def isSchemeChar (c : Char) : Bool :=
  c.isAlphanum || c = '+' || c = '-' || c = '.'

/-- A scheme, as it is written. -/
def isScheme : List Char → Bool
  | [] => false
  | c :: cs => c.isAlpha && cs.all isSchemeChar

/-- The scheme of a text in lower case, and what follows its colon. -/
def splitScheme? (cs : List Char) : Option (List Char × List Char) :=
  match cut ':' cs with
  | (scheme, some rest) =>
    if isScheme scheme then some (scheme.map Char.toLower, rest) else none
  | (_, none) => none

/-- A text with its query and its fragment cut off. -/
structure Tail where
  /-- What stands before them. -/
  front : List Char
  /-- The query as it was given. -/
  query : Option (List Char)
  /-- The fragment as it was given. -/
  fragment : Option (List Char)
  deriving Repr

/-- Cuts off the fragment at the first number sign and the query at the first question mark before
it. -/
def Tail.of (cs : List Char) : Tail :=
  let (before, fragment) := cut '#' cs
  let (front, query) := cut '?' before
  ⟨front, query, fragment⟩

/-- Whether a query or fragment follows. -/
def Tail.hasMore (t : Tail) : Bool :=
  t.query.isSome || t.fragment.isSome

/-- User name and password, escaped. There is no colon before an empty password. -/
def userinfo (cs : List Char) : List Char :=
  let (name, password) := cut ':' cs
  let encode := Percent.encode Percent.inUserinfo
  match password with
  | none | some [] => encode name
  | some password => encode name ++ ':' :: encode password

/-- What stands before the last `@` of an authority, if there is one, and what stands after it. -/
def splitUserinfo (cs : List Char) : Option (List Char) × List Char :=
  let host := (cs.reverse.takeWhile (· ≠ '@')).reverse
  if cs.contains '@' then (some (cs.take (cs.length - host.length - 1)), host) else (none, cs)

/-- Where the host of an authority ends: at the first colon outside brackets. -/
def splitHost (inBrackets : Bool) : List Char → List Char × Option (List Char)
  | [] => ([], none)
  | c :: cs =>
    if c = ':' && !inBrackets then ([], some cs)
    else
      let (host, port) := splitHost (c = '[' || (inBrackets && c ≠ ']')) cs
      (c :: host, port)

/-- The port of a text, unless it is empty or left out under the scheme. The second part of the
result is what stands behind the digits; it can only begin with a backslash. -/
def readPort (scheme : List Char) (cs : List Char) : Except Flaw (Option Nat × List Char) :=
  let ds := cs.takeWhile Char.isDigit
  let rest := cs.drop ds.length
  let n := Nat.ofDigitChars 10 ds 0
  if 65535 < n then .error .port
  else
    match rest with
    | [] | '\\' :: _ =>
      .ok (if ds.isEmpty ∨ defaultPort? scheme = some n then none else some n, rest)
    | _ => .error .port

/-- The host and port after a user name. -/
def readHost (scheme : List Char) (user : List Char) (cs : List Char) :
    Except Flaw (Authority × List Char) := do
  let kind := SchemeKind.of scheme
  let (hostText, portText) := splitHost false cs
  if hostText.isEmpty ∧ kind.isSpecial then throw .emptyHost
  let host ← if kind.isSpecial then Host.special hostText else Host.ordinary hostText
  if host.isEmpty ∧ portText.isSome then throw .emptyHost
  let (port, rest) ← match portText with
    | none => pure (none, [])
    | some p => readPort scheme p
  if host.isEmpty ∧ !user.isEmpty then throw .emptyHost
  pure (⟨user, host, port⟩, rest)

/-- An authority, and text behind its port. `endsText` says that nothing follows it. -/
def readAuthority (scheme : List Char) (cs : List Char) (endsText : Bool) :
    Except Flaw (Authority × List Char) :=
  match splitUserinfo cs with
  | (none, rest) => readHost scheme [] rest
  | (some [], []) => if endsText then readHost scheme [] [] else .error .emptyHost
  | (some user, rest) => readHost scheme (userinfo user) rest

/-- The text of an authority ends where the path begins. -/
def splitAuthority (kind : SchemeKind) (cs : List Char) : List Char × List Char :=
  cs.span fun c => !(c = '/' || (kind.isSpecial && c = '\\'))

/-- The authority and path of the text after two slashes. -/
def readAfterSlashes (scheme : List Char) (cs : List Char) (hasMore : Bool) :
    Except Flaw (Authority × LinkPath) := do
  let kind := SchemeKind.of scheme
  let (authorityText, pathText) := splitAuthority kind cs
  let (authority, rest) ← readAuthority scheme authorityText (pathText.isEmpty && !hasMore)
  pure (authority, .rooted (Path.afterAuthority kind (rest ++ pathText)))

/-- Whether a character is a slash under a special scheme. -/
def isSlash (c : Char) : Bool :=
  c = '/' || c = '\\'

/-- The host of a link to a file: empty if it is the local one. -/
def readFileHost (cs : List Char) : Except Flaw (List Char) := do
  if cs.isEmpty then pure []
  else
    let host ← Host.special cs
    pure (if host = "localhost".toList then [] else host)

/-- The authority and path of a link to a file. -/
def readFile (cs : List Char) : Except Flaw (Authority × LinkPath) := do
  match cs with
  | a :: b :: rest =>
    if isSlash a && isSlash b then
      let hostText := FilePath.hostText rest
      let host ← readFileHost hostText
      let pathText := rest.drop hostText.length
      let path := FilePath.ofText
        (match pathText with
        | c :: cs => if isSlash c then cs else c :: cs
        | [] => [])
      pure (⟨[], if path.lostHost then [] else host, none⟩, .rooted path.segments)
    else pure (noAuthority cs)
  | cs => pure (noAuthority cs)
where
  /-- A link to a file without an authority. -/
  noAuthority (cs : List Char) : Authority × LinkPath :=
    (⟨[], [], none⟩, .rooted (FilePath.ofText
      (match cs with
      | c :: rest => if isSlash c then rest else cs
      | [] => [])).segments)

/-- The authority and path of what follows the scheme. -/
def readFront (scheme : List Char) (front : List Char) (hasMore : Bool) :
    Except Flaw (Option Authority × LinkPath) :=
  match SchemeKind.of scheme with
  | .file => (readFile front).map fun (a, p) => (some a, p)
  | .special =>
    (readAfterSlashes scheme (front.dropWhile isSlash) hasMore).map fun (a, p) => (some a, p)
  | .ordinary =>
    match front with
    | '/' :: '/' :: rest => (readAfterSlashes scheme rest hasMore).map fun (a, p) => (some a, p)
    | '/' :: rest => .ok (none, .rooted (Path.segments .ordinary rest))
    | front => .ok (none, .rootless (Percent.encode Percent.isControl front))

/-- The link of characters that all count. -/
def ofCleaned (cs : List Char) : Except Flaw Url :=
  match splitScheme? cs with
  | none => .error .relative
  | some (scheme, rest) =>
    let tail := Tail.of rest
    let inQuery :=
      if (SchemeKind.of scheme).isSpecial then Percent.inSpecialQuery else Percent.inQuery
    match readFront scheme tail.front tail.hasMore with
    | .error flaw => .error flaw
    | .ok (authority, path) =>
      .ok
        { scheme := scheme
          authority := authority
          path := path
          query := tail.query.map (Percent.encode inQuery)
          fragment := tail.fragment.map (Percent.encode Percent.inFragment) }

/-- Reads a link. -/
def parse (s : String) : Except Flaw Url :=
  ofCleaned (cleaned s.toList)

end PayLink.Url
