import PayLink.Url.Percent
/-!
# Links

The parts of a link. A scheme is *special* if links under it lead to a host: their paths are always
rooted, and a backslash is as good as a slash. Other links may have a path that no slash begins,
which is then a plain text. Every part is kept as it is written, so the text of a link is its parts
with their separators.
-/

namespace PayLink

/-- What a scheme says about the links under it. -/
inductive SchemeKind
  /-- Nothing. -/
  | ordinary
  /-- They lead to a host. -/
  | special
  /-- They name files, and follow rules of their own. -/
  | file
  deriving DecidableEq, Repr

/-- The kind of a scheme, in lower case. -/
def SchemeKind.of (scheme : List Char) : SchemeKind :=
  if scheme = "file".toList then .file
  else if ["http", "https", "ws", "wss", "ftp"].contains (String.ofList scheme) then .special
  else .ordinary

/-- Whether a backslash separates like a slash. -/
def SchemeKind.isSpecial (k : SchemeKind) : Bool :=
  k != .ordinary

/-- The port that is left out in links under a scheme. -/
def defaultPort? (scheme : List Char) : Option Nat :=
  match String.ofList scheme with
  | "http" | "ws" => some 80
  | "https" | "wss" => some 443
  | "ftp" => some 21
  | _ => none

/-- Who and where: the part of a link between two slashes and its path. -/
structure Authority where
  /-- User name and password as they are written; empty if there are none. -/
  userinfo : List Char
  /-- The host as it is written; empty if there is none. -/
  host : List Char
  /-- The port, unless it is left out. -/
  port : Option Nat
  deriving DecidableEq, Repr

/-- The path of a link. -/
inductive LinkPath
  /-- A path that no slash begins. -/
  | rootless (text : List Char)
  /-- Segments with a slash before each. -/
  | rooted (segments : List (List Char))
  deriving DecidableEq, Repr

/-- A link. -/
structure Url where
  /-- The scheme, in lower case. -/
  scheme : List Char
  /-- Who and where. -/
  authority : Option Authority
  /-- The path. -/
  path : LinkPath
  /-- The query, after a question mark. -/
  query : Option (List Char)
  /-- The fragment, after a number sign. -/
  fragment : Option (List Char)
  deriving DecidableEq, Repr

namespace Url

/-- Why a text is no link. -/
inductive Flaw
  /-- There is no host where one must be. -/
  | emptyHost
  /-- The host is no domain name. -/
  | domainName
  /-- The port is no number below 65536. -/
  | port
  /-- The host ends like an IPv4 address and is none. -/
  | ipv4
  /-- The host is bracketed like an IPv6 address and is none. -/
  | ipv6
  /-- The host has a character that no host can have. -/
  | domainCharacter
  /-- There is no scheme. -/
  | relative
  deriving DecidableEq, Repr

/-- The wording of a flaw. -/
def Flaw.message : Flaw → String
  | .emptyHost => "empty host"
  | .domainName => "invalid international domain name"
  | .port => "invalid port number"
  | .ipv4 => "invalid IPv4 address"
  | .ipv6 => "invalid IPv6 address"
  | .domainCharacter => "invalid domain character"
  | .relative => "relative URL without a base"

end Url

/-- The text of a path. -/
def LinkPath.text : LinkPath → List Char
  | .rootless t => t
  | .rooted segments => segments.flatMap fun s => '/' :: s

/-- The text of an authority. -/
def Authority.text (a : Authority) : List Char :=
  (if a.userinfo.isEmpty then [] else a.userinfo ++ ['@'])
    ++ a.host
    ++ (match a.port with
      | none => []
      | some p => ':' :: Nat.toDigits 10 p)

namespace Url

/-- Whether a link names a host. -/
def hasHost (u : Url) : Bool :=
  match u.authority with
  | none => false
  | some a => !a.host.isEmpty

/-- What stands between the colon of the scheme and the path. A path with an empty first segment
would read as an authority if nothing stood before it. -/
def lead (u : Url) : List Char :=
  match u.authority with
  | some a => '/' :: '/' :: a.text
  | none => if ['/', '/'].isPrefixOf u.path.text then ['/', '.'] else []

/-- A part that is written after a mark if it is there. -/
def marked (mark : Char) : Option (List Char) → List Char
  | none => []
  | some t => mark :: t

/-- The characters of a link. -/
def chars (u : Url) : List Char :=
  u.scheme ++ ':' :: u.lead ++ u.path.text ++ marked '?' u.query ++ marked '#' u.fragment

/-- The text of a link. -/
def text (u : Url) : String :=
  String.ofList u.chars

end Url

end PayLink
