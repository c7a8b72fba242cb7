import PayLink.Link.Basic
/-!
# Links of transactions

A transaction is written as the link of its endpoint with the annotations appended. The endpoint is
a web link, or a link under the payment scheme, or a text that is placed under that scheme. Reading
takes the annotations out again and leaves the other parameters.
-/

namespace PayLink.Link.Transaction

open Url (Form.Pair)

/-- The text without the first slash that stands before a question mark. -/
def dropSlashBeforeQuery : List Char → List Char
  | '/' :: '?' :: rest => '?' :: rest
  | c :: rest => c :: dropSlashBeforeQuery rest
  | [] => []

/-- The text without a slash at its end. -/
def dropLastSlash (cs : List Char) : List Char :=
  if cs.getLast? = some '/' then cs.dropLast else cs

/-- The text of an endpoint without a slash before its query and at its end. -/
def trimmed (link : String) : String :=
  String.ofList (dropLastSlash (dropSlashBeforeQuery link.toList))

/-- A text placed under the payment scheme. -/
def underScheme (config : PayConfig) (link : String) : Except PayError Url :=
  parse (config.scheme ++ ":" ++ link)

/-- The link of an endpoint. A text such as `host:port/path` reads as a link whose scheme is the
host; as it has no host, it is placed under the payment scheme too. -/
def endpoint (config : PayConfig) (link : String) : Except PayError Url :=
  match Url.parse link with
  | .ok u => if isPayment config u || isWeb u || u.hasHost then .ok u else underScheme config link
  | .error .relative => underScheme config link
  | .error flaw => .error (unreadable link flaw)

/-- The annotations as parameters. -/
def pairs (r : TransactionRequest) : List Form.Pair :=
  textPair labelKey r.label ++ textPair messageKey r.message

/-- The link of a transaction. -/
def encode (r : TransactionRequest) (config : PayConfig) : Except PayError Url := do
  let link := trimmed r.link
  let u ← endpoint config link
  if isPayment config u || isWeb u then pure (u.appendPairs (pairs r))
  else throw (unsupported link u)

/-- The first value of a parameter that is not empty. -/
def firstText (key : List Char) (ps : List Form.Pair) : Option String :=
  (ps.find? fun p => p.1 = key && !p.2.isEmpty).map fun p => String.ofList p.2

/-- Whether a parameter is an annotation. -/
def annotates (p : Form.Pair) : Bool :=
  p.1 = labelKey || p.1 = messageKey

/-- The parameters that are no annotations. -/
def others (ps : List Form.Pair) : List Form.Pair :=
  ps.filter fun p => !annotates p

/-- The request for the endpoint `link` with the annotations among `ps`. -/
def annotated (link : String) (ps : List Form.Pair) : TransactionRequest :=
  ⟨link, firstText labelKey ps, firstText messageKey ps⟩

/-- The request of a web link. -/
def ofWeb (u : Url) : TransactionRequest :=
  annotated (u.withPairs (others u.pairs)).text u.pairs

/-- The link that a path and parameters make. -/
def relativeLink (path : List Char) (ps : List Form.Pair) : String :=
  String.ofList (if ps.isEmpty then path else path ++ '?' :: Url.Form.write ps)

/-- The request of a link under the payment scheme, whose path without escapes is `path`. -/
def ofPath (u : Url) (path : List Char) : TransactionRequest :=
  annotated (relativeLink path (others u.pairs)) u.pairs

end PayLink.Link.Transaction
