import PayLink.Link.Transaction
import PayLink.Link.Transfer
/-!
# Writing and reading payment links

The way between requests and links. A web link is a transaction. A link under the payment scheme is
a transaction if its path looks like a link, that is, if it has a slash, a colon or a point, and
otherwise a transfer to the account that its path names. A link is read as a whole or not at all.
-/

namespace PayLink.Link

/-- The link of a request. -/
def encode (request : PaymentRequest) (config : PayConfig) : Except PayError Url :=
  match request with
  | .transfer r => Transfer.encode r config
  | .transaction r => Transaction.encode r config

/-- Whether a path looks like a link. -/
def looksLikeLink (path : List Char) : Bool :=
  path.any fun c => c = '/' || c = ':' || c = '.'

/-- The path of a link without escapes. -/
def plainPath (uri : String) (u : Url) : Except PayError (List Char) :=
  (Text.Utf8.decode (Url.Percent.decode u.path.text)).mapError fun flaw =>
    .invalidLink (Text.quoted uri ++ ": " ++ flaw.message)

/-- The request of a link. -/
def decode (uri : String) (config : PayConfig) : Except PayError PaymentRequest := do
  let u ← parse uri
  if isWeb u then pure (.transaction (Transaction.ofWeb u))
  else if isPayment config u then
    let path ← plainPath uri u
    if looksLikeLink path then pure (.transaction (Transaction.ofPath u path))
    else (Transfer.ofPairs config (String.ofList path) u.pairs).map .transfer
  else throw (unsupported uri u)

end PayLink.Link
