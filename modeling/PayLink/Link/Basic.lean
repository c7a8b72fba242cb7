import PayLink.Config
import PayLink.Error
import PayLink.Request
import PayLink.Url.Parser
import PayLink.Url.Query
/-!
# Payment links

What the links of transfers and of transactions share: the names of their parameters, the schemes
that are accepted, and the wording of refusals.
-/

namespace PayLink.Link

/-- The amount of a transfer, in whole units. -/
def amountKey : List Char := "amount".toList

/-- The mint of a transfer. -/
def tokenKey : List Char := "tpl-token".toList

/-- An account by which a transfer can be found; may occur any number of times. -/
def referenceKey : List Char := "reference".toList

/-- Who asks. -/
def labelKey : List Char := "label".toList

/-- What for. -/
def messageKey : List Char := "message".toList

/-- A text that the transaction records. -/
def memoKey : List Char := "memo".toList

/-- The scheme under which links to endpoints are accepted as they are. -/
def webScheme : List Char := "https".toList

/-- Whether a link is under the payment scheme. Letter case does not count. -/
def isPayment (config : PayConfig) (u : Url) : Bool :=
  u.scheme = config.scheme.toList.map Char.toLower

/-- Whether a link is a web link. -/
def isWeb (u : Url) : Bool :=
  u.scheme = webScheme

/-- The refusal of a text that is no link. -/
def unreadable (input : String) (flaw : Url.Flaw) : PayError :=
  .invalidLink (Text.quoted input ++ ": " ++ flaw.message)

/-- The refusal of a link for its scheme. -/
def unsupported (input : String) (u : Url) : PayError :=
  .invalidLink (Text.quoted input ++ " uses unsupported scheme "
    ++ Text.quoted (String.ofList u.scheme))

/-- Reads a link, or refuses it. -/
def parse (input : String) : Except PayError Url :=
  (Url.parse input).mapError (unreadable input)

/-- The parameter of a text; an empty text has none. -/
def textPair (key : List Char) (s : Option String) : List Url.Form.Pair :=
  match presentText s with
  | none => []
  | some t => [(key, t.toList)]

end PayLink.Link
