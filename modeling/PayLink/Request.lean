import PayLink.Address
import PayLink.Amount
/-!
# Payment requests

What a payment link asks for: either a transfer, with all that it needs, or a transaction that an
endpoint behind a link will build.
-/

namespace PayLink

/-- A request to pay an account. Without an amount, the payer chooses one. -/
structure TransferRequest where
  /-- The account that is paid. -/
  recipient : Address
  /-- The amount, in minor units of the token or of the native asset. -/
  amount : Option Amount := none
  /-- The mint of the token; none for the native asset. -/
  token : Option Address := none
  /-- Accounts by which the payment can be found again, in order. -/
  references : List Address := []
  /-- Who asks. -/
  label : Option String := none
  /-- What for. -/
  message : Option String := none
  /-- A text that the transaction records. -/
  memo : Option String := none
  deriving DecidableEq

/-- A request for a transaction that an endpoint builds. -/
structure TransactionRequest where
  /-- The endpoint: an absolute link, or one that is relative to the payment scheme. -/
  link : String
  /-- Who asks. -/
  label : Option String := none
  /-- What for. -/
  message : Option String := none
  deriving DecidableEq

/-- What a payment link asks for. -/
inductive PaymentRequest
  /-- A transfer. -/
  | transfer (request : TransferRequest)
  /-- A transaction that an endpoint builds. -/
  | transaction (request : TransactionRequest)
  deriving DecidableEq

/-- A text that is set and not empty. -/
def presentText (s : Option String) : Option String :=
  s.filter fun t => !t.isEmpty

end PayLink
