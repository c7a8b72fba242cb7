import PayLink.Error
import PayLink.Request
/-!
# Transfer plans

What a transfer request comes to once it is certain that it can be built: it must have an amount,
and an empty memo is none.
-/

namespace PayLink.Transfer

/-- What is transferred. -/
inductive Asset
  /-- The native asset. -/
  | native
  /-- The token of a mint. -/
  | token (mint : Address)
  deriving DecidableEq

/-- The asset of an optional mint. -/
def Asset.ofToken : Option Address → Asset
  | none => .native
  | some mint => .token mint

/-- A transfer that can be built. -/
structure Plan where
  /-- The account that is paid. -/
  recipient : Address
  /-- The amount. -/
  amount : Amount
  /-- What is transferred. -/
  asset : Asset
  /-- Accounts by which the payment can be found again, in order. -/
  references : List Address
  /-- A text to record, not empty. -/
  memo : Option String
  deriving DecidableEq

/-- The plan of a request, which must have an amount. -/
def Plan.ofRequest (r : TransferRequest) : Except PayError Plan :=
  match r.amount with
  | none => .error (.invalidAmount ("transfer to " ++ r.recipient.text ++ " has no amount"))
  | some amount =>
    .ok
      { recipient := r.recipient
        amount := amount
        asset := .ofToken r.token
        references := r.references
        memo := presentText r.memo }

end PayLink.Transfer
