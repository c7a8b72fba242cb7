import PayLink.Amount.Conversion
import PayLink.Link.Basic
/-!
# Links of transfers

A transfer is written as the payment scheme, the recipient and the parameters that are set, in a
fixed order. Reading accepts the parameters in any order: the first value of each that is not empty
counts, every reference counts, and unknown parameters do not. The amount is read last, because how
many decimal places it has depends on the token, wherever that stands.
-/

namespace PayLink.Link.Transfer

open Url (Form.Pair)

/-- The amount as a parameter. -/
def amountPair (config : PayConfig) (r : TransferRequest) : List Form.Pair :=
  match r.amount with
  | none => []
  | some a => [(amountKey, (a.decimalText (config.decimalsFor r.token)).toList)]

/-- The token as a parameter. -/
def tokenPair (r : TransferRequest) : List Form.Pair :=
  match r.token with
  | none => []
  | some t => [(tokenKey, t.text.toList)]

/-- The parameters of a transfer that are set, in order. -/
def pairs (config : PayConfig) (r : TransferRequest) : List Form.Pair :=
  amountPair config r
    ++ tokenPair r
    ++ r.references.map (fun a => (referenceKey, a.text.toList))
    ++ textPair labelKey r.label
    ++ textPair messageKey r.message
    ++ textPair memoKey r.memo

/-- The link of a transfer without its parameters. -/
def base (config : PayConfig) (r : TransferRequest) : String :=
  config.scheme ++ ":" ++ r.recipient.text

/-- The link of a transfer. -/
def encode (r : TransferRequest) (config : PayConfig) : Except PayError Url := do
  let u ← parse (base config r)
  pure (u.appendPairs (pairs config r))

/-- The parameters of a transfer as they are found. -/
structure Found where
  /-- The text of the amount. -/
  amount : Option String := none
  /-- The token. -/
  token : Option Address := none
  /-- The references so far. -/
  references : List Address := []
  /-- Who asks. -/
  label : Option String := none
  /-- What for. -/
  message : Option String := none
  /-- The text to record. -/
  memo : Option String := none
  deriving DecidableEq

/-- Takes one parameter into account. -/
def Found.add (f : Found) (p : Form.Pair) : Except PayError Found :=
  let value := String.ofList p.2
  if p.2.isEmpty then .ok f
  else if p.1 = amountKey then
    .ok (if f.amount.isNone then { f with amount := some value } else f)
  else if p.1 = tokenKey then
    if f.token.isNone then do
      let t ← Address.parse .token value
      pure { f with token := some t }
    else .ok f
  else if p.1 = referenceKey then do
    let a ← Address.parse .reference value
    pure { f with references := f.references ++ [a] }
  else if p.1 = labelKey then
    .ok (if f.label.isNone then { f with label := some value } else f)
  else if p.1 = messageKey then
    .ok (if f.message.isNone then { f with message := some value } else f)
  else if p.1 = memoKey then
    .ok (if f.memo.isNone then { f with memo := some value } else f)
  else .ok f

/-- The amount of a text, if there is a text. -/
def readAmount (config : PayConfig) (token : Option Address) :
    Option String → Except PayError (Option Amount)
  | none => .ok none
  | some s => (Amount.parse s (config.decimalsFor token)).map some

/-- The transfer to the account that `path` names with the given parameters. -/
def ofPairs (config : PayConfig) (path : String) (ps : List Form.Pair) :
    Except PayError TransferRequest := do
  let recipient ← Address.parse .recipient path
  let f ← ps.foldlM Found.add {}
  let amount ← readAmount config f.token f.amount
  pure
    { recipient := recipient
      amount := amount
      token := f.token
      references := f.references
      label := f.label
      message := f.message
      memo := f.memo }

end PayLink.Link.Transfer
