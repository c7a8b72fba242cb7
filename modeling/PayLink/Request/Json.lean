import PayLink.Json.Bounded
import PayLink.Json.Domain
import PayLink.Request
/-!
# Payment requests in JSON

Requests are records in which what is not set is left out. A request of either kind also says which
kind it is, in a field of its own; such a value is held in memory before it is read, and amounts,
which may be larger than any number that can be held there, are then not accepted.
-/

namespace PayLink

open Json

namespace TransferRequest

/-- The fields of a transfer request. -/
def fieldNames : List String :=
  ["recipient", "amount", "token", "references", "label", "message", "memo"]

/-- The members of a transfer request. -/
def members (r : TransferRequest) : List (String × Value) :=
  ("recipient", r.recipient.toJson)
    :: memberIfSet "amount" Amount.toJson r.amount
    ++ memberIfSet "token" Address.toJson r.token
    ++ (if r.references.isEmpty then []
        else [("references", .array (r.references.map Address.toJson))])
    ++ memberIfSet "label" .text r.label
    ++ memberIfSet "message" .text r.message
    ++ memberIfSet "memo" .text r.memo

/-- A transfer request is written without what is not set. -/
def toJson (r : TransferRequest) : Value :=
  .ofMembers r.members

/-- Reads the fields of a transfer request, its amount with `amountOf?`. -/
def ofRecord? (amountOf? : Value → Option Amount) (r : Record) : Option TransferRequest := do
  let recipient ← r.required "recipient" Address.ofJson?
  let amount ← r.maybe "amount" amountOf?
  let token ← r.maybe "token" Address.ofJson?
  let references ← r.optional "references" [] (Value.items? Address.ofJson?)
  let label ← r.maybe "label" Value.text?
  let message ← r.maybe "message" Value.text?
  let memo ← r.maybe "memo" Value.text?
  some ⟨recipient, amount, token, references, label, message, memo⟩

/-- Reads a transfer request. -/
def ofJson? (v : Value) : Option TransferRequest := do
  ofRecord? Amount.ofJson? (← Record.ofValue? fieldNames v)

end TransferRequest

namespace TransactionRequest

/-- The fields of a transaction request. -/
def fieldNames : List String :=
  ["link", "label", "message"]

/-- The members of a transaction request. -/
def members (r : TransactionRequest) : List (String × Value) :=
  ("link", .text r.link)
    :: memberIfSet "label" .text r.label
    ++ memberIfSet "message" .text r.message

/-- A transaction request is written without what is not set. -/
def toJson (r : TransactionRequest) : Value :=
  .ofMembers r.members

/-- Reads the fields of a transaction request. -/
def ofRecord? (r : Record) : Option TransactionRequest := do
  let link ← r.required "link" Value.text?
  let label ← r.maybe "label" Value.text?
  let message ← r.maybe "message" Value.text?
  some ⟨link, label, message⟩

/-- Reads a transaction request. -/
def ofJson? (v : Value) : Option TransactionRequest := do
  ofRecord? (← Record.ofValue? fieldNames v)

end TransactionRequest

namespace PaymentRequest

/-- The field that says which kind a request is. -/
def kindField : String := "type"

/-- The greatest number of arrays and objects around each other in a request. -/
def maxLevels : Nat := 127

/-- A request is written with its kind first. -/
def toJson : PaymentRequest → Value
  | .transfer r => .ofMembers ((kindField, .text "transfer") :: r.members)
  | .transaction r => .ofMembers ((kindField, .text "transaction") :: r.members)

/-- Reads a request of either kind from an object. -/
def ofMembers? (ms : List (Option String × Value)) : Option PaymentRequest := do
  let r ← Record.ofValue? [kindField] (.object ms)
  let kind ← r.required kindField Value.text?
  if kind = "transfer" then
    let r ← Record.ofValue? TransferRequest.fieldNames (.object ms)
    (TransferRequest.ofRecord? (fun _ => none) r).map .transfer
  else if kind = "transaction" then
    let r ← Record.ofValue? TransactionRequest.fieldNames (.object ms)
    (TransactionRequest.ofRecord? r).map .transaction
  else none

/-- Reads a request of either kind. Only the form of an object is read: an array that begins with the
kind and goes on with the other fields in their order, in which such a request could be given too, is
left out and refused like any other value. -/
def ofJson? : Value → Option PaymentRequest
  | .object ms => if (Value.object ms).isBounded maxLevels then ofMembers? ms else none
  | _ => none

end PaymentRequest

end PayLink
