import PayLink.Address
import PayLink.Text.Quoted
/-!
# What can go wrong

The causes for which a payment request is not read, not written or not built, and their wording. A
cause carries the input at fault. The ledger's own failures are passed on as they are.
-/

namespace PayLink

/-- What an address is for, in the message about a text that names none. -/
inductive Role
  /-- Any account. -/
  | account
  /-- The account that a request pays. -/
  | recipient
  /-- The mint of the token that a request asks for. -/
  | token
  /-- An account by which a payment is found again. -/
  | reference
  deriving DecidableEq, Repr

/-- The name of a role. -/
def Role.text : Role → String
  | .account => "account"
  | .recipient => "recipient"
  | .token => "token"
  | .reference => "reference"

/-- A failure of the ledger: its text, and the text of its cause if it has one. -/
structure Fault where
  /-- The text of the failure. -/
  message : String
  /-- The text of what lies behind it. -/
  cause : Option String
  deriving DecidableEq, Repr

/-- Why a request is not read, not written or not built. -/
inductive PayError
  /-- A text names no address. -/
  | invalidAddress (role : Role) (input : String)
  /-- An amount is negative, not finite, too precise, too large or missing. -/
  | invalidAmount (reason : String)
  /-- A link does not parse, or is under a scheme that is not accepted. -/
  | invalidLink (reason : String)
  /-- The paying account does not exist. -/
  | senderNotFound (address : Address)
  /-- The paid account does not exist. -/
  | recipientNotFound (address : Address)
  /-- The mint does not exist or is no mint. -/
  | mintNotFound (mint : Address)
  /-- The mint exists and is not yet initialized. -/
  | mintNotInitialized (mint : Address)
  /-- A transaction was finished without a lifetime. -/
  | missingLifetime
  /-- A transaction was finished without an instruction. -/
  | emptyTransaction
  /-- A lookup failed. -/
  | ledger (fault : Fault)
  deriving DecidableEq

/-- The wording of an error. -/
def PayError.message : PayError → String
  | .invalidAddress role input =>
    "Invalid " ++ role.text ++ " address: " ++ Text.quoted input
  | .invalidAmount reason => "Invalid amount: " ++ reason
  | .invalidLink reason => "Invalid link: " ++ reason
  | .senderNotFound a => "Sender not found: " ++ a.text
  | .recipientNotFound a => "Recipient not found: " ++ a.text
  | .mintNotFound a => "Mint not found: " ++ a.text
  | .mintNotInitialized a => "Mint not initialized: " ++ a.text
  | .missingLifetime => "Transaction has no lifetime anchor"
  | .emptyTransaction => "Transaction has no instructions"
  | .ledger fault => fault.message

/-- Reads the address that stands in a given role. -/
def Address.parse (role : Role) (s : String) : Except PayError Address :=
  match Address.ofText? s with
  | some a => .ok a
  | none => .error (.invalidAddress role s)

end PayLink
