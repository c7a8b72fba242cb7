import PayLink.Config.Json
import PayLink.Settings.Expansion
import PayLink.Text.Quoted
import PayLink.Toml.Reader
/-!
# Settings

What a user sets once and for all: the endpoint of the ledger, how settled an answer of the ledger
must be, and the payment configuration. Settings are read from a file in which variables are
replaced first.
-/

namespace PayLink

open Json

/-- How settled an answer of the ledger must be. -/
inductive Commitment
  /-- Seen by one node. -/
  | processed
  /-- Voted for by most nodes. -/
  | confirmed
  /-- Never to be undone. -/
  | finalized
  deriving DecidableEq, Repr

namespace Commitment

/-- The name of a level. -/
def name : Commitment → String
  | .processed => "processed"
  | .confirmed => "confirmed"
  | .finalized => "finalized"

/-- The level of a name. -/
def ofName? (s : String) : Option Commitment :=
  [processed, confirmed, finalized].find? fun c => c.name = s

end Commitment

/-- What a user sets. -/
structure Settings where
  /-- The endpoint of the ledger. -/
  rpcUrl : Option String := none
  /-- The name of the level at which the ledger is asked. -/
  commitment : String := Commitment.confirmed.name
  /-- The payment configuration. -/
  protocol : PayConfig := {}
  deriving DecidableEq

namespace Settings

/-- The fields of settings. -/
def fieldNames : List String :=
  ["rpc_url", "commitment", "protocol"]

/-- Settings are written with all fields. -/
def toJson (s : Settings) : Value :=
  .ofMembers
    [("rpc_url", match s.rpcUrl with
      | none => .null
      | some u => .text u),
      ("commitment", .text s.commitment),
      ("protocol", s.protocol.toJson)]

/-- Reads a payment configuration of a file, where a list may hold more items than there are
fields. -/
def protocolOf? : Value → Option PayConfig
  | .array vs => PayConfig.ofJson? (.array (vs.take PayConfig.fieldNames.length))
  | v => PayConfig.ofJson? v

/-- Reads settings from the value of a file. -/
def ofValue? (v : Value) : Option Settings := do
  let r ← Record.ofValue? fieldNames v
  let base : Settings := {}
  let rpcUrl ← r.maybe "rpc_url" Value.text?
  let commitment ← r.optional "commitment" base.commitment Value.text?
  let protocol ← r.optional "protocol" base.protocol protocolOf?
  some ⟨rpcUrl, commitment, protocol⟩

/-- Reads settings from the characters of a file whose variables are replaced. -/
def ofExpanded? (cs : List Char) : Option Settings := do
  ofValue? (← Toml.read? cs)

/-- Reads settings from the text of a file. -/
def ofText? (env : Environment) (text : String) : Option Settings :=
  ofExpanded? (Expansion.expand env text.toList)

/-- The level at which the ledger is asked, or why there is none. -/
def level (s : Settings) : Except String Commitment :=
  match Commitment.ofName? s.commitment with
  | some c => .ok c
  | none => .error ("invalid commitment " ++ Text.quoted s.commitment ++ ": invalid variant")

end Settings

end PayLink
