import PayLink.Amount.Conversion
import PayLink.CommandLine
import PayLink.Config
import PayLink.Request
import PayLink.Settings.Environment
/-!
# Commands

What the program can be asked to do, and how that is read from a command line and an environment.
-/

namespace PayLink

/-- A transfer request as it is given on the command line, with an amount in whole units. -/
structure TransferWords where
  /-- The account that is paid. -/
  recipient : Address
  /-- The text of the amount. -/
  amount : Option String
  /-- The mint of the token. -/
  token : Option Address
  /-- Accounts by which the payment can be found again. -/
  references : List Address
  /-- Who asks. -/
  label : Option String
  /-- What for. -/
  message : Option String
  /-- A text that the transaction records. -/
  memo : Option String
  deriving DecidableEq

/-- The request that the words make, with the amount in minor units. -/
def TransferWords.toRequest (w : TransferWords) (config : PayConfig) :
    Except PayError TransferRequest := do
  let amount ← match w.amount with
    | none => pure none
    | some s => (Amount.parse s (config.decimalsFor w.token)).map some
  pure ⟨w.recipient, amount, w.token, w.references, w.label, w.message, w.memo⟩

/-- What the program is asked to do. -/
inductive Command
  /-- To write the link of a transfer. -/
  | encode (words : TransferWords)
  /-- To write the link of a transaction. -/
  | encodeLink (request : TransactionRequest)
  /-- To read a link. -/
  | decode (uri : String)
  /-- To build the transaction of a transfer link. -/
  | transfer (sender : Address) (rpcUrl : Option String) (uri : String)
  deriving DecidableEq

/-- A command with the settings file to use. -/
structure Invocation where
  /-- The path of the settings file. -/
  settingsPath : String
  /-- The command. -/
  command : Command
  deriving DecidableEq

namespace Command

open CommandLine

/-- The path of the settings file if none is given. -/
def defaultPath : String := "trezoa-pay.toml"

/-- The option for the path of the settings file, which every level takes. -/
def pathRule : OptionRule where
  name := "config"

/-- What may be given before the command. -/
def rootLevel : Level where
  options := [pathRule]
  hasVersion := true

/-- What may be given to a command; `none` if there is no such command. -/
def levelOf? : String → Option Level
  | "encode" => some
      { options :=
          [pathRule,
            { name := "recipient", isAddress := true, isRequired := true },
            { name := "amount" },
            { name := "token", isAddress := true },
            { name := "reference", isAddress := true, isRepeatable := true },
            { name := "label" }, { name := "message" }, { name := "memo" }] }
  | "encode-link" => some
      { options :=
          [pathRule, { name := "link", isRequired := true }, { name := "label" },
            { name := "message" }] }
  | "decode" => some { options := [pathRule], takesWord := true }
  | "transfer" => some
      { options :=
          [pathRule, { name := "sender", isAddress := true, isRequired := true },
            { name := "rpc-url" }]
        takesWord := true }
  | _ => none

/-- Whether a word is a command, or asks for help with one. -/
def isCommand (w : String) : Bool :=
  w = "help" || (levelOf? w).isSome

/-- The answer to a word that asks for help with commands. -/
def helpFor : List String → Misuse
  | [] => .help
  | [w] => if isCommand w then .help else .unknownCommand
  | _ => .unknownCommand

/-- The address of an option that has been checked. -/
def addressOf (g : Given) (name : String) : Except Misuse Address :=
  match (g.get? name).bind Address.ofText? with
  | some a => .ok a
  | none => .error .missingArgument

/-- The command with the given name and what has been given to it. -/
def ofGiven (env : Environment) (name : String) (g : Given) : Except Misuse Command :=
  match name with
  | "encode" => do
    let recipient ← addressOf g "recipient"
    pure (.encode
      { recipient := recipient
        amount := g.get? "amount"
        token := (g.get? "token").bind Address.ofText?
        references := (g.all "reference").filterMap Address.ofText?
        label := g.get? "label"
        message := g.get? "message"
        memo := g.get? "memo" })
  | "encode-link" =>
    .ok (.encodeLink ⟨(g.get? "link").getD "", g.get? "label", g.get? "message"⟩)
  | "decode" => .ok (.decode (g.word.getD ""))
  | "transfer" => do
    let sender ← addressOf g "sender"
    pure (.transfer sender ((g.get? "rpc-url").orElse fun _ => env.find? "RPC_URL")
      (g.word.getD ""))
  | _ => .error .unknownCommand

/-- The path of the settings file: what the command was given, else what stands before it, else what
the environment says. -/
def pathOf (env : Environment) (root command : Given) : String :=
  (((command.get? "config").orElse fun _ => root.get? "config").orElse
    fun _ => env.find? "CONFIG").getD defaultPath

/-- The answer to a command line without a command. -/
def noCommand (env : Environment) (root : Given) : Misuse :=
  match root.settle with
  | .error e => e
  | .ok g =>
    if (g.get? "config").isNone ∧ (env.find? "CONFIG").isNone then .nothingGiven
    else .missingCommand

/-- Reads a command line. -/
def parse (env : Environment) (words : List String) : Except Misuse Invocation := do
  let (root, rest) ← splitCommand rootLevel isCommand {} words
  match rest with
  | none => throw (noCommand env root)
  | some (name, words) =>
    match levelOf? name with
    | none => throw (helpFor words)
    | some level =>
      let given ← read level words
      let root ← root.settle
      let command ← ofGiven env name given
      pure ⟨pathOf env root given, command⟩

end Command

end PayLink
