import PayLink.Json.Writer
import PayLink.Link
import PayLink.Program.Command
import PayLink.Request.Json
import PayLink.Settings
import PayLink.Settings.VariableFile
import PayLink.Transfer.Plan
/-!
# The program

What the program does with a command line, an environment and the files it may read. It is a
function of these, up to the point where a ledger has to be asked.
-/

namespace PayLink.Program

/-- What is found at a path. -/
inductive FileState
  /-- Nothing. -/
  | missing
  /-- A directory. -/
  | directory
  /-- Something that cannot be read, with the reason. -/
  | unreadable (reason : String)
  /-- A file with a text. -/
  | text (content : String)
  deriving DecidableEq, Repr

/-- How a run ends. -/
inductive Outcome
  /-- With a text on the standard output. -/
  | printed (text : String)
  /-- With a message. -/
  | failed (message : String)
  /-- With a command line that is not carried out. -/
  | misused (misuse : CommandLine.Misuse)
  /-- With a transaction that is still to be built over a ledger. -/
  | awaitsLedger (endpoint : String) (level : Commitment) (config : PayConfig) (sender : Address)
      (plan : Transfer.Plan)
  deriving DecidableEq

/-- Where variables are read from first. -/
def variablesPath : String := ".env"

/-- The name of the program and its version. -/
def versionText : String := "trezoa-pay 0.1.0"

/-- The message about a settings file that does not parse. -/
def settingsFlaw : String := "TOML parse error"

/-- The message about a directory in the place of a file. -/
def directoryFlaw : String := "Is a directory (os error 21)"

/-- The message about a link to a transaction where a transfer is needed. -/
def transactionFlaw : String :=
  "transaction requests are built by the endpoint they link to"

/-- The message about a missing endpoint. -/
def endpointFlaw : String :=
  "no RPC endpoint: pass --rpc-url, set RPC_URL or rpc_url in the config"

/-- The settings at a path; a path at which nothing is found has the defaults. -/
def loadSettings (env : Environment) : FileState → Except String Settings
  | .directory => .error directoryFlaw
  | .unreadable reason => .error reason
  | .missing => settingsOf ""
  | .text content => settingsOf content
where
  /-- The settings of a text. -/
  settingsOf (content : String) : Except String Settings :=
    match Settings.ofText? env content with
    | some s => .ok s
    | none => .error settingsFlaw

/-- A result of the library, with the message of an error. -/
def orMessage {α : Type} (r : Except PayError α) : Except String α :=
  r.mapError PayError.message

/-- A line of output. -/
def lineOf (s : String) : Outcome :=
  .printed (s ++ "\n")

/-- Carries out a command. -/
def perform (settings : Settings) : Command → Except String Outcome
  | .encode words => do
    let r ← orMessage (words.toRequest settings.protocol)
    let u ← orMessage (Link.encode (.transfer r) settings.protocol)
    pure (lineOf u.text)
  | .encodeLink r => do
    let u ← orMessage (Link.encode (.transaction r) settings.protocol)
    pure (lineOf u.text)
  | .decode uri => do
    let r ← orMessage (Link.decode uri settings.protocol)
    pure (lineOf r.toJson.spread)
  | .transfer sender rpcUrl uri => do
    match ← orMessage (Link.decode uri settings.protocol) with
    | .transaction _ => throw transactionFlaw
    | .transfer r =>
      let level ← settings.level
      match rpcUrl.orElse fun _ => settings.rpcUrl with
      | none => throw endpointFlaw
      | some endpoint =>
        let plan ← orMessage (Transfer.Plan.ofRequest r)
        pure (.awaitsLedger endpoint level settings.protocol sender plan)

/-- The environment with the variables of the file that is read first. -/
def environmentWith (env : Environment) : FileState → Environment
  | .text content => VariableFile.load env content
  | _ => env

/-- Runs the program on words, with what is found at a path. -/
def run (env : Environment) (files : String → FileState) (words : List String) : Outcome :=
  let env := environmentWith env (files variablesPath)
  match Command.parse env words with
  | .error .version => lineOf versionText
  | .error misuse => .misused misuse
  | .ok invocation =>
    match loadSettings env (files invocation.settingsPath) with
    | .error message => .failed message
    | .ok settings =>
      match perform settings invocation.command with
      | .error message => .failed message
      | .ok outcome => outcome

/-- The path of the settings file that a run reads; `none` if the command line is not carried out.
-/
def settingsPath? (env : Environment) (defaults : FileState) (words : List String) :
    Option String :=
  match Command.parse (environmentWith env defaults) words with
  | .error _ => none
  | .ok invocation => some invocation.settingsPath

/-- The names of variables that the command line falls back on. -/
def ownNames : List String :=
  ["CONFIG", "RPC_URL"]

/-- The names of variables that a file may refer to or give a value to. -/
def namesIn : FileState → List String
  | .text content =>
    (Expansion.names content.toList).map String.ofList
      ++ (content.splitToList fun c => !(c.isAlphanum || c = '_' || c = '.'))
  | _ => []

/-- The exit code of a run: zero if it does what it was asked for, two for a command line that is
not carried out, and one for any other failure. -/
def Outcome.exitCode : Outcome → UInt8
  | .printed _ => 0
  | .misused .help => 0
  | .misused _ => 2
  | .failed _ | .awaitsLedger .. => 1

end PayLink.Program
