import PayLink.Program
/-!
# The command line

Reads the words, the environment and the files that a run needs, runs the program on them and
writes what comes out. No connection to a ledger is made here, so a transaction that needs one is
not built.
-/

namespace PayLink.Program

/-- What is found at a path. -/
def readState (path : String) : IO FileState := do
  try
    return .text (← IO.FS.readFile path)
  catch
    | .noFileOrDirectory .. => return .missing
    | .inappropriateType _ code _ => return if code = 21 then .directory else .missing
    | e => return .unreadable (toString e)

/-- The values of those of the names that have one. -/
def readVariables (names : List String) : IO Environment := do
  let values ← names.eraseDups.filterMapM fun name => do
    if name.isEmpty then return none
    return (← IO.getEnv name).map fun value => (name, value)
  return ⟨values⟩

/-- Runs the program on words, with the environment and the files of the process. -/
def runHere (words : List String) : IO Outcome := do
  let defaults ← readState variablesPath
  let names := ownNames ++ namesIn defaults
  let env ← readVariables names
  match settingsPath? env defaults words with
  | none => return run env (fun _ => defaults) words
  | some path =>
    let settings ← readState path
    let env ← readVariables (names ++ namesIn settings)
    return run env (fun p => if p = variablesPath then defaults else settings) words

/-- Writes what comes out of a run. -/
def report : Outcome → IO Unit
  | .printed text => IO.print text
  | .failed message => IO.eprintln ("trezoa-pay failed: " ++ message)
  | .misused .help => IO.println usage
  | .misused _ => IO.eprintln usage
  | .awaitsLedger endpoint .. =>
    IO.eprintln ("trezoa-pay failed: no connection to the ledger at " ++ endpoint)
where
  /-- How the program is called. -/
  usage : String :=
    "trezoa-pay [--config PATH] (encode | encode-link | decode | transfer) ..."

end PayLink.Program

/-- The program. -/
def main (words : List String) : IO UInt32 := do
  let outcome ← PayLink.Program.runHere words
  PayLink.Program.report outcome
  return outcome.exitCode.toUInt32
