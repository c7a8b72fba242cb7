import PayLink.Config
import PayLink.Json.Domain
/-!
# Configuration in JSON

A configuration is a record in which every field may be missing. The known tokens are an object
with a member for each mint; of two members for one mint the later counts.
-/

namespace PayLink

open Json

namespace TokenTable

/-- A table is written as an object, in the order of its mints. -/
def toJson (t : TokenTable) : Value :=
  .ofMembers (t.entries.map fun e => (e.1.text, .nat e.2.toNat))

/-- Reads one member of a table. -/
def entryOfJson? (m : Option String × Value) : Option (Address × UInt8) := do
  let mint ← Address.ofText? (← m.1)
  let places ← m.2.uint8?
  some (mint, places)

/-- Reads a table. -/
def ofJson? : Value → Option TokenTable
  | .object ms => (ms.mapM entryOfJson?).map ofList
  | _ => none

end TokenTable

namespace PayConfig

/-- The fields of a configuration. -/
def fieldNames : List String :=
  ["scheme", "native_decimals", "system_program", "token_program", "token_2022_program",
    "associated_token_program", "memo_program", "known_tokens"]

/-- A configuration is written with all fields. -/
def toJson (c : PayConfig) : Value :=
  .ofMembers
    [("scheme", .text c.scheme),
      ("native_decimals", .nat c.nativeDecimals.toNat),
      ("system_program", c.systemProgram.toJson),
      ("token_program", c.tokenProgram.toJson),
      ("token_2022_program", c.extendedTokenProgram.toJson),
      ("associated_token_program", c.associatedTokenProgram.toJson),
      ("memo_program", c.memoProgram.toJson),
      ("known_tokens", c.knownTokens.toJson)]

/-- Reads a configuration; a field that is missing has its default. -/
def ofJson? (v : Value) : Option PayConfig := do
  let r ← Record.ofValue? fieldNames v
  let base : PayConfig := {}
  let scheme ← r.optional "scheme" base.scheme Value.text?
  let nativeDecimals ← r.optional "native_decimals" base.nativeDecimals Value.uint8?
  let systemProgram ← r.optional "system_program" base.systemProgram Address.ofJson?
  let tokenProgram ← r.optional "token_program" base.tokenProgram Address.ofJson?
  let extendedTokenProgram ←
    r.optional "token_2022_program" base.extendedTokenProgram Address.ofJson?
  let associatedTokenProgram ←
    r.optional "associated_token_program" base.associatedTokenProgram Address.ofJson?
  let memoProgram ← r.optional "memo_program" base.memoProgram Address.ofJson?
  let knownTokens ← r.optional "known_tokens" base.knownTokens TokenTable.ofJson?
  some ⟨scheme, nativeDecimals, systemProgram, tokenProgram, extendedTokenProgram,
    associatedTokenProgram, memoProgram, knownTokens⟩

end PayConfig

end PayLink
