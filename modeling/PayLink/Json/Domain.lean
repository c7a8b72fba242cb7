import PayLink.Address
import PayLink.Amount
import PayLink.Base64
import PayLink.Json.Record
import PayLink.Token
/-!
# Addresses, amounts and tokens in JSON

An address is a string, an amount an integer, bytes are a base64 string, and a token is a record.
-/

namespace PayLink

open Json

/-- An address is written as its text. -/
def Address.toJson (a : Address) : Value :=
  .text a.text

/-- Reads the text of an address. -/
def Address.ofJson? (v : Value) : Option Address := do
  Address.ofText? (← v.text?)

/-- An amount is written as an integer of any size. -/
def Amount.toJson (a : Amount) : Value :=
  .nat a.units

/-- Reads an integer that fits an amount. -/
def Amount.ofJson? (v : Value) : Option Amount := do
  Amount.ofNat? (← v.natBelow? amountBound)

/-- Reads an integer of 8 bits. -/
def Json.Value.uint8? (v : Value) : Option UInt8 :=
  (v.natBelow? (Nat.pow 2 8)).map UInt8.ofNat

/-- Reads an integer of 64 bits. -/
def Json.Value.uint64? (v : Value) : Option UInt64 :=
  (v.natBelow? (Nat.pow 2 64)).map UInt64.ofNat

/-- Bytes are written as base64 text. -/
def Json.Value.ofBytes (bs : List UInt8) : Value :=
  .text (String.ofList (Base64.encode bs))

/-- Reads base64 text. -/
def Json.Value.bytes? (v : Value) : Option (List UInt8) := do
  Base64.decode? (← v.text?).toList

namespace TokenProgram

/-- The name of a token program. -/
def name : TokenProgram → String
  | .legacy => "legacy"
  | .extended => "extended"

/-- The token program of a name. -/
def ofName? (s : String) : Option TokenProgram :=
  if s = "legacy" then some .legacy else if s = "extended" then some .extended else none

/-- A token program is written as its name. -/
def toJson (p : TokenProgram) : Value :=
  .text p.name

/-- Reads a name, or an object with the name as its only key and null as its value. -/
def ofJson? : Value → Option TokenProgram
  | .object [(some k, .null)] => ofName? k
  | v => do ofName? (← v.text?)

end TokenProgram

namespace TokenInfo

/-- The fields of a token. -/
def fieldNames : List String :=
  ["mint", "decimals", "program"]

/-- A token is written as a record. -/
def toJson (t : TokenInfo) : Value :=
  .ofMembers
    [("mint", t.mint.toJson), ("decimals", .nat t.decimals.toNat), ("program", t.program.toJson)]

/-- Reads a token; all fields must be there. -/
def ofJson? (v : Value) : Option TokenInfo := do
  let r ← Record.ofValue? fieldNames v
  let mint ← r.required "mint" Address.ofJson?
  let decimals ← r.required "decimals" Value.uint8?
  let program ← r.required "program" TokenProgram.ofJson?
  some ⟨mint, decimals, program⟩

end TokenInfo

end PayLink
