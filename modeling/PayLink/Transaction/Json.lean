import PayLink.Json.Domain
import PayLink.Transaction
/-!
# Transactions in JSON

The parts of a transaction are records in which every field must be there. The data of an
instruction is base64 text.
-/

namespace PayLink

open Json

namespace LifetimeAnchor

/-- The fields of a lifetime. -/
def fieldNames : List String :=
  ["hash", "expiryHeight"]

/-- A lifetime is written as a record. -/
def toJson (l : LifetimeAnchor) : Value :=
  .ofMembers [("hash", .text l.hash), ("expiryHeight", .nat l.expiryHeight.toNat)]

/-- Reads a lifetime. -/
def ofJson? (v : Value) : Option LifetimeAnchor := do
  let r ← Record.ofValue? fieldNames v
  let hash ← r.required "hash" Value.text?
  let expiryHeight ← r.required "expiryHeight" Value.uint64?
  some ⟨hash, expiryHeight⟩

end LifetimeAnchor

namespace AccountMeta

/-- The fields of an account that an instruction names. -/
def fieldNames : List String :=
  ["address", "isSigner", "isWritable"]

/-- An account is written as a record. -/
def toJson (m : AccountMeta) : Value :=
  .ofMembers
    [("address", m.address.toJson), ("isSigner", .bool m.isSigner),
      ("isWritable", .bool m.isWritable)]

/-- Reads an account. -/
def ofJson? (v : Value) : Option AccountMeta := do
  let r ← Record.ofValue? fieldNames v
  let address ← r.required "address" Address.ofJson?
  let isSigner ← r.required "isSigner" Value.bool?
  let isWritable ← r.required "isWritable" Value.bool?
  some ⟨address, isSigner, isWritable⟩

end AccountMeta

namespace Instruction

/-- The fields of an instruction. -/
def fieldNames : List String :=
  ["programId", "accounts", "data"]

/-- An instruction is written as a record. -/
def toJson (i : Instruction) : Value :=
  .ofMembers
    [("programId", i.programId.toJson), ("accounts", .array (i.accounts.map AccountMeta.toJson)),
      ("data", .ofBytes i.data)]

/-- Reads an instruction. -/
def ofJson? (v : Value) : Option Instruction := do
  let r ← Record.ofValue? fieldNames v
  let programId ← r.required "programId" Address.ofJson?
  let accounts ← r.required "accounts" (Value.items? AccountMeta.ofJson?)
  let data ← r.required "data" Value.bytes?
  some ⟨programId, accounts, data⟩

end Instruction

/-- A transaction is written as a record. -/
def Skeleton.toJson (s : Skeleton) : Value :=
  .ofMembers
    [("version", .nat s.version.toNat), ("lifetime", s.lifetime.toJson),
      ("instructions", .array (s.instructions.map Instruction.toJson))]

end PayLink
