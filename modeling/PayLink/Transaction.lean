import PayLink.Error
/-!
# Unsigned transactions

A transaction before it is signed: a version, the block that bounds its lifetime, and instructions
in order, of which there is at least one. A draft collects the parts and is finished once.
-/

namespace PayLink

/-- The block that bounds how long a transaction stays valid. -/
structure LifetimeAnchor where
  /-- The hash of the block, as base58 text. -/
  hash : String
  /-- The last block height at which the transaction may land. -/
  expiryHeight : UInt64
  deriving DecidableEq

/-- An account that an instruction names. -/
structure AccountMeta where
  /-- The account. -/
  address : Address
  /-- Whether it must sign. -/
  isSigner : Bool
  /-- Whether the instruction may change it. -/
  isWritable : Bool
  deriving DecidableEq

/-- An account that the instruction may change. -/
def AccountMeta.writable (address : Address) (isSigner : Bool) : AccountMeta :=
  ⟨address, isSigner, true⟩

/-- An account that the instruction only reads. -/
def AccountMeta.readonly (address : Address) (isSigner : Bool) : AccountMeta :=
  ⟨address, isSigner, false⟩

/-- One call of a program. -/
structure Instruction where
  /-- The program. -/
  programId : Address
  /-- The accounts it is given, in order. -/
  accounts : List AccountMeta
  /-- The bytes it is given. -/
  data : List UInt8
  deriving DecidableEq

/-- An unsigned transaction. -/
structure Skeleton where
  /-- The version of its format. -/
  version : UInt8
  /-- What bounds its lifetime. -/
  lifetime : LifetimeAnchor
  /-- Its instructions, in order. -/
  instructions : List Instruction
  deriving DecidableEq

/-- The parts of a transaction that is not finished. -/
structure Draft where
  /-- The version of its format. -/
  version : UInt8
  /-- What bounds its lifetime, once that is set. -/
  lifetime : Option LifetimeAnchor := none
  /-- The instructions so far, in order. -/
  instructions : List Instruction := []
  deriving DecidableEq

namespace Draft

/-- Sets the lifetime, replacing an earlier one. -/
def withLifetime (d : Draft) (anchor : LifetimeAnchor) : Draft :=
  { d with lifetime := some anchor }

/-- Appends instructions. -/
def append (d : Draft) (more : List Instruction) : Draft :=
  { d with instructions := d.instructions ++ more }

/-- The finished transaction. A missing lifetime is reported before missing instructions. -/
def finish (d : Draft) : Except PayError Skeleton :=
  match d.lifetime with
  | none => .error .missingLifetime
  | some anchor =>
    if d.instructions.isEmpty then .error .emptyTransaction
    else .ok ⟨d.version, anchor, d.instructions⟩

end Draft

end PayLink
