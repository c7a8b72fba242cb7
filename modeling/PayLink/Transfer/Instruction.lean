import PayLink.Amount.Conversion
import PayLink.Config
import PayLink.Derivation
import PayLink.Text.Utf8
import PayLink.Transaction
/-!
# Instructions of transfers

The three instructions of which transfers are made, byte for byte: a transfer of the native asset, a
transfer of a token that also states the token's decimal places, and a memo.
-/

namespace PayLink.Transfer

/-- The bytes of `n` in little-endian order, `count` of them. -/
def littleEndian : (count : Nat) → (n : Nat) → List UInt8
  | 0, _ => []
  | count + 1, n => UInt8.ofNat n :: littleEndian count (n / 256)

/-- The number of the native transfer among the instructions of its program. -/
def nativeIndex : Nat := 2

/-- The number of the token transfer among the instructions of its program. -/
def tokenIndex : UInt8 := 12

/-- The data of a native transfer. -/
def nativeData (amount : UInt64) : List UInt8 :=
  littleEndian 4 nativeIndex ++ littleEndian 8 amount.toNat

/-- The data of a token transfer. -/
def tokenData (amount : UInt64) (decimals : UInt8) : List UInt8 :=
  tokenIndex :: littleEndian 8 amount.toNat ++ [decimals]

/-- A transfer of the native asset. -/
def nativeInstruction (config : PayConfig) (sender recipient : Address) (amount : Amount) :
    Except PayError Instruction := do
  let units ← amount.toLedger
  pure
    { programId := config.systemProgram
      accounts := [.writable sender true, .writable recipient false]
      data := nativeData units }

/-- The account that holds a token for an owner. -/
def holding (config : PayConfig) (token : TokenInfo) (owner : Address) : Address :=
  associatedTokenAddress owner token.mint (config.addressOf token.program)
    config.associatedTokenProgram

/-- A transfer of a token between the accounts that hold it for two owners. -/
def tokenInstruction (config : PayConfig) (token : TokenInfo) (sender recipient : Address)
    (amount : Amount) : Except PayError Instruction := do
  let units ← amount.toLedger
  pure
    { programId := config.addressOf token.program
      accounts :=
        [.writable (holding config token sender) false, .readonly token.mint false,
          .writable (holding config token recipient) false, .readonly sender true]
      data := tokenData units token.decimals }

/-- A memo: the bytes of a text, and no accounts. -/
def memoInstruction (config : PayConfig) (memo : String) : Instruction :=
  { programId := config.memoProgram
    accounts := []
    data := Text.Utf8.encode memo.toList }

end PayLink.Transfer
