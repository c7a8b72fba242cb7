import PayLink.Config
import PayLink.Ledger
/-!
# Mints

How the account of a mint is recognized and read. The owner of the account selects the layout. Both
layouts begin with the same 82 bytes; the second allows extensions behind them, which are marked but
not read.
-/

namespace PayLink.Mint

/-- The size of a mint without extensions. -/
def baseSize : Nat := 82

/-- The size of an account that several keys control; no mint has it. -/
def multisigSize : Nat := 355

/-- Where the byte stands that tells what has extensions. -/
def kindOffset : Nat := 165

/-- What a mint holds that a transfer needs. -/
structure Base where
  /-- The decimal places. -/
  decimals : UInt8
  /-- Whether the mint is initialized. -/
  isInitialized : Bool
  deriving DecidableEq, Repr

/-- Whether four bytes say that something is there or that it is not. -/
def isTag (bs : List UInt8) : Bool :=
  bs = [0, 0, 0, 0] || bs = [1, 0, 0, 0]

/-- The mint of exactly 82 bytes. -/
def ofBase? (bs : List UInt8) : Option Base :=
  let initialized := bs.getD 45 0
  if bs.length = baseSize ∧ isTag (bs.take 4) ∧ isTag ((bs.drop 46).take 4) ∧ initialized ≤ 1 then
    some ⟨bs.getD 44 0, initialized = 1⟩
  else none

/-- Whether what follows the first 82 bytes may follow a mint: nothing, or zeros up to the mark of a
mint. -/
def isTail (bs : List UInt8) : Bool :=
  bs.length = baseSize
    || (bs.length ≠ multisigSize && kindOffset < bs.length
      && ((bs.take kindOffset).drop baseSize).all (· = 0) && bs.getD kindOffset 0 = 1)

/-- The mint of an account's data in the layout of a program. With extensions, a mint that is not
yet initialized is one whatever follows it. -/
def ofData? (program : TokenProgram) (bs : List UInt8) : Option Base :=
  match program with
  | .legacy => ofBase? bs
  | .extended =>
    match ofBase? (bs.take baseSize) with
    | some base => if base.isInitialized && !isTail bs then none else some base
    | none => none

/-- What an account says about the token of a mint. -/
def ofAccount (config : PayConfig) (mint : Address) (account : Option Account) :
    Except PayError TokenInfo := do
  let some account := account | throw (.mintNotFound mint)
  let some program := config.tokenProgramOf? account.owner | throw (.mintNotFound mint)
  let some base := ofData? program account.data | throw (.mintNotFound mint)
  if base.isInitialized then pure ⟨mint, base.decimals, program⟩
  else throw (.mintNotInitialized mint)

/-- Looks a mint up. -/
def read (config : PayConfig) (ledger : Ledger) (mint : Address) : Reading TokenInfo :=
  (ledger.readAccount mint).andThen fun account => .ofResult (ofAccount config mint account)

end PayLink.Mint
