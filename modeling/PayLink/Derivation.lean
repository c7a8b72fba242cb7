import PayLink.Address
import PayLink.Curve25519
import PayLink.Sha256
/-!
# Derived addresses

Addresses that a program derives from other addresses. The bytes of all of them are hashed,
together with a counter that starts at 255 and goes down until the hash is no point of the
signature curve, so that no key can sign for the derived address. The account that holds a token
for an owner is derived in this way from the owner, the token program and the mint.
-/

namespace PayLink

/-- What ends every hashed message. -/
def derivationMark : List UInt8 :=
  "ProgramDerivedAddress".toUTF8.toList

/-- The message that is hashed: the seeds, the counter, the program and the mark. -/
def derivationMessage (seeds : List Address) (program : Address) (bump : UInt8) : List UInt8 :=
  seeds.flatMap Address.bytes ++ bump :: program.bytes ++ derivationMark

/-- The address that a counter gives. -/
def candidateAddress (seeds : List Address) (program : Address) (bump : UInt8) : Address :=
  ⟨Sha256.hash (derivationMessage seeds program bump), Sha256.length_hash _⟩

/-- The address of the first counter from `bump` down whose hash is no point of the curve. Counter
zero ends the search and is taken as it comes, so that there always is an address. The programs of a
ledger search from 255 down to one and derive nothing if all of these hashes are points: there, and
only there, an address is given here that they do not derive. -/
def deriveFrom (seeds : List Address) (program : Address) : (bump : Nat) → Address
  | 0 => candidateAddress seeds program 0
  | bump + 1 =>
    let a := candidateAddress seeds program (UInt8.ofNat (bump + 1))
    if Curve25519.isPoint a.bytes then deriveFrom seeds program bump else a

/-- The address that a program derives from seeds. -/
def deriveAddress (seeds : List Address) (program : Address) : Address :=
  deriveFrom seeds program 255

/-- The account that holds the token of `mint` for `owner`. -/
def associatedTokenAddress (owner mint tokenProgram associatedTokenProgram : Address) : Address :=
  deriveAddress [owner, tokenProgram, mint] associatedTokenProgram

end PayLink
