import PayLink.Networks
import PayLink.Token.Table
/-!
# Payment configuration

The constants that payment requests depend on: the scheme of links, the programs to which
instructions go, and how many decimal places amounts have. Every one has a default.
-/

namespace PayLink

/-- The constants of payment requests. -/
structure PayConfig where
  /-- The scheme of payment links. -/
  scheme : String := "trezoa"
  /-- The decimal places of the native asset. -/
  nativeDecimals : UInt8 := Networks.nativeDecimals
  /-- The program of native transfers. -/
  systemProgram : Address := Networks.systemProgram
  /-- The program whose mints have no extensions. -/
  tokenProgram : Address := Networks.tokenProgram
  /-- The program whose mints may have extensions. -/
  extendedTokenProgram : Address := Networks.extendedTokenProgram
  /-- The program that derives the token accounts of an owner. -/
  associatedTokenProgram : Address := Networks.associatedTokenProgram
  /-- The program that records memos. -/
  memoProgram : Address := Networks.memoProgram
  /-- The decimal places of tokens that are known without asking the ledger. -/
  knownTokens : TokenTable :=
    .ofList (Networks.knownTokens.map fun d => (d.mint, d.decimals))
  deriving DecidableEq

namespace PayConfig

/-- The decimal places with which an amount is written in a link: those of a known token, and
otherwise those of the native asset. -/
def decimalsFor (config : PayConfig) (token : Option Address) : UInt8 :=
  (token.bind config.knownTokens.find?).getD config.nativeDecimals

/-- The token program that an owner of accounts is, if it is one. -/
def tokenProgramOf? (config : PayConfig) (owner : Address) : Option TokenProgram :=
  if owner = config.tokenProgram then some .legacy
  else if owner = config.extendedTokenProgram then some .extended
  else none

/-- The address of a token program. -/
def addressOf (config : PayConfig) : TokenProgram → Address
  | .legacy => config.tokenProgram
  | .extended => config.extendedTokenProgram

/-- The address of the program that an owner was recognized as is the owner. -/
theorem addressOf_tokenProgramOf? {config : PayConfig} {owner : Address} {program : TokenProgram}
    (h : config.tokenProgramOf? owner = some program) : config.addressOf program = owner := by
  unfold tokenProgramOf? at h
  split at h
  · rename_i ho
    cases h
    exact ho.symm
  · split at h
    · rename_i ho
      cases h
      exact ho.symm
    · cases h

end PayConfig

end PayLink
