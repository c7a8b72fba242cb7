import PayLink.Address
/-!
# Tokens

A token is named by its mint. Two programs keep mints: the first one, and one that lets a mint carry
extensions.
-/

namespace PayLink

/-- The program that keeps a mint. -/
inductive TokenProgram
  /-- The program whose mints have no extensions. -/
  | legacy
  /-- The program whose mints may have extensions. -/
  | extended
  deriving DecidableEq, Repr

/-- What a mint says about its token. -/
structure TokenInfo where
  /-- The address of the mint. -/
  mint : Address
  /-- How many decimal places amounts of the token have. -/
  decimals : UInt8
  /-- The program that keeps the mint. -/
  program : TokenProgram
  deriving DecidableEq

/-- A token whose decimal places are known without asking the ledger. -/
structure TokenDeployment where
  /-- The address of the mint. -/
  mint : Address
  /-- How many decimal places amounts of the token have. -/
  decimals : UInt8
  deriving DecidableEq

end PayLink
