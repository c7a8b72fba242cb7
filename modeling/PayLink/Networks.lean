import PayLink.Token
/-!
# Well-known addresses

The programs to which instructions go unless a configuration names others, and the tokens whose
decimal places are known in advance.
-/

namespace PayLink.Networks

/-- The program of native transfers. -/
def systemProgram : Address :=
  ⟨List.replicate 32 0, rfl⟩

/-- The program whose mints have no extensions. -/
def tokenProgram : Address :=
  ⟨[0x31, 0x1f, 0x86, 0xd1, 0xe9, 0xfd, 0x2f, 0x03, 0x2a, 0x2b, 0xb9, 0x90, 0x9f, 0x42, 0x5d, 0x0f,
    0x44, 0xe7, 0xb9, 0x4f, 0x34, 0x75, 0x78, 0x38, 0x43, 0xa1, 0xce, 0x83, 0x8f, 0x0c, 0xee, 0xd5],
    rfl⟩

/-- The program whose mints may have extensions. -/
def extendedTokenProgram : Address :=
  ⟨[0x06, 0xdd, 0xf6, 0xe1, 0xee, 0x75, 0x8f, 0xde, 0x18, 0x42, 0x5d, 0xbc, 0xe4, 0x6c, 0xcd, 0xda,
    0xb6, 0x1a, 0xfc, 0x4d, 0x83, 0xb9, 0x0d, 0x27, 0xfe, 0xbd, 0xf9, 0x28, 0xd8, 0xa1, 0x8b, 0xfc],
    rfl⟩

/-- The program that derives the token accounts of an owner. -/
def associatedTokenProgram : Address :=
  ⟨[0x8c, 0x97, 0x25, 0x8f, 0x4e, 0x24, 0x89, 0xf1, 0xbb, 0x3d, 0x10, 0x29, 0x14, 0x8e, 0x0d, 0x83,
    0x0b, 0x5a, 0x13, 0x99, 0xda, 0xff, 0x10, 0x84, 0x04, 0x8e, 0x7b, 0xd8, 0xdb, 0xe9, 0xf8, 0x59],
    rfl⟩

/-- The program that records memos. -/
def memoProgram : Address :=
  ⟨[0x05, 0x4a, 0x53, 0x5a, 0x99, 0x29, 0x21, 0x06, 0x4d, 0x24, 0xe8, 0x71, 0x60, 0xda, 0x38, 0x7c,
    0x7c, 0x35, 0xb5, 0xdd, 0xbc, 0x92, 0xbb, 0x81, 0xe4, 0x1f, 0xa8, 0x40, 0x41, 0x05, 0x44, 0x8d],
    rfl⟩

/-- The texts of the programs. -/
theorem text_programs :
    systemProgram.text = "11111111111111111111111111111111"
      ∧ tokenProgram.text = "4JkrrPuuQPxDZuBW1bgrM1GBa8oYg1LxcuX9szBPh3ic"
      ∧ extendedTokenProgram.text = "TokenzQdBNbLqP5VEhdkAS6EPFLC1PHnBqCXEpPxuEb"
      ∧ associatedTokenProgram.text = "ATokenGPvbdGVxr1b2hvZbsiqW5xWH25efTNsLJA8knL"
      ∧ memoProgram.text = "MemoSq4gqABAXKb96qnH8TysNcWxMyWCqXgDLGmfcHr" := by
  decide +kernel

/-- The number of decimal places of the native asset. -/
def nativeDecimals : UInt8 := 9

/-- A dollar token. -/
def usdc : TokenDeployment where
  mint := ⟨[
    0xc4, 0xe8, 0xf5, 0xf4, 0xee, 0x90, 0x3f, 0x86, 0xd9, 0x18, 0x24, 0x10, 0x28, 0x49, 0x7c, 0xb7,
    0x4a, 0x85, 0xaf, 0x71, 0x3b, 0x79, 0xd7, 0xbb, 0x62, 0xbc, 0xe8, 0x5b, 0xf6, 0x77, 0xea, 0x05],
    rfl⟩
  decimals := 6

/-- Another dollar token. -/
def usdt : TokenDeployment where
  mint := ⟨[
    0xe3, 0x12, 0x4e, 0xd5, 0xcb, 0x92, 0xb7, 0x06, 0x66, 0x72, 0x83, 0x79, 0x97, 0xe6, 0x20, 0x03,
    0xbe, 0xa9, 0x87, 0xd2, 0xfb, 0xd5, 0xb7, 0x6f, 0xaf, 0xb6, 0x61, 0x9b, 0x65, 0x5c, 0xb4, 0x05],
    rfl⟩
  decimals := 6

/-- The texts of the mints. -/
theorem text_mints :
    usdc.mint.text = "EFewYfHeQhkKpbDzpmyygdT54hn85dUj3VZ8b7dC21KS"
      ∧ usdt.mint.text = "GHPjs7ftoZVdvKYvnxCiRD3i5t3dNSkLyQaoBQLRb5PA" := by
  decide +kernel

/-- All tokens that are known in advance. -/
def knownTokens : List TokenDeployment :=
  [usdc, usdt]

/-- The known token of a mint. -/
def knownToken? (mint : Address) : Option TokenDeployment :=
  knownTokens.find? fun d => d.mint = mint

end PayLink.Networks
