import Mathlib.Algebra.Group.Nat.Defs
import Mathlib.Data.List.Range
import PayLink.Proofs.Outcome
import PayLink.Transfer.Instruction
/-!
# The bytes of instructions

The transfer instructions are made exactly for the amounts that fit in eight bytes, and hold the
amount in little-endian order.
-/

namespace PayLink

/-- The ledger carries exactly the amounts below 2^64. -/
theorem Amount.toLedger_eq_ok_iff {a : Amount} {units : UInt64} :
    a.toLedger = .ok units ↔ a.units < 2 ^ 64 ∧ units = UInt64.ofNat a.units := by
  have hbound : ledgerBound = 2 ^ 64 := Nat.pow_eq
  rw [toLedger, hbound]
  by_cases h : a.units < 2 ^ 64
  · rw [if_pos h]
    constructor
    · intro hu
      cases hu
      exact ⟨h, rfl⟩
    · rintro ⟨-, rfl⟩
      rfl
  · rw [if_neg h]
    constructor
    · intro hu
      cases hu
    · rintro ⟨hlt, -⟩
      exact absurd hlt h

/-- An instruction for an amount is made exactly if the ledger can carry the amount. -/
theorem Amount.instruction_eq_ok_iff {a : Amount} {f : UInt64 → Instruction} {i : Instruction} :
    (a.toLedger >>= fun units => pure (f units)) = .ok i ↔
      a.units < 2 ^ 64 ∧ i = f (UInt64.ofNat a.units) := by
  constructor
  · intro h
    obtain ⟨units, hunits, hi⟩ := bind_eq_ok_iff.1 h
    obtain ⟨hlt, rfl⟩ := toLedger_eq_ok_iff.1 hunits
    exact ⟨hlt, (Except.ok.inj hi).symm⟩
  · rintro ⟨hlt, rfl⟩
    exact bind_eq_ok_iff.2 ⟨_, toLedger_eq_ok_iff.2 ⟨hlt, rfl⟩, rfl⟩

/-- Why the ledger cannot carry an amount: it does not fit in 64 bits. -/
def Amount.obstacle (a : Amount) : Option PayError :=
  if a.units < 2 ^ 64 then none
  else some (.invalidAmount (a.text ++ " minor units exceed the 64-bit ledger amount"))

/-- No instruction is made exactly for an amount that the ledger cannot carry. -/
theorem Amount.instruction_eq_error_iff {a : Amount} {f : UInt64 → Instruction} {e : PayError} :
    (a.toLedger >>= fun units => pure (f units)) = .error e ↔ a.obstacle = some e := by
  have hbound : ledgerBound = 2 ^ 64 := Nat.pow_eq
  rw [toLedger, hbound, obstacle]
  by_cases h : a.units < 2 ^ 64
  · rw [if_pos h, if_pos h]
    constructor
    · intro he
      cases he
    · intro he
      cases he
  · rw [if_neg h, if_neg h, Option.some.injEq]
    constructor
    · intro he
      cases he
      rfl
    · rintro rfl
      rfl

namespace Transfer

/-- The bytes of `n`, the least significant first: byte `i` counts multiples of `256 ^ i`. -/
theorem littleEndian_eq (count n : Nat) :
    littleEndian count n = (List.range count).map fun i => UInt8.ofNat (n / 256 ^ i) := by
  induction count generalizing n with
  | zero => rfl
  | succ count ih =>
    rw [littleEndian, ih, List.range_succ_eq_map, List.map_cons, List.map_map, Nat.pow_zero,
      Nat.div_one]
    refine congrArg _ (List.map_congr_left fun i _ => ?_)
    rw [Function.comp_apply, Nat.pow_succ', Nat.div_div_eq_div_mul]

/-- An amount as eight bytes, the least significant first. -/
def amountBytes (a : Amount) : List UInt8 :=
  (List.range 8).map fun i => UInt8.ofNat (a.units / 256 ^ i)

/-- An amount takes eight bytes. -/
theorem length_amountBytes (a : Amount) : (amountBytes a).length = 8 := by
  rw [amountBytes, List.length_map, List.length_range]

/-- Accounts that an instruction reads and that do not sign it. -/
def readers (references : List Address) : List AccountMeta :=
  references.map fun a => ⟨a, false, false⟩

/-- The instruction that pays an amount of the native asset. -/
def nativeTransfer (config : PayConfig) (sender recipient : Address) (a : Amount)
    (references : List Address) : Instruction :=
  { programId := config.systemProgram
    accounts := [⟨sender, true, true⟩, ⟨recipient, false, true⟩] ++ readers references
    data := [2, 0, 0, 0] ++ amountBytes a }

/-- The instruction that pays an amount of the token whose mint `program` owns. -/
def tokenTransfer (config : PayConfig) (program mint : Address) (decimals : UInt8)
    (sender recipient : Address) (a : Amount) (references : List Address) : Instruction :=
  let holding owner := associatedTokenAddress owner mint program config.associatedTokenProgram
  { programId := program
    accounts :=
      [⟨holding sender, false, true⟩, ⟨mint, false, false⟩, ⟨holding recipient, false, true⟩,
        ⟨sender, true, false⟩] ++ readers references
    data := [12] ++ amountBytes a ++ [decimals] }

/-- The bytes of an amount that the ledger can carry. -/
theorem littleEndian_ofNat {a : Amount} (h : a.units < 2 ^ 64) :
    littleEndian 8 (UInt64.ofNat a.units).toNat = amountBytes a := by
  rw [UInt64.toNat_ofNat_of_lt' h, littleEndian_eq]
  rfl

/-- A native transfer is made exactly for an amount that the ledger can carry. -/
theorem nativeInstruction_eq_ok_iff {config : PayConfig} {sender recipient : Address} {a : Amount}
    {i : Instruction} :
    nativeInstruction config sender recipient a = .ok i ↔
      a.units < 2 ^ 64 ∧ i = nativeTransfer config sender recipient a [] := by
  refine Amount.instruction_eq_ok_iff.trans (and_congr_right fun hlt => ?_)
  rw [nativeData, littleEndian_ofNat hlt]
  rfl

/-- A token transfer is made exactly for an amount that the ledger can carry. -/
theorem tokenInstruction_eq_ok_iff {config : PayConfig} {token : TokenInfo}
    {sender recipient : Address} {a : Amount} {i : Instruction} :
    tokenInstruction config token sender recipient a = .ok i ↔
      a.units < 2 ^ 64 ∧ i = tokenTransfer config (config.addressOf token.program) token.mint
        token.decimals sender recipient a [] := by
  refine Amount.instruction_eq_ok_iff.trans (and_congr_right fun hlt => ?_)
  rw [tokenData, littleEndian_ofNat hlt]
  rfl

/-- A native transfer is refused exactly for an amount that the ledger cannot carry. -/
theorem nativeInstruction_eq_error_iff {config : PayConfig} {sender recipient : Address}
    {a : Amount} {e : PayError} :
    nativeInstruction config sender recipient a = .error e ↔ a.obstacle = some e :=
  Amount.instruction_eq_error_iff

/-- A token transfer is refused exactly for an amount that the ledger cannot carry. -/
theorem tokenInstruction_eq_error_iff {config : PayConfig} {token : TokenInfo}
    {sender recipient : Address} {a : Amount} {e : PayError} :
    tokenInstruction config token sender recipient a = .error e ↔ a.obstacle = some e :=
  Amount.instruction_eq_error_iff

end Transfer

end PayLink
