import PayLink.Proofs.Amount
import PayLink.Proofs.Link.Parameters
import PayLink.Proofs.Link.Scheme
import PayLink.Proofs.Transfer.Build
/-!
# What a link pays

The amount of a link is scaled by the decimal places that the configuration has for the token, and
what is paid is stated together with the decimal places that the mint has. The payment is worth what
the link says if the two agree.
-/

namespace PayLink.Transfer

open Decimal (valueOf)
open Link (amountKey)
open Link.Transaction (firstText)

/-- The number that bytes denote, the least significant first. -/
def ofLittleEndian : List UInt8 → Nat
  | [] => 0
  | b :: bs => b.toNat + 256 * ofLittleEndian bs

/-- The bytes of a number denote it, if there are enough of them. -/
theorem ofLittleEndian_littleEndian (count n : Nat) :
    ofLittleEndian (littleEndian count n) = n % 256 ^ count := by
  induction count generalizing n with
  | zero => rw [littleEndian, ofLittleEndian, Nat.pow_zero, Nat.mod_one]
  | succ count ih =>
    have hsplit : n % (256 * 256 ^ count) = n % 256 + 256 * (n / 256 % 256 ^ count) :=
      Nat.mod_mul
    rw [littleEndian, ofLittleEndian, ih, Nat.pow_succ', hsplit]
    rfl

/-- The number of minor units that a token transfer states. -/
def statedUnits (i : Instruction) : Nat :=
  ofLittleEndian ((i.data.drop 1).take 8)

/-- The decimal places that a token transfer states. -/
def statedDecimals (i : Instruction) : UInt8 :=
  i.data.getD 9 0

section TokenTransfer

variable (config : PayConfig) (program mint : Address) (decimals : UInt8)
  (sender recipient : Address) (a : Amount) (references : List Address)

/-- A token transfer states the amount that it pays. -/
theorem statedUnits_tokenTransfer (h : a.units < 2 ^ 64) :
    statedUnits (tokenTransfer config program mint decimals sender recipient a references) =
      a.units := by
  have hdata : (([12] ++ amountBytes a ++ [decimals]).drop 1).take 8 = amountBytes a := by
    rw [List.append_assoc, List.singleton_append, List.drop_one, List.tail_cons]
    exact List.take_left' (length_amountBytes a)
  rw [statedUnits, tokenTransfer, hdata, amountBytes, ← littleEndian_eq,
    ofLittleEndian_littleEndian]
  exact Nat.mod_eq_of_lt h

/-- A token transfer states the decimal places that it is made with. -/
theorem statedDecimals_tokenTransfer :
    statedDecimals (tokenTransfer config program mint decimals sender recipient a references) =
      decimals := by
  have hlength : ([12] ++ amountBytes a).length = 9 := by
    rw [List.length_append, length_amountBytes]
    rfl
  rw [statedDecimals, tokenTransfer, List.getD_eq_getElem?_getD,
    List.getElem?_append_right (Nat.le_of_eq hlength), hlength]
  rfl

end TokenTransfer

/-- Scaled by two numbers of decimal places, a number is the same only if it is zero or they are. -/
theorem scaled_eq_scaled_iff {v : ℚ} {m n : UInt8} :
    v * 10 ^ m.toNat = v * 10 ^ n.toNat ↔ v = 0 ∨ n = m := by
  rw [mul_eq_mul_left_iff, or_comm, pow_right_inj₀ (by norm_num) (by norm_num),
    UInt8.toNat_inj, eq_comm (a := n)]

/-- The amount of a transfer that is read is the first amount of the link, scaled by the decimal
places that the configuration has for the token. -/
theorem amount_of_decode {config : PayConfig} {uri s : String} {u : Url} {r : TransferRequest}
    (hparse : Url.parse uri = .ok u) (hs : firstText amountKey u.pairs = some s)
    (hdecode : Link.decode uri config = .ok (.transfer r)) :
    ∃ a, r.amount = some a ∧
      (a.units : ℚ) = valueOf s.toList * 10 ^ (config.decimalsFor r.token).toNat := by
  obtain ⟨-, path, -, -, hpairs⟩ := Link.ofPairs_of_decode hparse hdecode
  obtain ⟨-, hamount, -⟩ := Link.Transfer.ofPairs_eq_ok_iff.1 hpairs
  rw [hs, Link.Transfer.readAmount] at hamount
  obtain ⟨a, ha, he⟩ := map_eq_ok_iff.1 hamount
  exact ⟨a, he.symm, Amount.units_of_parse ha⟩

/-- A token transfer that is built for a link states the amount of the link, scaled by the decimal
places that the configuration has for the token, and the decimal places of the mint. It is worth what
the link says exactly if the link says nothing or those decimal places are the same. -/
theorem scale_of_paid_amount {config : PayConfig} {ledger : Ledger} {sender mint : Address}
    {uri s : String} {u : Url} {r : TransferRequest} {skeleton : Skeleton}
    (hparse : Url.parse uri = .ok u) (hs : firstText amountKey u.pairs = some s)
    (hdecode : Link.decode uri config = .ok (.transfer r)) (htoken : r.token = some mint)
    (hbuild : (build config ledger sender r).result = .ok skeleton) :
    ∃ transfer account program,
      skeleton.instructions.getLast? = some transfer ∧
      ledger.Holds mint account ∧
      Mint.IsInitialized config account program (statedDecimals transfer) ∧
      (statedUnits transfer : ℚ) =
        valueOf s.toList * 10 ^ (config.decimalsFor (some mint)).toNat ∧
      ((statedUnits transfer : ℚ) = valueOf s.toList * 10 ^ (statedDecimals transfer).toNat ↔
        valueOf s.toList = 0 ∨ statedDecimals transfer = config.decimalsFor (some mint)) := by
  obtain ⟨a, hamount, hunits⟩ := amount_of_decode hparse hs hdecode
  obtain ⟨a', transfer, anchor, hamount', hlt, -, hpays, -, rfl⟩ := result_build_eq_ok_iff.1 hbuild
  obtain rfl := Option.some.inj (hamount.symm.trans hamount')
  cases hpays with
  | native hnone =>
    rw [hnone] at htoken
    cases htoken
  | token hmint hholds hinitialized =>
    rename_i mint' account program decimals
    obtain rfl := Option.some.inj (hmint.symm.trans htoken)
    refine ⟨_, account, program, List.getLast?_concat, hholds, ?_, ?_, ?_⟩
    · rw [statedDecimals_tokenTransfer]
      exact hinitialized
    · rw [statedUnits_tokenTransfer _ _ _ _ _ _ _ _ hlt, hunits, hmint]
    · rw [statedUnits_tokenTransfer _ _ _ _ _ _ _ _ hlt, statedDecimals_tokenTransfer, hunits,
        hmint]
      exact scaled_eq_scaled_iff

/-- A link for one and a half tokens of a mint that no configuration knows by default. -/
def tokenLink : String :=
  "trezoa:11111111111111111111111111111112?amount=1.5&tpl-token=11111111111111111111111111111113"

/-- The transfer that the link asks for. -/
def tokenRequest : TransferRequest :=
  { recipient := numbered 1
    amount := Amount.ofNat? 1500000000
    token := some (numbered 2) }

/-- The link, taken apart. -/
theorem parse_tokenLink :
    Url.parse tokenLink = .ok
      { scheme := "trezoa".toList
        authority := none
        path := .rootless "11111111111111111111111111111112".toList
        query := some "amount=1.5&tpl-token=11111111111111111111111111111113".toList
        fragment := none } := by
  decide +kernel

/-- The link asks for that transfer. -/
theorem decode_tokenLink : Link.decode tokenLink {} = .ok (.transfer tokenRequest) := by
  decide +kernel

/-- The request of the link is built on the ledger of six decimal places. -/
theorem build_tokenRequest :
    ∃ skeleton, (build {} sixPlaces (numbered 3) tokenRequest).result = .ok skeleton ∧
      skeleton.instructions.getLast? = some (tokenTransfer {} Networks.tokenProgram (numbered 2) 6
        (numbered 3) (numbered 1) ⟨1500000000, by decide⟩ []) := by
  exact ⟨_, result_build_eq_ok_iff.2
    ⟨_, _, _, rfl, by decide, ⟨_, rfl⟩, .token rfl rfl isInitialized_sixPlaceMint, rfl,
      rfl⟩, List.getLast?_concat⟩

/-- Of a mint that is not known, another number of tokens may be paid than the link says: the link
says one and a half, and as the mint has six decimal places, 1500 are paid. -/
theorem paid_amount_of_unknown_token :
    ∃ u skeleton transfer,
      Url.parse tokenLink = .ok u ∧ firstText amountKey u.pairs = some "1.5" ∧
      Link.decode tokenLink {} = .ok (.transfer tokenRequest) ∧
      (build {} sixPlaces (numbered 3) tokenRequest).result = .ok skeleton ∧
      skeleton.instructions.getLast? = some transfer ∧
      statedUnits transfer = 1500000000 ∧ statedDecimals transfer = 6 ∧
      (statedUnits transfer : ℚ) ≠
        valueOf "1.5".toList * 10 ^ (statedDecimals transfer).toNat := by
  obtain ⟨skeleton, hbuild, hlast⟩ := build_tokenRequest
  refine ⟨_, skeleton, _, parse_tokenLink, by decide +kernel, decode_tokenLink, hbuild, hlast,
    statedUnits_tokenTransfer _ _ _ _ _ _ _ _ (by decide), statedDecimals_tokenTransfer .., ?_⟩
  have hvalue : valueOf "1.5".toList = 15 / 10 ^ 1 := rfl
  have hplaces : (6 : UInt8).toNat = 6 := rfl
  rw [statedUnits_tokenTransfer _ _ _ _ _ _ _ _ (by decide), statedDecimals_tokenTransfer, hvalue,
    hplaces]
  norm_num

/-- The link of one and a half tokens pays 1.5 · 10⁹ minor units, whatever the mint says. -/
theorem scale_of_paid_amount_tokenLink :
    ∃ skeleton transfer,
      (build {} sixPlaces (numbered 3) tokenRequest).result = .ok skeleton ∧
      skeleton.instructions.getLast? = some transfer ∧
      (statedUnits transfer : ℚ) = valueOf "1.5".toList * 10 ^ Networks.nativeDecimals.toNat := by
  obtain ⟨skeleton, hbuild, -⟩ := build_tokenRequest
  obtain ⟨transfer, -, -, hlast, -, -, hunits, -⟩ :=
    scale_of_paid_amount parse_tokenLink (s := "1.5") (by decide +kernel) decode_tokenLink rfl
      hbuild
  exact ⟨skeleton, transfer, hbuild, hlast, hunits⟩

end PayLink.Transfer
