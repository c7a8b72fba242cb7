import PayLink.Proofs.Ledger
import PayLink.Proofs.Mint
import PayLink.Proofs.Transfer.Instruction
import PayLink.Transfer.Build
/-!
# Which transfers are built

A transfer is built exactly if the request has an amount that the ledger can carry, no lookup fails,
the sender exists, and so does the recipient or an initialized mint of the token. What is built is
the memo, if there is one, and one transfer instruction.
-/

namespace PayLink.Transfer

/-- The instruction that pays the amount `a` of a request, as the ledger has the accounts that
matter. -/
inductive Pays (config : PayConfig) (ledger : Ledger) (sender : Address) (r : TransferRequest)
    (a : Amount) : Instruction → Prop
  /-- The native asset goes to a recipient that exists. -/
  | native {account : Account} (asset : r.token = none)
      (recipient : ledger.Holds r.recipient account) :
      Pays config ledger sender r a (nativeTransfer config sender r.recipient a r.references)
  /-- A token goes through the program that owns its mint. -/
  | token {mint : Address} {account : Account} {program : TokenProgram} {decimals : UInt8}
      (asset : r.token = some mint) (holds : ledger.Holds mint account)
      (initialized : Mint.IsInitialized config account program decimals) :
      Pays config ledger sender r a
        (tokenTransfer config account.owner mint decimals sender r.recipient a r.references)

/-- The memo of a request, as the instruction that records its bytes. -/
def memoOf (config : PayConfig) (r : TransferRequest) : List Instruction :=
  match r.memo with
  | none => []
  | some memo =>
    if memo = "" then [] else [⟨config.memoProgram, [], Text.Utf8.encode memo.toList⟩]

/-- The transfer instruction is made exactly if both accounts are found, the ledger can carry the
amount, and the account of a token holds an initialized mint. -/
theorem transferOf_eq_ok_iff {config : PayConfig} {sender : Address} {plan : Plan}
    {found : Option Account × Option Account} {i : Instruction} :
    transferOf config sender plan found = .ok i ↔
      plan.amount.units < 2 ^ 64 ∧
      ∃ senderAccount account, found = (some senderAccount, some account) ∧
        ((plan.asset = .native ∧
            i = nativeTransfer config sender plan.recipient plan.amount []) ∨
          ∃ mint program decimals, plan.asset = .token mint ∧
            Mint.IsInitialized config account program decimals ∧
            i = tokenTransfer config account.owner mint decimals sender plan.recipient
              plan.amount []) := by
  obtain ⟨first, second⟩ := found
  constructor
  · intro h
    unfold transferOf at h
    cases first with
    | none => cases h
    | some senderAccount =>
      cases hasset : plan.asset with
      | native =>
        rw [hasset] at h
        cases second with
        | none => cases h
        | some account =>
          obtain ⟨hlt, hi⟩ := nativeInstruction_eq_ok_iff.1 h
          exact ⟨hlt, senderAccount, account, rfl, .inl ⟨rfl, hi⟩⟩
      | token mint =>
        rw [hasset] at h
        obtain ⟨token, htoken, hmade⟩ := bind_eq_ok_iff.1 h
        obtain ⟨account, rfl, rfl, hmint⟩ := Mint.ofAccount_eq_ok_iff.1 htoken
        obtain ⟨hlt, hi⟩ := tokenInstruction_eq_ok_iff.1 hmade
        rw [PayConfig.addressOf_tokenProgramOf? hmint.owner] at hi
        exact ⟨hlt, senderAccount, account, rfl,
          .inr ⟨token.mint, token.program, token.decimals, rfl, hmint, hi⟩⟩
  · rintro ⟨hlt, senderAccount, account, hfound, h⟩
    obtain ⟨rfl, rfl⟩ := Prod.mk.inj hfound
    unfold transferOf
    rcases h with ⟨hasset, rfl⟩ | ⟨mint, program, decimals, hasset, hmint, rfl⟩
    · rw [hasset]
      exact nativeInstruction_eq_ok_iff.2 ⟨hlt, rfl⟩
    · rw [hasset]
      refine bind_eq_ok_iff.2 ⟨⟨mint, decimals, program⟩, ?_, ?_⟩
      · exact Mint.ofAccount_eq_ok_iff.2 ⟨account, rfl, rfl, hmint⟩
      · refine tokenInstruction_eq_ok_iff.2 ⟨hlt, ?_⟩
        rw [PayConfig.addressOf_tokenProgramOf? hmint.owner]

/-- The memo of a plan is that of the request. -/
theorem toList_map_memoInstruction (config : PayConfig) (r : TransferRequest) :
    ((presentText r.memo).map (memoInstruction config)).toList = memoOf config r := by
  rw [memoOf]
  cases r.memo with
  | none => rfl
  | some memo =>
    by_cases h : memo = ""
    · rw [h]
      rfl
    · have hpresent : presentText (some memo) = some memo := by
        simpa [presentText] using h
      rw [hpresent]
      exact (if_neg h).symm

/-- The parts of a transaction are complete once there is a block. -/
theorem finish_draft (config : PayConfig) (plan : Plan) (anchor : LifetimeAnchor)
    (transfer : Instruction) :
    ((Draft.withLifetime { version := version } anchor).append
      (instructionsOf config plan transfer)).finish =
      .ok ⟨version, anchor, instructionsOf config plan transfer⟩ := by
  have hne : (instructionsOf config plan transfer).isEmpty = false := by
    simp [instructionsOf]
  simp only [Draft.finish, Draft.withLifetime, Draft.append, List.nil_append, hne]
  rfl

/-- A plan is built exactly if both accounts are found, the transfer instruction is made, and the
most recent block is found. -/
theorem result_buildPlan_eq_ok_iff {config : PayConfig} {ledger : Ledger} {sender : Address}
    {plan : Plan} {skeleton : Skeleton} :
    (buildPlan config ledger sender plan).result = .ok skeleton ↔
      ∃ found transfer anchor,
        (ledger.readAccounts sender (counterpart plan)).result = .ok found ∧
        transferOf config sender plan found = .ok transfer ∧
        ledger.anchor.outcome = .ok anchor ∧
        skeleton = ⟨version, anchor, instructionsOf config plan transfer⟩ := by
  simp only [buildPlan, Reading.result_andThen_eq_ok_iff, Reading.ofResult, finish_draft,
    Ledger.readAnchor_eq, mapError_eq_ok_iff]
  constructor
  · rintro ⟨found, hfound, transfer, htransfer, anchor, hanchor, hskeleton⟩
    exact ⟨found, transfer, anchor, hfound, htransfer, hanchor, (Except.ok.inj hskeleton).symm⟩
  · rintro ⟨found, transfer, anchor, hfound, htransfer, hanchor, rfl⟩
    exact ⟨found, hfound, transfer, htransfer, anchor, hanchor, rfl⟩

/-- The lookups for a plan whose transfer instruction is made: the two accounts, and then the most
recent block. -/
theorem started_buildPlan {config : PayConfig} {ledger : Ledger} {sender : Address} {plan : Plan}
    {found : Option Account × Option Account} {transfer : Instruction}
    (hfound : (ledger.readAccounts sender (counterpart plan)).result = .ok found)
    (htransfer : transferOf config sender plan found = .ok transfer) :
    (buildPlan config ledger sender plan).started =
      [.account sender, .account (counterpart plan), .anchor] := by
  have hmade : (Reading.ofResult (transferOf config sender plan found)).result = .ok transfer :=
    htransfer
  rw [buildPlan, Reading.andThen_of_ok hfound, Ledger.started_readAccounts hfound,
    Reading.andThen_of_ok hmade, Ledger.readAnchor_eq]
  cases hanchor : ledger.anchor.outcome with
  | error fault => rfl
  | ok anchor => rfl

/-- The plan of a request for the amount `a`. -/
def planOf (r : TransferRequest) (a : Amount) : Plan :=
  ⟨r.recipient, a, .ofToken r.token, r.references, presentText r.memo⟩

/-- A request with an amount is built as its plan is. -/
theorem build_eq_buildPlan {config : PayConfig} {ledger : Ledger} {sender : Address}
    {r : TransferRequest} {a : Amount} (h : r.amount = some a) :
    build config ledger sender r = buildPlan config ledger sender (planOf r a) := by
  have hplan : (Reading.ofResult (Plan.ofRequest r)).result = .ok (planOf r a) := by
    simp only [Reading.ofResult, Plan.ofRequest, h]
    rfl
  rw [build, Reading.andThen_of_ok hplan]
  rfl

/-- A request without an amount is refused before anything is looked up. -/
theorem build_of_amount_eq_none {config : PayConfig} {ledger : Ledger} {sender : Address}
    {r : TransferRequest} (h : r.amount = none) :
    build config ledger sender r = .ofResult (.error (.invalidAmount
      ("transfer to " ++ r.recipient.text ++ " has no amount"))) := by
  have hplan : (Reading.ofResult (Plan.ofRequest r)).result = .error (.invalidAmount
      ("transfer to " ++ r.recipient.text ++ " has no amount")) := by
    rw [Reading.ofResult, Plan.ofRequest, h]
  rw [build, Reading.andThen_of_error hplan]
  rfl

/-- Nothing is built for a request without an amount. -/
theorem amount_of_build {config : PayConfig} {ledger : Ledger} {sender : Address}
    {r : TransferRequest} {skeleton : Skeleton}
    (h : (build config ledger sender r).result = .ok skeleton) : ∃ a, r.amount = some a := by
  cases hamount : r.amount with
  | none =>
    rw [build_of_amount_eq_none hamount] at h
    cases h
  | some a => exact ⟨a, rfl⟩

/-- The accounts that are found allow a transfer instruction exactly if the ledger can carry the
amount, holds the sender, and holds what the instruction pays with. -/
theorem exists_transferOf_iff {config : PayConfig} {ledger : Ledger} {sender : Address}
    {r : TransferRequest} {a : Amount} {transfer : Instruction} :
    (∃ found i, (ledger.readAccounts sender (counterpart (planOf r a))).result = .ok found ∧
        transferOf config sender (planOf r a) found = .ok i ∧
        transfer = withReferences i r.references) ↔
      a.units < 2 ^ 64 ∧ (∃ account, ledger.Holds sender account) ∧
        Pays config ledger sender r a transfer := by
  simp only [Ledger.result_readAccounts_eq_ok_iff, transferOf_eq_ok_iff]
  constructor
  · rintro ⟨-, i, ⟨hsender, hother⟩, ⟨hlt, senderAccount, account, rfl, h⟩, rfl⟩
    refine ⟨hlt, ⟨senderAccount, hsender⟩, ?_⟩
    cases htoken : r.token with
    | none =>
      rcases h with ⟨-, rfl⟩ | ⟨_, _, _, hasset, -⟩
      · rw [planOf, htoken] at hother
        exact .native htoken hother
      · rw [planOf, htoken] at hasset
        cases hasset
    | some mint =>
      rcases h with ⟨hasset, -⟩ | ⟨_, program, decimals, hasset, hmint, rfl⟩
      · rw [planOf, htoken] at hasset
        cases hasset
      · rw [planOf, htoken] at hasset hother
        cases hasset
        exact .token htoken hother hmint
  · rintro ⟨hlt, ⟨senderAccount, hsender⟩, h⟩
    cases h with
    | native htoken hrecipient =>
      rename_i account
      refine ⟨(some senderAccount, some account), _, ⟨hsender, ?_⟩,
        ⟨hlt, senderAccount, account, rfl, .inl ⟨?_, rfl⟩⟩, rfl⟩
      · rw [planOf, htoken]
        exact hrecipient
      · rw [planOf, htoken]
        rfl
    | token htoken hholds hmint =>
      rename_i mint account program decimals
      refine ⟨(some senderAccount, some account), _, ⟨hsender, ?_⟩,
        ⟨hlt, senderAccount, account, rfl, .inr ⟨mint, program, decimals, ?_, hmint, rfl⟩⟩, rfl⟩
      · rw [planOf, htoken]
        exact hholds
      · rw [planOf, htoken]
        rfl

/-- The transaction of a request: it exists exactly if the ledger can carry the amount, holds the
accounts that matter and has a recent block, and it records the memo and pays once. -/
theorem result_build_eq_ok_iff {config : PayConfig} {ledger : Ledger} {sender : Address}
    {r : TransferRequest} {skeleton : Skeleton} :
    (build config ledger sender r).result = .ok skeleton ↔
      ∃ a transfer anchor, r.amount = some a ∧ a.units < 2 ^ 64 ∧
        (∃ account, ledger.Holds sender account) ∧
        Pays config ledger sender r a transfer ∧
        ledger.anchor.outcome = .ok anchor ∧
        skeleton = ⟨0, anchor, memoOf config r ++ [transfer]⟩ := by
  have hinstructions : ∀ a i, instructionsOf config (planOf r a) i =
      memoOf config r ++ [withReferences i r.references] := by
    intro a i
    rw [instructionsOf, planOf, toList_map_memoInstruction]
  constructor
  · intro h
    obtain ⟨a, hamount⟩ := amount_of_build h
    rw [build_eq_buildPlan hamount] at h
    obtain ⟨found, i, anchor, hfound, hi, hanchor, rfl⟩ := result_buildPlan_eq_ok_iff.1 h
    obtain ⟨hlt, hsender, hpays⟩ := exists_transferOf_iff.1 ⟨found, i, hfound, hi, rfl⟩
    exact ⟨a, _, anchor, hamount, hlt, hsender, hpays, hanchor, by rw [hinstructions]; rfl⟩
  · rintro ⟨a, transfer, anchor, hamount, hlt, hsender, hpays, hanchor, rfl⟩
    obtain ⟨found, i, hfound, hi, rfl⟩ := exists_transferOf_iff.2 ⟨hlt, hsender, hpays⟩
    rw [build_eq_buildPlan hamount, result_buildPlan_eq_ok_iff]
    exact ⟨found, i, anchor, hfound, hi, hanchor, by rw [hinstructions]; rfl⟩

/-- The lookups for a request that a transfer instruction can be made for: the two accounts that
matter, and then the most recent block. -/
theorem started_build {config : PayConfig} {ledger : Ledger} {sender : Address}
    {r : TransferRequest} {a : Amount} {transfer : Instruction} (hamount : r.amount = some a)
    (hlt : a.units < 2 ^ 64) (hsender : ∃ account, ledger.Holds sender account)
    (hpays : Pays config ledger sender r a transfer) :
    (build config ledger sender r).started =
      [.account sender, .account (counterpart (planOf r a)), .anchor] := by
  obtain ⟨found, i, hfound, hi, -⟩ := exists_transferOf_iff.2 ⟨hlt, hsender, hpays⟩
  rw [build_eq_buildPlan hamount, started_buildPlan hfound hi]

/-- What it takes for a request to be paid. -/
structure Payable (config : PayConfig) (ledger : Ledger) (sender : Address)
    (r : TransferRequest) : Prop where
  /-- There is an amount, and it fits in 64 bits. -/
  amount : ∃ a, r.amount = some a ∧ a.units < 2 ^ 64
  /-- None of the lookups that are made fails. -/
  lookups : ∀ key ∈ (build config ledger sender r).started, ¬ledger.Fails key
  /-- The sender exists. -/
  sender : ∃ account, ledger.Holds sender account
  /-- The recipient of the native asset exists, or the token's account holds an initialized mint. -/
  counterpart : (r.token = none ∧ ∃ account, ledger.Holds r.recipient account) ∨
    ∃ mint account program decimals, r.token = some mint ∧ ledger.Holds mint account ∧
      Mint.IsInitialized config account program decimals

/-- There is a transfer instruction if the recipient or the mint is as it has to be. -/
theorem exists_pays_iff {config : PayConfig} {ledger : Ledger} {sender : Address}
    {r : TransferRequest} {a : Amount} :
    (∃ transfer, Pays config ledger sender r a transfer) ↔
      (r.token = none ∧ ∃ account, ledger.Holds r.recipient account) ∨
        ∃ mint account program decimals, r.token = some mint ∧ ledger.Holds mint account ∧
          Mint.IsInitialized config account program decimals := by
  constructor
  · rintro ⟨transfer, h⟩
    cases h with
    | native htoken hrecipient => exact .inl ⟨htoken, _, hrecipient⟩
    | token htoken hholds hmint => exact .inr ⟨_, _, _, _, htoken, hholds, hmint⟩
  · rintro (⟨htoken, _, hrecipient⟩ | ⟨_, _, _, _, htoken, hholds, hmint⟩)
    · exact ⟨_, .native htoken hrecipient⟩
    · exact ⟨_, .token htoken hholds hmint⟩

/-- The account of the recipient or of the mint is found if a transfer instruction is made. -/
theorem holds_counterpart {config : PayConfig} {ledger : Ledger} {sender : Address}
    {r : TransferRequest} {a : Amount} {transfer : Instruction}
    (h : Pays config ledger sender r a transfer) :
    ∃ account, ledger.Holds (Transfer.counterpart (planOf r a)) account := by
  cases h with
  | native htoken hrecipient =>
    rw [planOf, htoken]
    exact ⟨_, hrecipient⟩
  | token htoken hholds hmint =>
    rw [planOf, htoken]
    exact ⟨_, hholds⟩

/-- A transaction is built exactly for a request that can be paid. It has version 0, the most recent
block of the ledger, the memo if there is one, and one instruction that pays. -/
theorem build_correct (config : PayConfig) (ledger : Ledger) (sender : Address)
    (r : TransferRequest) :
    ((∃ skeleton, (build config ledger sender r).result = .ok skeleton) ↔
      Payable config ledger sender r) ∧
    ∀ skeleton, (build config ledger sender r).result = .ok skeleton →
      ∃ a transfer, r.amount = some a ∧
        Pays config ledger sender r a transfer ∧
        skeleton.version = 0 ∧
        ledger.anchor.outcome = .ok skeleton.lifetime ∧
        skeleton.instructions = memoOf config r ++ [transfer] := by
  refine ⟨⟨?_, ?_⟩, ?_⟩
  · rintro ⟨skeleton, h⟩
    obtain ⟨a, transfer, anchor, hamount, hlt, hsender, hpays, hanchor, -⟩ :=
      result_build_eq_ok_iff.1 h
    refine ⟨⟨a, hamount, hlt⟩, ?_, hsender, exists_pays_iff.1 ⟨transfer, hpays⟩⟩
    obtain ⟨senderAccount, hfoundSender⟩ := hsender
    obtain ⟨account, hfound⟩ := holds_counterpart hpays
    rw [started_build hamount hlt ⟨senderAccount, hfoundSender⟩ hpays]
    intro key hkey hfails
    simp only [List.mem_cons, List.not_mem_nil, or_false] at hkey
    rcases hkey with rfl | rfl | rfl
    · obtain ⟨fault, hfault⟩ := hfails
      cases hfault.symm.trans hfoundSender
    · obtain ⟨fault, hfault⟩ := hfails
      cases hfault.symm.trans hfound
    · obtain ⟨fault, hfault⟩ := hfails
      cases hfault.symm.trans hanchor
  · intro h
    obtain ⟨a, hamount, hlt⟩ := h.amount
    obtain ⟨transfer, hpays⟩ := exists_pays_iff.2 h.counterpart
    cases hanchor : ledger.anchor.outcome with
    | ok anchor =>
      exact ⟨_, result_build_eq_ok_iff.2
        ⟨a, transfer, anchor, hamount, hlt, h.sender, hpays, hanchor, rfl⟩⟩
    | error fault =>
      have hmem : LookupKey.anchor ∈ (build config ledger sender r).started := by
        rw [started_build hamount hlt h.sender hpays]
        exact List.mem_cons_of_mem _ (List.mem_cons_of_mem _ (List.mem_singleton_self _))
      exact absurd ⟨fault, hanchor⟩ (h.lookups _ hmem)
  · intro skeleton h
    obtain ⟨a, transfer, anchor, hamount, -, -, hpays, hanchor, rfl⟩ :=
      result_build_eq_ok_iff.1 h
    exact ⟨a, transfer, hamount, hpays, rfl, hanchor, rfl⟩

/-- The address whose last byte is `n` and whose other bytes are zero. -/
def numbered (n : UInt8) : Address :=
  ⟨List.replicate 31 0 ++ [n], rfl⟩

/-- An account that holds a mint of six decimal places. -/
def sixPlaceMint : Account :=
  { owner := Networks.tokenProgram
    data := List.replicate 44 0 ++ [6, 1] ++ List.replicate 36 0
    executable := false
    balance := 0 }

/-- The mint is initialized and has six decimal places. -/
theorem isInitialized_sixPlaceMint : Mint.IsInitialized {} sixPlaceMint .legacy 6 :=
  ⟨by decide +kernel, by decide +kernel⟩

/-- A ledger on which every account is that mint. -/
def sixPlaces : Ledger where
  account _ := ⟨0, .ok (some sixPlaceMint)⟩
  anchor := ⟨0, .ok ⟨"11111111111111111111111111111111", 0⟩⟩

/-- No lookup fails on that ledger. -/
theorem not_fails_sixPlaces (key : LookupKey) : ¬sixPlaces.Fails key := by
  cases key with
  | account a =>
    rintro ⟨fault, hfault⟩
    cases hfault
  | anchor =>
    rintro ⟨fault, hfault⟩
    cases hfault

/-- Five units of a token, with an account to find the transfer by and a memo. -/
def tokenPayment : TransferRequest where
  recipient := numbered 1
  amount := Amount.ofNat? 5
  token := some (numbered 2)
  references := [numbered 4]
  memo := some "é"

/-- Five units of the native asset. -/
def nativePayment : TransferRequest where
  recipient := numbered 1
  amount := Amount.ofNat? 5

/-- Both payments are built. The token goes through the program that owns its mint, with the decimal
places of the mint and behind the bytes of the memo; the native asset goes straight to the
recipient. -/
theorem build_correct_of_both_assets :
    (∃ skeleton, (build {} sixPlaces (numbered 3) tokenPayment).result = .ok skeleton ∧
      skeleton.instructions = [⟨Networks.memoProgram, [], [0xC3, 0xA9]⟩,
        tokenTransfer {} Networks.tokenProgram (numbered 2) 6 (numbered 3) (numbered 1)
          ⟨5, by decide⟩ [numbered 4]]) ∧
    ∃ skeleton, (build {} sixPlaces (numbered 3) nativePayment).result = .ok skeleton ∧
      skeleton.instructions =
        [nativeTransfer {} (numbered 3) (numbered 1) ⟨5, by decide⟩ []] := by
  constructor
  · obtain ⟨hbuilt, hshape⟩ := build_correct {} sixPlaces (numbered 3) tokenPayment
    obtain ⟨skeleton, hskeleton⟩ := hbuilt.2
      { amount := ⟨_, rfl, by decide⟩
        lookups := fun key _ => not_fails_sixPlaces key
        sender := ⟨sixPlaceMint, rfl⟩
        counterpart := .inr
          ⟨numbered 2, sixPlaceMint, .legacy, 6, rfl, rfl, isInitialized_sixPlaceMint⟩ }
    obtain ⟨a, transfer, hamount, hpays, -, -, hinstructions⟩ := hshape skeleton hskeleton
    obtain rfl := Option.some.inj hamount
    refine ⟨skeleton, hskeleton, hinstructions.trans ?_⟩
    cases hpays with
    | native hnone => cases hnone
    | token hmint hholds hinitialized =>
      obtain rfl := Option.some.inj hmint
      obtain rfl := Option.some.inj (Except.ok.inj hholds)
      obtain ⟨rfl, rfl⟩ := isInitialized_sixPlaceMint.unique hinitialized
      rfl
  · obtain ⟨hbuilt, hshape⟩ := build_correct {} sixPlaces (numbered 3) nativePayment
    obtain ⟨skeleton, hskeleton⟩ := hbuilt.2
      { amount := ⟨_, rfl, by decide⟩
        lookups := fun key _ => not_fails_sixPlaces key
        sender := ⟨sixPlaceMint, rfl⟩
        counterpart := .inl ⟨rfl, sixPlaceMint, rfl⟩ }
    obtain ⟨a, transfer, hamount, hpays, -, -, hinstructions⟩ := hshape skeleton hskeleton
    obtain rfl := Option.some.inj hamount
    refine ⟨skeleton, hskeleton, hinstructions.trans ?_⟩
    cases hpays with
    | native hnone hrecipient => rfl
    | token hmint => cases hmint

end PayLink.Transfer
