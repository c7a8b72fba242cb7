import PayLink.Proofs.Transfer.Build
/-!
# What stands in the way of a transfer

A transfer is refused for the first of six obstacles, in a fixed order, however many of them there are
at once. All but the last are checked before the most recent block is looked up, so that lookup is
never made for a transfer that has already failed. The two accounts are looked up once each, the
sender first, and the second one not at all if the sender's lookup fails at once.
-/

namespace PayLink.Transfer

/-- The account that is looked up together with the sender's: the mint of the token, and without one
the recipient. -/
def other (r : TransferRequest) : Address :=
  r.token.getD r.recipient

/-- For the plan of a request this is the account that is looked up. -/
theorem counterpart_planOf (r : TransferRequest) (a : Amount) :
    counterpart (planOf r a) = other r := by
  rw [planOf, other]
  cases r.token with
  | none => rfl
  | some mint => rfl

/-- The first of the obstacles that are there. -/
def firstOf (obstacles : List (Option PayError)) : Option PayError :=
  obstacles.findSome? id

/-- The first obstacle counts, if it is there. -/
@[simp] theorem firstOf_some_cons (e : PayError) (os : List (Option PayError)) :
    firstOf (some e :: os) = some e := by
  rw [firstOf, List.findSome?_cons, id_eq]

/-- An obstacle that is not there does not count. -/
@[simp] theorem firstOf_none_cons (os : List (Option PayError)) :
    firstOf (none :: os) = firstOf os := rfl

/-- A single obstacle is the first, if it is there. -/
@[simp] theorem firstOf_singleton (o : Option PayError) : firstOf [o] = o := by
  cases o with
  | none => rfl
  | some e => rfl

/-- The first obstacle of two lists is that of the first list, if it has one. -/
theorem firstOf_append (os more : List (Option PayError)) :
    firstOf (os ++ more) = (firstOf os).or (firstOf more) :=
  List.findSome?_append

/-- Of obstacles none of which is there, there is no first. -/
theorem firstOf_eq_none_iff {os : List (Option PayError)} :
    firstOf os = none ↔ ∀ o ∈ os, o = none :=
  List.findSome?_eq_none_iff

/-- A request without an amount cannot be built. -/
def amountObstacle (r : TransferRequest) : Option PayError :=
  if r.amount.isNone then
    some (.invalidAmount ("transfer to " ++ r.recipient.text ++ " has no amount"))
  else none

/-- A sender that is not found cannot pay. -/
def senderObstacle (sender : Address) (found : Option Account) : Option PayError :=
  if found.isNone then some (.senderNotFound sender) else none

/-- A recipient that is not found cannot be paid the native asset, and a token needs its mint. -/
def otherObstacle (config : PayConfig) (r : TransferRequest) (found : Option Account) :
    Option PayError :=
  match r.token with
  | none => if found.isNone then some (.recipientNotFound r.recipient) else none
  | some mint => Mint.obstacle config mint found

/-- A token transfer is refused for its mint, and otherwise for its amount. -/
theorem tokenInstruction_ofAccount_eq_error_iff {config : PayConfig}
    {mint sender recipient : Address} {a : Amount} {found : Option Account} {e : PayError} :
    (Mint.ofAccount config mint found >>= fun token =>
        tokenInstruction config token sender recipient a) = .error e ↔
      firstOf [Mint.obstacle config mint found, a.obstacle] = some e := by
  rw [bind_eq_error_iff]
  simp only [Mint.ofAccount_eq_error_iff, tokenInstruction_eq_error_iff]
  cases hmint : Mint.ofAccount config mint found with
  | error refusal =>
    rw [Mint.ofAccount_eq_error_iff.1 hmint]
    simp
  | ok token =>
    have hnone : Mint.obstacle config mint found = none :=
      (exists_eq_ok_iff fun _ => Mint.ofAccount_eq_error_iff).1 ⟨token, hmint⟩
    rw [hnone]
    simp

/-- The transfer instruction is refused for the first obstacle among the accounts that are found and
the amount. -/
theorem transferOf_eq_error_iff {config : PayConfig} {sender : Address} {r : TransferRequest}
    {a : Amount} {found : Option Account × Option Account} {e : PayError} :
    transferOf config sender (planOf r a) found = .error e ↔
      firstOf [senderObstacle sender found.1, otherObstacle config r found.2, a.obstacle] =
        some e := by
  have hasset : (planOf r a).asset = .ofToken r.token := rfl
  obtain ⟨first, second⟩ := found
  cases first with
  | none => simp [transferOf, senderObstacle]
  | some senderAccount =>
    have hsender : senderObstacle sender (some senderAccount) = none := rfl
    unfold transferOf
    rw [hasset, hsender, firstOf_none_cons]
    cases htoken : r.token with
    | none =>
      cases second with
      | none => simp [Asset.ofToken, otherObstacle, htoken, planOf]
      | some account =>
        simp [Asset.ofToken, otherObstacle, htoken, planOf, nativeInstruction_eq_error_iff]
    | some mint =>
      rw [otherObstacle, htoken]
      exact tokenInstruction_ofAccount_eq_error_iff

/-- The ledger has no recent block to offer. -/
def anchorObstacle (ledger : Ledger) : Option PayError :=
  match ledger.anchor.outcome with
  | .error fault => some (.ledger fault)
  | .ok _ => none

/-- What can stand in the way of a transfer before the most recent block is looked up, in the order in
which it counts: there is no amount, an account is not looked up, the sender does not exist, the
recipient does not exist or the mint cannot be used, the ledger cannot carry the amount. -/
def earlyObstacles (config : PayConfig) (ledger : Ledger) (sender : Address)
    (r : TransferRequest) : List (Option PayError) :=
  [amountObstacle r,
    ((ledger.account sender).firstFault? (ledger.account (other r))).map .ledger,
    (ledger.account sender).outcome.toOption.bind (senderObstacle sender),
    (ledger.account (other r)).outcome.toOption.bind (otherObstacle config r),
    r.amount.bind Amount.obstacle]

/-- What can stand in the way of a transfer. -/
def obstacles (config : PayConfig) (ledger : Ledger) (sender : Address) (r : TransferRequest) :
    List (Option PayError) :=
  earlyObstacles config ledger sender r ++ [anchorObstacle ledger]

/-- The lookups for a transfer: none without an amount; only the sender if that lookup fails at once;
otherwise the two accounts, and the most recent block if nothing has stood in the way by then. -/
def lookups (config : PayConfig) (ledger : Ledger) (sender : Address) (r : TransferRequest) :
    List LookupKey :=
  if r.amount.isNone then []
  else if (ledger.account sender).failsAtOnce then [.account sender]
  else [.account sender, .account (other r)] ++
    if (firstOf (earlyObstacles config ledger sender r)).isNone then [.anchor] else []

variable {config : PayConfig} {ledger : Ledger} {sender : Address} {r : TransferRequest}
  {e : PayError}

/-- The transfer instruction for the amount `a` of a request, once both accounts are looked up. -/
def prepared (config : PayConfig) (ledger : Ledger) (sender : Address) (r : TransferRequest)
    (a : Amount) : Reading Instruction :=
  (ledger.readAccounts sender (other r)).andThen fun found =>
    .ofResult (transferOf config sender (planOf r a) found)

/-- A transfer instruction is refused for the first early obstacle. -/
theorem result_prepared_eq_error_iff {a : Amount} (hamount : r.amount = some a) :
    (prepared config ledger sender r a).result = .error e ↔
      firstOf (earlyObstacles config ledger sender r) = some e := by
  rw [prepared, Reading.result_andThen_eq_error_iff]
  simp only [Ledger.result_readAccounts_eq_error_iff, Ledger.result_readAccounts_eq_ok_iff,
    Reading.ofResult, transferOf_eq_error_iff, earlyObstacles, amountObstacle, hamount]
  cases hs : (ledger.account sender).outcome with
  | error fault =>
    cases ho : (ledger.account (other r)).outcome with
    | error fault' => simp [Lookup.firstFault?, hs, ho]
    | ok found' => simp [Lookup.firstFault?, hs, ho]
  | ok found =>
    cases ho : (ledger.account (other r)).outcome with
    | error fault' => simp [Lookup.firstFault?, hs, ho]
    | ok found' => simp [Lookup.firstFault?, hs, ho, Except.toOption]

/-- Only the two accounts are looked up for a transfer instruction. -/
theorem started_prepared (config : PayConfig) (ledger : Ledger) (sender : Address)
    (r : TransferRequest) (a : Amount) :
    (prepared config ledger sender r a).started =
      if (ledger.account sender).failsAtOnce then [.account sender]
      else [.account sender, .account (other r)] := by
  rw [← Ledger.started_readAccounts_eq, prepared]
  cases hfound : (ledger.readAccounts sender (other r)).result with
  | error e => rw [Reading.andThen_of_error hfound]
  | ok found =>
    rw [Reading.andThen_of_ok hfound]
    exact List.append_nil _

/-- Once there is a transfer instruction, the most recent block is looked up and the transaction is
finished. -/
theorem build_eq_prepared {a : Amount} (hamount : r.amount = some a) :
    build config ledger sender r = (prepared config ledger sender r a).andThen fun transfer =>
      ⟨(ledger.anchor.outcome.mapError .ledger).map fun anchor =>
        ⟨version, anchor, instructionsOf config (planOf r a) transfer⟩, [.anchor]⟩ := by
  have hlast : ∀ transfer, (ledger.readAnchor.andThen fun anchor =>
      Reading.ofResult (((Draft.withLifetime { version := version } anchor).append
        (instructionsOf config (planOf r a) transfer)).finish)) =
      ⟨(ledger.anchor.outcome.mapError .ledger).map fun anchor =>
        ⟨version, anchor, instructionsOf config (planOf r a) transfer⟩, [.anchor]⟩ := by
    intro transfer
    simp only [finish_draft, Ledger.readAnchor_eq]
    cases ledger.anchor.outcome with
    | error fault => rfl
    | ok anchor => rfl
  rw [build_eq_buildPlan hamount, buildPlan, prepared, counterpart_planOf, Reading.andThen_assoc]
  simp only [hlast]

/-- There is a transfer instruction exactly if there is no early obstacle. -/
theorem exists_prepared_iff {a : Amount} (hamount : r.amount = some a) :
    (∃ transfer, (prepared config ledger sender r a).result = .ok transfer) ↔
      firstOf (earlyObstacles config ledger sender r) = none :=
  exists_eq_ok_iff fun _ => result_prepared_eq_error_iff hamount

/-- The most recent block is refused only by the ledger. -/
theorem mapError_anchor_eq_error_iff {f : LifetimeAnchor → Skeleton} :
    (ledger.anchor.outcome.mapError PayError.ledger).map f = .error e ↔
      anchorObstacle ledger = some e := by
  rw [anchorObstacle]
  cases ledger.anchor.outcome with
  | error fault => simp [Except.mapError, Except.map]
  | ok anchor => simp [Except.mapError, Except.map]

/-- The transaction is refused for the first obstacle. -/
theorem result_build_eq_error_iff :
    (build config ledger sender r).result = .error e ↔
      firstOf (obstacles config ledger sender r) = some e := by
  cases hamount : r.amount with
  | none =>
    rw [build_of_amount_eq_none hamount]
    simp [Reading.ofResult, obstacles, earlyObstacles, amountObstacle, hamount]
  | some a =>
    rw [build_eq_prepared hamount, Reading.result_andThen_eq_error_iff,
      result_prepared_eq_error_iff hamount, obstacles, firstOf_append, Option.or_eq_some_iff,
      firstOf_singleton, ← exists_prepared_iff hamount]
    simp only [mapError_anchor_eq_error_iff, exists_and_right]

/-- The sender's lookup does not fail at once if there is no early obstacle. -/
theorem failsAtOnce_eq_false (h : firstOf (earlyObstacles config ledger sender r) = none) :
    (ledger.account sender).failsAtOnce = false := by
  have hfault := firstOf_eq_none_iff.1 h _ (List.mem_cons_of_mem _ List.mem_cons_self)
  rw [Option.map_eq_none_iff] at hfault
  exact eq_false_of_ne_true fun hfails => Lookup.firstFault?_ne_none hfails _ hfault

/-- The lookups are made in their order, and each only if those before it came to what it needs. -/
theorem started_build_eq (config : PayConfig) (ledger : Ledger) (sender : Address)
    (r : TransferRequest) :
    (build config ledger sender r).started = lookups config ledger sender r := by
  cases hamount : r.amount with
  | none =>
    rw [lookups, hamount, build_of_amount_eq_none hamount]
    rfl
  | some a =>
    rw [lookups, hamount, build_eq_prepared hamount]
    cases hprepared : (prepared config ledger sender r a).result with
    | error e =>
      have hobstacle := (result_prepared_eq_error_iff hamount).1 hprepared
      rw [Reading.andThen_of_error hprepared, started_prepared, hobstacle]
      rfl
    | ok transfer =>
      have hnone := (exists_prepared_iff hamount).1 ⟨transfer, hprepared⟩
      rw [Reading.andThen_of_ok hprepared, started_prepared, hnone, failsAtOnce_eq_false hnone]
      rfl

/-- A request that no early obstacle stands in the way of has an amount. -/
theorem isNone_amount_eq_false (h : firstOf (earlyObstacles config ledger sender r) = none) :
    r.amount.isNone = false := by
  have hamount := firstOf_eq_none_iff.1 h _ List.mem_cons_self
  refine eq_false_of_ne_true fun hnone => ?_
  rw [amountObstacle, if_pos hnone] at hamount
  cases hamount

/-- The most recent block is looked up exactly if there is no early obstacle. -/
theorem anchor_mem_lookups_iff :
    .anchor ∈ lookups config ledger sender r ↔
      firstOf (earlyObstacles config ledger sender r) = none := by
  cases hfirst : firstOf (earlyObstacles config ledger sender r) with
  | none =>
    rw [lookups, isNone_amount_eq_false hfirst, failsAtOnce_eq_false hfirst, hfirst]
    simp
  | some e =>
    rw [lookups, hfirst]
    split
    · simp
    · split
      · simp
      · simp

/-- The lookups that are started for a transfer are a beginning of the sender, the other account and
the most recent block, each at most once, and the block only if nothing stands in the way. The
transfer is refused for the first of its obstacles, and built if there are none. -/
theorem lookups_and_refusal_of_build (config : PayConfig) (ledger : Ledger) (sender : Address)
    (r : TransferRequest) :
    (build config ledger sender r).started = lookups config ledger sender r ∧
    (build config ledger sender r).started <+:
      [.account sender, .account (other r), .anchor] ∧
    (.anchor ∈ (build config ledger sender r).started ↔
      firstOf (earlyObstacles config ledger sender r) = none) ∧
    ∀ e, (build config ledger sender r).result = .error e ↔
      firstOf (obstacles config ledger sender r) = some e := by
  rw [started_build_eq]
  refine ⟨rfl, ?_, anchor_mem_lookups_iff, fun e => result_build_eq_error_iff⟩
  unfold lookups
  split
  · exact List.nil_prefix
  · split
    · exact ⟨[.account (other r), .anchor], rfl⟩
    · split
      · exact List.prefix_rfl
      · exact ⟨[.anchor], rfl⟩

end PayLink.Transfer
