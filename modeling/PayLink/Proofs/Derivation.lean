import PayLink.Proofs.Transfer.Instruction
/-!
# Derived addresses and their messages

A derived address is the hash of one message: that of the first counter, from 255 down, whose hash
is no point of the signature curve. Addresses have one length, so the parts of a message are found
in it again, and two derivations from as many seeds share a message only if they share everything.
Two token accounts with one address are therefore derived from the same addresses, or their messages
are different texts of one length with one hash.
-/

namespace PayLink

/-- Two different messages of one length that have one hash. -/
structure Sha256.IsCollision (message message' : List UInt8) : Prop where
  /-- They differ. -/
  ne : message ≠ message'
  /-- They are equally long. -/
  length_eq : message.length = message'.length
  /-- Their hashes are the same. -/
  hash_eq : Sha256.hash message = Sha256.hash message'

section Message

variable {seeds seeds' : List Address} {program program' : Address} {bump bump' : UInt8}

/-- Every seed takes as many bytes as an address has. -/
theorem length_flatMap_bytes (seeds : List Address) :
    (seeds.flatMap Address.bytes).length = addressSize * seeds.length := by
  induction seeds with
  | nil => rfl
  | cons a seeds ih =>
    rw [List.flatMap_cons, List.length_append, a.length_bytes, ih, List.length_cons, Nat.mul_succ,
      Nat.add_comm]

/-- As many seeds as there are have the same bytes only if they are the same. -/
theorem eq_of_flatMap_bytes (hlength : seeds.length = seeds'.length)
    (h : seeds.flatMap Address.bytes = seeds'.flatMap Address.bytes) : seeds = seeds' := by
  induction seeds generalizing seeds' with
  | nil => exact (List.eq_nil_of_length_eq_zero hlength.symm).symm
  | cons a seeds ih =>
    cases seeds' with
    | nil => cases hlength
    | cons b seeds' =>
      have hsize : a.bytes.length = b.bytes.length := a.length_bytes.trans b.length_bytes.symm
      obtain ⟨hfirst, hrest⟩ := List.append_inj h hsize
      rw [Address.eq_of_bytes hfirst, ih (Nat.succ.inj hlength) hrest]

/-- The mark has 21 bytes. -/
theorem length_derivationMark : derivationMark.length = 21 := by
  decide +kernel

/-- The length of a message depends on the number of its seeds alone. -/
theorem length_derivationMessage :
    (derivationMessage seeds program bump).length =
      addressSize * seeds.length + addressSize + 22 := by
  rw [derivationMessage, List.length_append, List.length_append, length_flatMap_bytes,
    List.length_cons, program.length_bytes, length_derivationMark]
  omega

/-- A message tells its seeds, its counter and its program, if it is known how many seeds it has. -/
theorem derivationMessage_inj (hlength : seeds.length = seeds'.length) :
    derivationMessage seeds program bump = derivationMessage seeds' program' bump' ↔
      seeds = seeds' ∧ program = program' ∧ bump = bump' := by
  constructor
  · intro h
    have hbody := List.append_cancel_right h
    have hsize : (seeds.flatMap Address.bytes).length = (seeds'.flatMap Address.bytes).length := by
      rw [length_flatMap_bytes, length_flatMap_bytes, hlength]
    obtain ⟨hseeds, htail⟩ := List.append_inj hbody hsize
    obtain ⟨hbump, hprogram⟩ := List.cons.inj htail
    exact ⟨eq_of_flatMap_bytes hlength hseeds, Address.eq_of_bytes hprogram, hbump⟩
  · rintro ⟨rfl, rfl, rfl⟩
    rfl

end Message

section Search

variable (seeds : List Address) (program : Address)

/-- Whether the hash at a counter is a point, so that the search goes on. -/
def isSkippedBump (bump : UInt8) : Bool :=
  Curve25519.isPoint (candidateAddress seeds program bump).bytes

/-- The counter at which the search from `bump` down ends. -/
def stopBump : (bump : Nat) → Nat
  | 0 => 0
  | bump + 1 =>
    if isSkippedBump seeds program (UInt8.ofNat (bump + 1)) then stopBump bump else bump + 1

/-- The counter at which the search ends. -/
def derivationBump : UInt8 :=
  UInt8.ofNat (stopBump seeds program 255)

/-- The search gives the address of the counter at which it ends. -/
theorem deriveFrom_eq (bump : Nat) :
    deriveFrom seeds program bump =
      candidateAddress seeds program (UInt8.ofNat (stopBump seeds program bump)) := by
  induction bump with
  | zero => rfl
  | succ bump ih =>
    rw [deriveFrom, stopBump, isSkippedBump]
    split
    · exact ih
    · rfl

/-- The search goes down. -/
theorem stopBump_le (bump : Nat) : stopBump seeds program bump ≤ bump := by
  induction bump with
  | zero => exact Nat.le_refl 0
  | succ bump ih =>
    rw [stopBump]
    split
    · exact Nat.le_succ_of_le ih
    · exact Nat.le_refl _

/-- All counters above the one at which the search ends are skipped. -/
theorem isSkippedBump_of_lt {bump n : Nat} (hlow : stopBump seeds program bump < n)
    (hhigh : n ≤ bump) : isSkippedBump seeds program (UInt8.ofNat n) = true := by
  induction bump with
  | zero => omega
  | succ bump ih =>
    rw [stopBump] at hlow
    split at hlow
    · rename_i hskipped
      by_cases hn : n = bump + 1
      · rw [hn]
        exact hskipped
      · exact ih hlow (by omega)
    · omega

/-- The search does not end at a counter that is skipped, unless that is zero. -/
theorem isSkippedBump_stopBump {bump : Nat} (h : stopBump seeds program bump ≠ 0) :
    isSkippedBump seeds program (UInt8.ofNat (stopBump seeds program bump)) = false := by
  induction bump with
  | zero => exact absurd rfl h
  | succ bump ih =>
    rw [stopBump] at h ⊢
    split
    · rename_i hskipped
      rw [if_pos hskipped] at h
      exact ih h
    · rename_i hkept
      exact eq_false_of_ne_true hkept

/-- The first counter from 255 down whose hash is no point of the curve. Zero is taken as it
comes. -/
structure IsFirstBump (bump : UInt8) : Prop where
  /-- The hashes of all counters above it are points. -/
  above : ∀ b, bump < b → isSkippedBump seeds program b = true
  /-- Its own hash is none. -/
  here : bump ≠ 0 → isSkippedBump seeds program bump = false

/-- The search ends at the first counter whose hash is no point. -/
theorem isFirstBump_derivationBump :
    IsFirstBump seeds program (derivationBump seeds program) := by
  have hle := stopBump_le seeds program 255
  have hbump : (derivationBump seeds program).toNat = stopBump seeds program 255 :=
    UInt8.toNat_ofNat_of_lt' (Nat.lt_succ_of_le hle)
  constructor
  · intro b hb
    have hlow : stopBump seeds program 255 < b.toNat := hbump ▸ UInt8.lt_iff_toNat_lt.1 hb
    have hskipped := isSkippedBump_of_lt seeds program hlow (Nat.le_of_lt_succ b.toNat_lt)
    rwa [UInt8.ofNat_toNat] at hskipped
  · intro hne
    refine isSkippedBump_stopBump seeds program fun hzero => hne ?_
    rw [derivationBump, hzero]
    rfl

/-- Only one counter is the first one. -/
theorem IsFirstBump.unique {seeds : List Address} {program : Address} {bump bump' : UInt8}
    (h : IsFirstBump seeds program bump) (h' : IsFirstBump seeds program bump') :
    bump = bump' := by
  have hle : ∀ {b b' : UInt8}, IsFirstBump seeds program b → IsFirstBump seeds program b' →
      ¬b < b' := by
    intro b b' hb hb' hlt
    have hne : b' ≠ 0 := by
      rintro rfl
      exact absurd (UInt8.lt_iff_toNat_lt.1 hlt) (Nat.not_lt_zero _)
    have hskipped := hb.above b' hlt
    rw [hb'.here hne] at hskipped
    cases hskipped
  exact UInt8.le_antisymm (UInt8.not_lt.1 (hle h' h)) (UInt8.not_lt.1 (hle h h'))

end Search

/-- The addresses from which the account of a token is derived. -/
structure TokenSeeds where
  /-- Whose account it is. -/
  owner : Address
  /-- The mint of the token. -/
  mint : Address
  /-- The program that keeps the mint. -/
  tokenProgram : Address
  /-- The program that derives the account. -/
  associatedTokenProgram : Address
  deriving DecidableEq

namespace TokenSeeds

/-- The account. -/
def address (s : TokenSeeds) : Address :=
  associatedTokenAddress s.owner s.mint s.tokenProgram s.associatedTokenProgram

/-- The addresses that are seeds, in order. -/
def seeds (s : TokenSeeds) : List Address :=
  [s.owner, s.tokenProgram, s.mint]

/-- The message at a counter. -/
def messageAt (s : TokenSeeds) (bump : UInt8) : List UInt8 :=
  derivationMessage s.seeds s.associatedTokenProgram bump

/-- The message whose hash is the account. -/
def message (s : TokenSeeds) : List UInt8 :=
  s.messageAt (derivationBump s.seeds s.associatedTokenProgram)

/-- The account is the hash of its message. -/
theorem bytes_address (s : TokenSeeds) : s.address.bytes = Sha256.hash s.message := by
  have hderive : s.address = deriveFrom s.seeds s.associatedTokenProgram 255 := rfl
  rw [hderive, deriveFrom_eq]
  rfl

/-- All messages are equally long. -/
theorem length_messageAt (s : TokenSeeds) (bump : UInt8) : (s.messageAt bump).length = 150 := by
  rw [messageAt, length_derivationMessage]
  rfl

/-- A message tells all four addresses and the counter. -/
theorem messageAt_inj {s s' : TokenSeeds} {bump bump' : UInt8} :
    s.messageAt bump = s'.messageAt bump' ↔ s = s' ∧ bump = bump' := by
  obtain ⟨owner, mint, tokenProgram, program⟩ := s
  obtain ⟨owner', mint', tokenProgram', program'⟩ := s'
  have hinj := @derivationMessage_inj [owner, tokenProgram, mint] [owner', tokenProgram', mint']
    program program' bump bump' rfl
  refine hinj.trans ?_
  simp only [List.cons.injEq, and_true, TokenSeeds.mk.injEq]
  constructor
  · rintro ⟨⟨howner, htoken, hmint⟩, hprogram, hbump⟩
    exact ⟨⟨howner, hmint, htoken, hprogram⟩, hbump⟩
  · rintro ⟨⟨howner, hmint, htoken, hprogram⟩, hbump⟩
    exact ⟨⟨howner, htoken, hmint⟩, hprogram, hbump⟩

/-- Two accounts are the same exactly if they are derived from the same addresses or their messages
are a collision. -/
theorem address_eq_iff {s s' : TokenSeeds} :
    s.address = s'.address ↔ s = s' ∨ Sha256.IsCollision s.message s'.message := by
  constructor
  · intro h
    by_cases hs : s = s'
    · exact .inl hs
    · have hhash : Sha256.hash s.message = Sha256.hash s'.message := by
        rw [← bytes_address, ← bytes_address, h]
      have hlength : s.message.length = s'.message.length := by
        rw [message, message, length_messageAt, length_messageAt]
      exact .inr ⟨fun he => hs (messageAt_inj.1 he).1, hlength, hhash⟩
  · rintro (rfl | hcollision)
    · rfl
    · apply Address.eq_of_bytes
      rw [bytes_address, bytes_address, hcollision.hash_eq]

/-- The addresses from which the account that holds a token for an owner is derived. -/
def ofHolding (config : PayConfig) (token : TokenInfo) (owner : Address) : TokenSeeds :=
  ⟨owner, token.mint, config.addressOf token.program, config.associatedTokenProgram⟩

end TokenSeeds

/-- What a token transfer takes from and what it pays into are the same account exactly if the
sender is the recipient or the messages of the two are a collision. -/
theorem Transfer.source_eq_destination_iff {config : PayConfig} {token : TokenInfo}
    {sender recipient : Address} :
    holding config token sender = holding config token recipient ↔
      sender = recipient ∨ Sha256.IsCollision (TokenSeeds.ofHolding config token sender).message
        (TokenSeeds.ofHolding config token recipient).message := by
  have haddress : ∀ owner,
      holding config token owner = (TokenSeeds.ofHolding config token owner).address :=
    fun _ => rfl
  rw [haddress, haddress, TokenSeeds.address_eq_iff, TokenSeeds.ofHolding, TokenSeeds.ofHolding,
    TokenSeeds.mk.injEq]
  simp only [and_true]

/-- Token accounts are told apart by all that they are derived from: the owner, the mint, the token
program and the program that derives them. Two of them with one address are derived from the same
four addresses, or the messages at the counters where the two searches end are a collision. So the
source and the destination of a token transfer are the same account only if it is paid to the
sender, or if there is a collision. -/
theorem associatedTokenAddress_separates :
    (∀ s s' : TokenSeeds,
      s.address = s'.address ↔ s = s' ∨ Sha256.IsCollision s.message s'.message) ∧
    (∀ (s s' : TokenSeeds) (bump bump' : UInt8),
      s.messageAt bump = s'.messageAt bump' ↔ s = s' ∧ bump = bump') ∧
    (∀ s : TokenSeeds, s.address.bytes = Sha256.hash s.message ∧ s.message.length = 150 ∧
      ∃ bump, s.message = s.messageAt bump ∧
        ∀ b, IsFirstBump s.seeds s.associatedTokenProgram b ↔ b = bump) ∧
    (∀ config token sender recipient amount instruction,
      Transfer.tokenInstruction config token sender recipient amount = .ok instruction →
      ∃ source destination,
        instruction.accounts = [⟨source, false, true⟩, ⟨token.mint, false, false⟩,
          ⟨destination, false, true⟩, ⟨sender, true, false⟩] ∧
        (source = destination ↔ sender = recipient ∨
          Sha256.IsCollision (TokenSeeds.ofHolding config token sender).message
            (TokenSeeds.ofHolding config token recipient).message)) := by
  refine ⟨fun _ _ => TokenSeeds.address_eq_iff, fun _ _ _ _ => TokenSeeds.messageAt_inj, ?_, ?_⟩
  · intro s
    have hfirst := isFirstBump_derivationBump s.seeds s.associatedTokenProgram
    refine ⟨s.bytes_address, s.length_messageAt _, _, rfl, fun b => ⟨fun hb => hb.unique hfirst, ?_⟩⟩
    rintro rfl
    exact hfirst
  · intro config token sender recipient amount instruction h
    obtain ⟨-, rfl⟩ := Transfer.tokenInstruction_eq_ok_iff.1 h
    exact ⟨_, _, rfl, Transfer.source_eq_destination_iff⟩

/-- A transfer between two owners takes from the account into which it pays only if there is a
collision. -/
theorem associatedTokenAddress_separates_owners :
    ∃ instruction source destination,
      Transfer.tokenInstruction {} ⟨Networks.memoProgram, 6, .legacy⟩ Networks.systemProgram
        Networks.tokenProgram ⟨1500000, by decide⟩ = .ok instruction ∧
      instruction.accounts = [⟨source, false, true⟩, ⟨Networks.memoProgram, false, false⟩,
        ⟨destination, false, true⟩, ⟨Networks.systemProgram, true, false⟩] ∧
      (source = destination → Sha256.IsCollision
        (TokenSeeds.ofHolding {} ⟨Networks.memoProgram, 6, .legacy⟩ Networks.systemProgram).message
        (TokenSeeds.ofHolding {} ⟨Networks.memoProgram, 6, .legacy⟩
          Networks.tokenProgram).message) := by
  have hmade : Transfer.tokenInstruction {} ⟨Networks.memoProgram, 6, .legacy⟩
      Networks.systemProgram Networks.tokenProgram ⟨1500000, by decide⟩ = .ok _ :=
    Transfer.tokenInstruction_eq_ok_iff.2 ⟨by decide, rfl⟩
  have howners : Networks.systemProgram ≠ Networks.tokenProgram := by decide +kernel
  obtain ⟨source, destination, haccounts, hsame⟩ :=
    associatedTokenAddress_separates.2.2.2 _ _ _ _ _ _ hmade
  exact ⟨_, source, destination, hmade, haccounts,
    fun he => (hsame.1 he).resolve_left howners⟩

end PayLink
