import PayLink.Proofs.Mint
/-!
# What makes an account a mint

The bytes of a mint, place by place: two tags, the decimal places, and whether it is initialized. An
account is read as a mint by its owner and these bytes alone. Under the program with extensions an
initialized mint must also be followed by what marks the extensions of a mint, while one that is not
initialized is recognized whatever follows it.
-/

namespace PayLink.Mint

/-- The four bytes from place `i` on say that something is there or that it is not. -/
structure HasTag (bs : List UInt8) (i : Nat) : Prop where
  /-- The first one is zero or one. -/
  first : bs[i]? = some 0 ∨ bs[i]? = some 1
  /-- The others are zero. -/
  rest : bs[i + 1]? = some 0 ∧ bs[i + 2]? = some 0 ∧ bs[i + 3]? = some 0

/-- The bytes are a mint without extensions. -/
structure IsBase (bs : List UInt8) (decimals : UInt8) (initialized : Bool) : Prop where
  /-- There are 82 of them. -/
  length_eq : bs.length = 82
  /-- They begin by saying whether there is someone who may mint. -/
  mintAuthority : HasTag bs 0
  /-- The decimal places stand at place 44. -/
  decimals_eq : bs[44]? = some decimals
  /-- Whether the mint is initialized stands at place 45. -/
  initialized_eq : bs[45]? = some (if initialized then 1 else 0)
  /-- Then they say whether there is someone who may freeze. -/
  freezeAuthority : HasTag bs 46

/-- The bytes go on behind the first 82 as those of a mint with extensions do. -/
structure IsExtended (bs : List UInt8) : Prop where
  /-- There is a byte at place 165. -/
  le_length : 166 ≤ bs.length
  /-- The account is not one that several keys control. -/
  noMultisig : bs.length ≠ 355
  /-- There are zeros up to place 165. -/
  zeros : ∀ i, 82 ≤ i → i < 165 → bs[i]? = some 0
  /-- The byte at place 165 marks a mint. -/
  mark : bs[165]? = some 1

/-- The account shows a mint of a token program, by its owner and its data. An owner that is both
programs is the one without extensions. -/
inductive Shows (config : PayConfig) (account : Account) : TokenProgram → UInt8 → Bool → Prop
  /-- A mint without extensions takes up all of the data. -/
  | legacy {decimals : UInt8} {initialized : Bool} (owner : account.owner = config.tokenProgram)
      (base : IsBase account.data decimals initialized) :
      Shows config account .legacy decimals initialized
  /-- What follows a mint that may have extensions counts only once it is initialized. -/
  | extended {decimals : UInt8} {initialized : Bool}
      (noLegacy : account.owner ≠ config.tokenProgram)
      (owner : account.owner = config.extendedTokenProgram)
      (base : IsBase (account.data.take 82) decimals initialized)
      (rest : initialized = true → account.data.length = 82 ∨ IsExtended account.data) :
      Shows config account .extended decimals initialized

/-- Four bytes are a tag place by place. -/
theorem isTag_take_iff (cs : List UInt8) :
    isTag (cs.take 4) = true ↔
      (cs[0]? = some 0 ∨ cs[0]? = some 1) ∧
        cs[1]? = some 0 ∧ cs[2]? = some 0 ∧ cs[3]? = some 0 := by
  rw [isTag, Bool.or_eq_true, decide_eq_true_eq, decide_eq_true_eq]
  rcases cs with - | ⟨a, - | ⟨b, - | ⟨c, - | ⟨d, rest⟩⟩⟩⟩
  · simp
  · simp
  · simp
  · simp
  · simp only [List.take_succ_cons, List.take_zero, List.getElem?_cons_zero,
      List.getElem?_cons_succ, List.cons.injEq, Option.some.injEq, and_true]
    exact or_and_right.symm

/-- The four bytes from a place on are a tag. -/
theorem isTag_take_drop_iff (bs : List UInt8) (i : Nat) :
    isTag ((bs.drop i).take 4) = true ↔ HasTag bs i := by
  rw [isTag_take_iff]
  simp only [List.getElem?_drop, Nat.add_zero]
  constructor
  · rintro ⟨hfirst, hrest⟩
    exact ⟨hfirst, hrest⟩
  · intro h
    exact ⟨h.first, h.rest⟩

/-- The bytes of a mint without extensions are read as that mint. -/
theorem ofBase?_eq_some_iff {bs : List UInt8} {decimals : UInt8} {initialized : Bool} :
    ofBase? bs = some ⟨decimals, initialized⟩ ↔ IsBase bs decimals initialized := by
  have hmint := isTag_take_drop_iff bs 0
  have hfreeze := isTag_take_drop_iff bs 46
  rw [List.drop_zero] at hmint
  have hbyte : ∀ b : UInt8, b ≤ 1 → (decide (b = 1) = initialized ↔
      b = if initialized then 1 else 0) := by
    intro b hb
    have hcases : b = 0 ∨ b = 1 := by
      have hle := UInt8.le_iff_toNat_le.1 hb
      have hone : (1 : UInt8).toNat = 1 := rfl
      rw [hone] at hle
      rcases Nat.le_one_iff_eq_zero_or_eq_one.1 hle with h0 | h1
      · exact .inl (UInt8.toNat_inj.1 h0)
      · exact .inr (UInt8.toNat_inj.1 h1)
    cases initialized with
    | false => rcases hcases with rfl | rfl <;> decide
    | true => rcases hcases with rfl | rfl <;> decide
  unfold ofBase?
  dsimp only
  rw [List.getD_eq_getElem?_getD, List.getD_eq_getElem?_getD]
  constructor
  · intro h
    split at h
    · rename_i hall
      obtain ⟨hlength, htag, htag', hle⟩ := hall
      have h44 : 44 < bs.length := by
        rw [hlength]
        decide
      have h45 : 45 < bs.length := by
        rw [hlength]
        decide
      rw [List.getElem?_eq_getElem h45, Option.getD_some] at hle
      rw [List.getElem?_eq_getElem h44, List.getElem?_eq_getElem h45, Option.getD_some,
        Option.getD_some, Option.some.injEq, Base.mk.injEq] at h
      exact
        { length_eq := hlength
          mintAuthority := hmint.1 htag
          decimals_eq := by rw [List.getElem?_eq_getElem h44, h.1]
          initialized_eq := by rw [List.getElem?_eq_getElem h45, ← (hbyte _ hle).1 h.2]
          freezeAuthority := hfreeze.1 htag' }
    · cases h
  · intro h
    have hle : (if initialized then 1 else 0 : UInt8) ≤ 1 := by
      cases initialized <;> decide
    rw [h.decimals_eq, h.initialized_eq, Option.getD_some, Option.getD_some,
      if_pos ⟨h.length_eq, hmint.2 h.mintAuthority, hfreeze.2 h.freezeAuthority, hle⟩,
      (hbyte _ hle).2 rfl]

/-- Bytes that pass a test from one place to another do so place by place. -/
theorem all_drop_take_iff {bs : List UInt8} {n : Nat} (h : n ≤ bs.length) (m : Nat) (b : UInt8) :
    ((bs.take n).drop m).all (· = b) = true ↔ ∀ i, m ≤ i → i < n → bs[i]? = some b := by
  rw [List.all_eq_true]
  constructor
  · intro hall i hm hn
    have hi : i < bs.length := Nat.lt_of_lt_of_le hn h
    have hmem : bs[i] ∈ (bs.take n).drop m := by
      refine List.mem_iff_getElem?.2 ⟨i - m, ?_⟩
      rw [List.getElem?_drop, Nat.add_sub_cancel' hm, List.getElem?_take_of_lt hn,
        List.getElem?_eq_getElem hi]
    rw [List.getElem?_eq_getElem hi, of_decide_eq_true (hall _ hmem)]
  · intro hall c hc
    obtain ⟨k, hk⟩ := List.mem_iff_getElem?.1 hc
    rw [List.getElem?_drop] at hk
    have hn : m + k < n := by
      refine Nat.lt_of_not_le fun hle => ?_
      rw [List.getElem?_take_eq_none hle] at hk
      cases hk
    rw [List.getElem?_take_of_lt hn, hall _ (Nat.le_add_right m k) hn] at hk
    exact decide_eq_true (Option.some.inj hk).symm

/-- What may follow a mint: nothing, or the extensions of a mint. -/
theorem isTail_iff {bs : List UInt8} :
    isTail bs = true ↔ bs.length = 82 ∨ IsExtended bs := by
  have hsizes : baseSize = 82 ∧ multisigSize = 355 ∧ kindOffset = 165 := ⟨rfl, rfl, rfl⟩
  rw [isTail, hsizes.1, hsizes.2.1, hsizes.2.2, Bool.or_eq_true, decide_eq_true_eq]
  refine or_congr_right ?_
  simp only [Bool.and_eq_true, decide_eq_true_eq, and_assoc]
  constructor
  · rintro ⟨hmultisig, hlength, hzeros, hmark⟩
    rw [List.getD_eq_getElem?_getD, List.getElem?_eq_getElem hlength, Option.getD_some] at hmark
    exact
      { le_length := hlength
        noMultisig := hmultisig
        zeros := (all_drop_take_iff (Nat.le_of_lt hlength) 82 0).1 hzeros
        mark := by rw [List.getElem?_eq_getElem hlength, hmark] }
  · intro h
    have hlength : 165 < bs.length := h.le_length
    refine ⟨h.noMultisig, hlength,
      (all_drop_take_iff (Nat.le_of_lt hlength) 82 0).2 h.zeros, ?_⟩
    rw [List.getD_eq_getElem?_getD, h.mark, Option.getD_some]

/-- The data of a mint that may have extensions. -/
theorem ofData?_extended_eq_some_iff {bs : List UInt8} {decimals : UInt8} {initialized : Bool} :
    ofData? .extended bs = some ⟨decimals, initialized⟩ ↔
      IsBase (bs.take 82) decimals initialized ∧
        (initialized = true → bs.length = 82 ∨ IsExtended bs) := by
  have hsize : baseSize = 82 := rfl
  rw [← ofBase?_eq_some_iff, ← isTail_iff, ofData?, hsize]
  cases ofBase? (bs.take 82) with
  | none => simp
  | some base =>
    simp only [Option.some.injEq]
    constructor
    · intro h
      split at h
      · cases h
      · rename_i hkept
        cases h
        refine ⟨rfl, fun hinit => ?_⟩
        simpa [hinit] using hkept
    · rintro ⟨rfl, htail⟩
      rw [if_neg]
      simp only [Bool.and_eq_true, Bool.not_eq_true', not_and, Bool.not_eq_false]
      exact htail

/-- An account shows a mint of a program exactly if the program owns it and its data is read as that
mint in the layout of the program. -/
theorem shows_iff {config : PayConfig} {account : Account} {program : TokenProgram}
    {decimals : UInt8} {initialized : Bool} :
    Shows config account program decimals initialized ↔
      config.tokenProgramOf? account.owner = some program ∧
        ofData? program account.data = some ⟨decimals, initialized⟩ := by
  rw [PayConfig.tokenProgramOf?]
  constructor
  · intro h
    cases h with
    | legacy howner hbase =>
      exact ⟨if_pos howner, ofBase?_eq_some_iff.2 hbase⟩
    | extended hno howner hbase hrest =>
      rw [if_neg hno, if_pos howner]
      exact ⟨rfl, ofData?_extended_eq_some_iff.2 ⟨hbase, hrest⟩⟩
  · rintro ⟨hprogram, hdata⟩
    split at hprogram
    · rename_i howner
      cases hprogram
      exact .legacy howner (ofBase?_eq_some_iff.1 hdata)
    · rename_i hno
      split at hprogram
      · rename_i howner
        cases hprogram
        obtain ⟨hbase, hrest⟩ := ofData?_extended_eq_some_iff.1 hdata
        exact .extended hno howner hbase hrest
      · cases hprogram

/-- An account shows one mint at most. -/
theorem Shows.unique {config : PayConfig} {account : Account} {program program' : TokenProgram}
    {decimals decimals' : UInt8} {initialized initialized' : Bool}
    (h : Shows config account program decimals initialized)
    (h' : Shows config account program' decimals' initialized') :
    program = program' ∧ decimals = decimals' ∧ initialized = initialized' := by
  obtain ⟨hprogram, hdata⟩ := shows_iff.1 h
  obtain ⟨hprogram', hdata'⟩ := shows_iff.1 h'
  obtain rfl := Option.some.inj (hprogram.symm.trans hprogram')
  obtain ⟨hdecimals, hinitialized⟩ := Base.mk.inj (Option.some.inj (hdata.symm.trans hdata'))
  exact ⟨rfl, hdecimals, hinitialized⟩

/-- What is read of an account is the mint that it shows. -/
theorem bind_ofData?_eq_some_iff {config : PayConfig} {found : Option Account} {decimals : UInt8}
    {initialized : Bool} :
    (found.bind fun account => (config.tokenProgramOf? account.owner).bind fun program =>
        ofData? program account.data) = some ⟨decimals, initialized⟩ ↔
      ∃ account program, found = some account ∧
        Shows config account program decimals initialized := by
  simp only [Option.bind_eq_some_iff, shows_iff]
  constructor
  · rintro ⟨account, hfound, program, hprogram, hdata⟩
    exact ⟨account, program, hfound, hprogram, hdata⟩
  · rintro ⟨account, program, hfound, hprogram, hdata⟩
    exact ⟨account, hfound, program, hprogram, hdata⟩

/-- An account is refused as not initialized exactly if it shows a mint that is not, and as no mint
exactly if it shows none. -/
theorem obstacle_eq_some_iff {config : PayConfig} {mint : Address} {found : Option Account}
    {e : PayError} :
    obstacle config mint found = some e ↔
      (e = .mintNotInitialized mint ∧ ∃ account program decimals, found = some account ∧
        Shows config account program decimals false) ∨
      (e = .mintNotFound mint ∧ ∀ account program decimals initialized, found = some account →
        ¬Shows config account program decimals initialized) := by
  have hshown := @bind_ofData?_eq_some_iff config found
  unfold obstacle
  dsimp only
  generalize (found.bind fun account => (config.tokenProgramOf? account.owner).bind fun program =>
    ofData? program account.data) = base at hshown ⊢
  rcases base with - | ⟨decimals, initialized⟩
  · have hnone : ∀ account program decimals initialized, found = some account →
        ¬Shows config account program decimals initialized := by
      intro account program decimals initialized hfound hshows
      cases hshown.2 ⟨account, program, hfound, hshows⟩
    constructor
    · intro h
      exact .inr ⟨(Option.some.inj h).symm, hnone⟩
    · rintro (⟨-, account, program, decimals, hfound, hshows⟩ | ⟨rfl, -⟩)
      · exact absurd hshows (hnone account program decimals false hfound)
      · rfl
  · obtain ⟨account, program, hfound, hshows⟩ := hshown.1 rfl
    cases initialized with
    | false =>
      constructor
      · intro h
        exact .inl ⟨(Option.some.inj h).symm, account, program, decimals, hfound, hshows⟩
      · rintro (⟨rfl, -⟩ | ⟨-, hnone⟩)
        · rfl
        · exact absurd hshows (hnone account program decimals false hfound)
    | true =>
      constructor
      · intro h
        cases h
      · rintro (⟨-, other, program', decimals', hother, hshows'⟩ | ⟨-, hnone⟩)
        · obtain rfl := Option.some.inj (hfound.symm.trans hother)
          cases (hshows.unique hshows').2.2
        · exact absurd hshows (hnone account program decimals true hfound)

/-- The bytes behind place 165 do not count, but how many there are does. -/
theorem ofData?_congr {program : TokenProgram} {bs bs' : List UInt8}
    (hlength : bs'.length = bs.length) (htake : bs'.take 166 = bs.take 166) :
    ofData? program bs' = ofData? program bs := by
  have hbefore : bs'.take 82 = bs.take 82 := by
    have hmin := congrArg (List.take 82) htake
    rwa [List.take_take, List.take_take] at hmin
  have hplace : ∀ i < 166, bs'[i]? = bs[i]? := by
    intro i hi
    rw [← List.getElem?_take_of_lt hi, htake, List.getElem?_take_of_lt hi]
  have hextended : IsExtended bs' ↔ IsExtended bs := by
    have hkept : ∀ {cs cs' : List UInt8}, cs'.length = cs.length →
        (∀ i < 166, cs'[i]? = cs[i]?) → IsExtended cs → IsExtended cs' := by
      intro cs cs' hlength hplace h
      refine ⟨hlength ▸ h.le_length, hlength ▸ h.noMultisig, fun i hlow hhigh => ?_, ?_⟩
      · rw [hplace i (by omega), h.zeros i hlow hhigh]
      · rw [hplace 165 (by omega), h.mark]
    exact ⟨hkept hlength.symm fun i hi => (hplace i hi).symm, hkept hlength hplace⟩
  cases program with
  | legacy =>
    by_cases hsize : bs.length = 82
    · have hwhole : ∀ cs : List UInt8, cs.length = 82 → cs.take 82 = cs := by
        intro cs hcs
        rw [← hcs, List.take_length]
      rw [hwhole bs hsize, hwhole bs' (hlength.trans hsize)] at hbefore
      rw [hbefore]
    · have hnone : ∀ cs : List UInt8, cs.length ≠ 82 → ofData? .legacy cs = none :=
        fun cs hcs => if_neg fun h => hcs h.1
      rw [hnone bs hsize, hnone bs' (hlength ▸ hsize)]
  | extended =>
    refine Option.ext fun ⟨decimals, initialized⟩ => ?_
    rw [ofData?_extended_eq_some_iff, ofData?_extended_eq_some_iff, hbefore, hlength, hextended]

/-- Every account falls under one of three outcomes. It is the mint that it shows if that is
initialized, it is refused as not initialized if that is all that is missing, and it is refused as
no mint in every other case. The bytes behind place 165 make no difference. -/
theorem ofAccount_classifies (config : PayConfig) (mint : Address) (found : Option Account) :
    (∀ token, ofAccount config mint found = .ok token ↔
      ∃ account, found = some account ∧ token.mint = mint ∧
        Shows config account token.program token.decimals true) ∧
    (ofAccount config mint found = .error (.mintNotInitialized mint) ↔
      ∃ account program decimals, found = some account ∧
        Shows config account program decimals false) ∧
    (ofAccount config mint found = .error (.mintNotFound mint) ↔
      ∀ account program decimals initialized, found = some account →
        ¬Shows config account program decimals initialized) ∧
    (∀ e, ofAccount config mint found = .error e →
      e = .mintNotInitialized mint ∨ e = .mintNotFound mint) ∧
    (∀ account data, found = some account → data.length = account.data.length →
      data.take 166 = account.data.take 166 →
      ofAccount config mint (some { account with data := data }) =
        ofAccount config mint found) := by
  have hrefused := @ofAccount_eq_error_iff config mint found
  refine ⟨fun token => ?_, ?_, ?_, fun e he => ?_, ?_⟩
  · rw [ofAccount_eq_ok_iff]
    refine exists_congr fun account => and_congr_right fun _ => and_congr_right fun _ => ?_
    rw [shows_iff]
    exact ⟨fun h => ⟨h.owner, h.data⟩, fun h => ⟨h.1, h.2⟩⟩
  · rw [hrefused, obstacle_eq_some_iff]
    simp only [reduceCtorEq, false_and, or_false, true_and]
  · rw [hrefused, obstacle_eq_some_iff]
    simp only [reduceCtorEq, false_and, false_or, true_and]
  · rcases obstacle_eq_some_iff.1 (hrefused.1 he) with ⟨h, -⟩ | ⟨h, -⟩
    · exact .inl h
    · exact .inr h
  · rintro account data rfl hlength htake
    unfold ofAccount
    simp only [ofData?_congr hlength htake]

/-- The data of an initialized mint with six decimal places and with `extensions`. -/
def extendedData (extensions : List UInt8) : List UInt8 :=
  [1, 0, 0, 0] ++ List.replicate 40 7 ++ [6, 1] ++ List.replicate 119 0 ++ [1] ++ extensions

/-- An account with that data shows the mint, and other extensions of the same length make no
difference. -/
theorem ofAccount_classifies_extended :
    ofAccount {} Networks.systemProgram
        (some ⟨Networks.extendedTokenProgram, extendedData [3, 0, 1, 0, 9], false, 0⟩) =
      .ok ⟨Networks.systemProgram, 6, .extended⟩ ∧
    ofAccount {} Networks.systemProgram
        (some ⟨Networks.extendedTokenProgram, extendedData [255, 255, 0, 1, 2], false, 0⟩) =
      .ok ⟨Networks.systemProgram, 6, .extended⟩ := by
  have hshows : Shows {} ⟨Networks.extendedTokenProgram, extendedData [3, 0, 1, 0, 9], false, 0⟩
      .extended 6 true := shows_iff.2 ⟨by decide +kernel, by decide +kernel⟩
  obtain ⟨hok, -, -, -, hrest⟩ := ofAccount_classifies {} Networks.systemProgram
    (some ⟨Networks.extendedTokenProgram, extendedData [3, 0, 1, 0, 9], false, 0⟩)
  have hread := (hok ⟨Networks.systemProgram, 6, .extended⟩).2 ⟨_, rfl, rfl, hshows⟩
  exact ⟨hread, (hrest _ (extendedData [255, 255, 0, 1, 2]) rfl rfl rfl).trans hread⟩

end PayLink.Mint
