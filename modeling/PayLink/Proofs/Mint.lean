import PayLink.Mint
import PayLink.Proofs.Outcome
/-!
# Mints that are recognized

An account is read as a mint exactly if it exists, a token program owns it, and its data is that of
an initialized mint in the layout of that program. Otherwise it is refused, as not initialized if that
is all that is missing.
-/

namespace PayLink.Mint

/-- The account holds an initialized mint of a token program. -/
structure IsInitialized (config : PayConfig) (account : Account) (program : TokenProgram)
    (decimals : UInt8) : Prop where
  /-- The token program owns the account. -/
  owner : config.tokenProgramOf? account.owner = some program
  /-- The data is that of an initialized mint in the layout of the program. -/
  data : ofData? program account.data = some ⟨decimals, true⟩

/-- An account holds one mint of one token program. -/
theorem IsInitialized.unique {config : PayConfig} {account : Account}
    {program program' : TokenProgram} {decimals decimals' : UInt8}
    (h : IsInitialized config account program decimals)
    (h' : IsInitialized config account program' decimals') :
    program = program' ∧ decimals = decimals' := by
  obtain rfl := Option.some.inj (h.owner.symm.trans h'.owner)
  have hbase := Option.some.inj (h.data.symm.trans h'.data)
  exact ⟨rfl, congrArg Base.decimals hbase⟩

/-- A mint is read exactly if its account holds an initialized mint. -/
theorem ofAccount_eq_ok_iff {config : PayConfig} {mint : Address} {found : Option Account}
    {token : TokenInfo} :
    ofAccount config mint found = .ok token ↔
      ∃ account, found = some account ∧ token.mint = mint ∧
        IsInitialized config account token.program token.decimals := by
  constructor
  · intro h
    unfold ofAccount at h
    split at h
    · rename_i account
      split at h
      · rename_i program hprogram
        split at h
        · rename_i base hdata
          obtain ⟨decimals, initialized⟩ := base
          cases initialized with
          | true =>
            cases h
            exact ⟨account, rfl, rfl, hprogram, hdata⟩
          | false => cases h
        · cases h
      · cases h
    · cases h
  · rintro ⟨account, rfl, rfl, howner, hdata⟩
    unfold ofAccount
    simp only [howner, hdata]
    rfl

/-- Why an account is not a mint that can be used: it is not there, no token program owns it, or its
data is not that of a mint; or else the mint is not initialized. -/
def obstacle (config : PayConfig) (mint : Address) (found : Option Account) : Option PayError :=
  let base := found.bind fun account =>
    (config.tokenProgramOf? account.owner).bind fun program => ofData? program account.data
  match base with
  | none => some (.mintNotFound mint)
  | some base => if base.isInitialized then none else some (.mintNotInitialized mint)

/-- A mint is refused exactly if its account cannot be used. -/
theorem ofAccount_eq_error_iff {config : PayConfig} {mint : Address} {found : Option Account}
    {e : PayError} :
    ofAccount config mint found = .error e ↔ obstacle config mint found = some e := by
  have hrefused : ∀ other : PayError,
      (throw other : Except PayError TokenInfo) = .error e ↔ some other = some e := by
    intro other
    rw [Option.some.injEq]
    exact Except.error.injEq other e ▸ Iff.rfl
  unfold ofAccount obstacle
  cases found with
  | none => exact hrefused _
  | some account =>
    cases hprogram : config.tokenProgramOf? account.owner with
    | none =>
      simp only [hprogram, Option.bind_some, Option.bind_none]
      exact hrefused _
    | some program =>
      cases hdata : ofData? program account.data with
      | none =>
        simp only [hprogram, hdata, Option.bind_some]
        exact hrefused _
      | some base =>
        simp only [hprogram, hdata, Option.bind_some]
        split
        · constructor
          · intro h
            cases h
          · intro h
            cases h
        · exact hrefused _

end PayLink.Mint
