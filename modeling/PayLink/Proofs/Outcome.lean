/-!
# Steps that can fail

What is known of the steps of a computation once its outcome is known. A computation succeeds if
each of its steps does, and fails as its first failing step does. Items that are each read back are
read back together.
-/

namespace PayLink

variable {ε ε' α β : Type} {x : Except ε α} {f : α → Except ε β} {a : α} {b : β} {e : ε}

/-- Two steps succeed if the first does and the second does on its result. -/
theorem bind_eq_ok_iff : x >>= f = .ok b ↔ ∃ a, x = .ok a ∧ f a = .ok b := by
  cases x with
  | error e =>
    constructor
    · intro h
      cases h
    · rintro ⟨_, h, -⟩
      cases h
  | ok a =>
    constructor
    · intro h
      exact ⟨a, rfl, h⟩
    · rintro ⟨_, h, hf⟩
      cases h
      exact hf

/-- Two steps fail if the first does, or if the second does on its result. -/
theorem bind_eq_error_iff :
    x >>= f = .error e ↔ x = .error e ∨ ∃ a, x = .ok a ∧ f a = .error e := by
  cases x with
  | error e' =>
    constructor
    · intro h
      cases h
      exact .inl rfl
    · rintro (h | ⟨_, h, -⟩)
      · cases h
        rfl
      · cases h
  | ok a =>
    constructor
    · intro h
      exact .inr ⟨a, rfl, h⟩
    · rintro (h | ⟨_, h, hf⟩)
      · cases h
      · cases h
        exact hf

/-- A step succeeds whatever is done with its failure. -/
theorem mapError_eq_ok_iff {g : ε → ε'} : x.mapError g = .ok a ↔ x = .ok a := by
  cases x with
  | error e =>
    constructor
    · intro h
      cases h
    · intro h
      cases h
  | ok a' =>
    constructor
    · intro h
      cases h
      rfl
    · intro h
      cases h
      rfl

/-- A step whose result is changed succeeds if the step does. -/
theorem map_eq_ok_iff {g : α → β} : x.map g = .ok b ↔ ∃ a, x = .ok a ∧ g a = b := by
  cases x with
  | error e =>
    constructor
    · intro h
      cases h
    · rintro ⟨_, h, -⟩
      cases h
  | ok a =>
    constructor
    · intro h
      exact ⟨a, rfl, Except.ok.inj h⟩
    · rintro ⟨_, h, rfl⟩
      cases h
      rfl

/-- A step whose failures are told beforehand succeeds exactly if there is none to tell. -/
theorem exists_eq_ok_iff {refusal : Option ε} (h : ∀ e, x = .error e ↔ refusal = some e) :
    (∃ a, x = .ok a) ↔ refusal = none := by
  cases hx : x with
  | error e =>
    rw [(h e).1 hx]
    simp only [reduceCtorEq, exists_false]
  | ok a =>
    have hnone : refusal = none := by
      refine Option.eq_none_iff_forall_ne_some.2 fun e he => ?_
      cases hx.symm.trans ((h e).2 he)
    rw [hnone]
    simp only [Except.ok.injEq, exists_eq']

/-- Items that are each read back from what they are written as are read back together. -/
theorem mapM_map_eq_some {f : α → β} {g : β → Option α} {as : List α}
    (h : ∀ a ∈ as, g (f a) = some a) : (as.map f).mapM g = some as := by
  induction as with
  | nil => rfl
  | cons a as ih =>
    have htail := ih fun b hb => h b (List.mem_cons_of_mem a hb)
    rw [List.map_cons, List.mapM_cons, h a List.mem_cons_self, htail]
    rfl

end PayLink
