import PayLink.Proofs.Amount
/-!
# Texts that are amounts

Which texts are read as an amount, with any number of decimal places: plain decimal numbers that are
not too long, have no significant digit beyond the last place, and whose number of minor units fits
in 128 bits. The amount is then exactly what the text denotes. Every other text is refused for the
first of these that it lacks.
-/

namespace PayLink.Decimal

/-- The number of fractional digits up to the last one that is not zero. -/
def significantPlaces (cs : List Char) : Nat :=
  (trimZeros (fractionOf cs)).length

/-- Zeros behind the digits are dropped together with their places. -/
theorem dropZeros_mul_pow (mantissa scale count : Nat) :
    Exact.dropZeros (mantissa * 10 ^ count) (scale + count) = Exact.dropZeros mantissa scale := by
  induction count with
  | zero => rw [Nat.pow_zero, Nat.mul_one, Nat.add_zero]
  | succ count ih =>
    rw [← Nat.add_assoc, Exact.dropZeros, Nat.pow_succ, ← Nat.mul_assoc,
      if_pos (Nat.mul_mod_left _ _), Nat.mul_div_cancel _ (by decide), ih]

/-- With as few digits as it has, the decimal that a text writes has its significant places. -/
theorem scale_normalize {cs : List Char} (h : IsPlain cs) :
    (writtenExact cs).normalize.scale = significantPlaces cs := by
  obtain ⟨hdigits, -⟩ := isPlain_iff.1 h
  have hfraction : ∀ c ∈ fractionOf cs, c.isDigit = true := fun c hc =>
    hdigits c (List.mem_append_right _ hc)
  obtain ⟨count, hzeros⟩ := trimZeros_append (fractionOf cs)
  have hvalue : Nat.ofDigitChars 10 (digitsOf cs) 0 =
      Nat.ofDigitChars 10 (wholeOf cs ++ trimZeros (fractionOf cs)) 0 *
        10 ^ count := by
    rw [digitsOf_eq (point_not_mem hfraction)]
    conv => lhs; rw [hzeros]
    rw [← List.append_assoc, Nat.ofDigitChars_append, Nat.ofDigitChars_replicate_zero,
      Nat.mul_comm]
  have hlength : (fractionOf cs).length = (trimZeros (fractionOf cs)).length + count := by
    conv => lhs; rw [hzeros]
    rw [List.length_append, List.length_replicate]
  have hlast : (trimZeros (fractionOf cs)).length ≠ 0 →
      Nat.ofDigitChars 10 (wholeOf cs ++ trimZeros (fractionOf cs)) 0 % 10 ≠ 0 := by
    intro hne
    refine ofDigitChars_append_mod_ne (fun he => hne (by rw [he]; rfl)) (fun c hc => ?_)
      (getLast?_trimZeros_ne _)
    exact hfraction c (by rw [hzeros]; exact List.mem_append_left _ hc)
  rw [writtenExact, Exact.normalize, hvalue, hlength, dropZeros_mul_pow]
  exact congrArg Exact.scale (normalize_eq_self (d := ⟨_, _⟩) hlast)

/-- The value of a text, counted in units of a place behind its significant ones. -/
theorem valueOf_mul_pow_eq {cs : List Char} {places : Nat} (h : IsPlain cs)
    (hplaces : significantPlaces cs ≤ places) :
    valueOf cs * 10 ^ places =
      ((writtenExact cs).normalize.mantissa * 10 ^ (places - significantPlaces cs) : ℕ) := by
  have hvalue : (writtenExact cs).normalize.value = valueOf cs := value_normalize _
  have hscale := scale_normalize h
  rw [← hvalue, Exact.value_mul_pow (hscale ▸ hplaces), hscale]

end PayLink.Decimal

namespace PayLink.Amount

open Decimal

/-- Why a text that is no amount is refused: it is no plain decimal number or too long for one, or
it has a significant digit beyond the last place, or else it is too large. -/
def flawOf (cs : List Char) (places : Nat) : TextFlaw :=
  if ¬IsReadable cs then .notPlain
  else if places < significantPlaces cs then .tooPrecise places
  else .tooLarge

/-- A text is read as an amount if it is readable and has no significant digit beyond the last
place, and if its digits can be scaled in 128 bits to its value in minor units. -/
theorem parse_eq_ok_iff_readable {s : String} {places : UInt8} {a : Amount} :
    parse s places = .ok a ↔
      IsReadable s.toList ∧ significantPlaces s.toList ≤ places.toNat ∧
        10 ^ (places.toNat - significantPlaces s.toList) < 2 ^ 128 ∧
        (a.units : ℚ) = valueOf s.toList * 10 ^ places.toNat := by
  rw [parse_eq_ok_iff, ofText?_eq]
  by_cases hread : IsReadable s.toList
  · simp only [if_pos hread, Option.some.injEq, exists_eq_left']
    rw [ofExact_eq_ok_iff, scale_normalize hread.toIsPlain]
    constructor
    · rintro ⟨hplaces, hpow, hunits⟩
      rw [valueOf_mul_pow_eq hread.toIsPlain hplaces, hunits]
      exact ⟨hread, hplaces, hpow, rfl⟩
    · rintro ⟨-, hplaces, hpow, hunits⟩
      rw [valueOf_mul_pow_eq hread.toIsPlain hplaces] at hunits
      exact ⟨hplaces, hpow, Nat.cast_inj.1 hunits⟩
  · rw [if_neg hread]
    constructor
    · rintro ⟨d, hd, -⟩
      cases hd
    · rintro ⟨h, -⟩
      exact absurd h hread

/-- The power of ten that scales the digits of a text fits if the amount does, but for a zero: that
one it has to fit by itself. -/
theorem pow_lt_of_units_lt {cs : List Char} {places n : Nat} (h : IsPlain cs)
    (hplaces : significantPlaces cs ≤ places) (hn : (n : ℚ) = valueOf cs * 10 ^ places)
    (hlt : n < 2 ^ 128) (hzero : valueOf cs = 0 → places ≤ 38) :
    10 ^ (places - significantPlaces cs) < 2 ^ 128 := by
  have hscaled := valueOf_mul_pow_eq h hplaces
  have hunits : n = (writtenExact cs).normalize.mantissa * 10 ^ (places - significantPlaces cs) :=
    Nat.cast_inj.1 (hn.trans hscaled)
  refine pow_ten_lt_of_mul_lt (hunits ▸ hlt) fun hnone => ?_
  rw [hnone, Nat.zero_mul, Nat.cast_zero] at hscaled
  have hvalue : valueOf cs = 0 :=
    (mul_eq_zero.1 hscaled).resolve_right (pow_ne_zero _ (by decide))
  exact Nat.le_trans (Nat.sub_le _ _) (hzero hvalue)

/-- A text that is no amount has the flaw that it is refused for. -/
theorem eq_flawOf {cs : List Char} {places : Nat} {flaw : TextFlaw}
    (h : ofDecimal cs places = .error flaw) : flaw = flawOf cs places := by
  rw [ofDecimal, ofText?_eq] at h
  rw [flawOf]
  by_cases hread : IsReadable cs
  · rw [if_pos hread] at h
    rw [if_neg (not_not_intro hread)]
    change ofExact (writtenExact cs).normalize places = _ at h
    rw [ofExact, scale_normalize hread.toIsPlain] at h
    split at h
    · rename_i hplaces
      cases h
      rw [if_pos hplaces]
    · rename_i hplaces
      rw [if_neg hplaces]
      split at h
      · split at h
        · cases h
        · cases h
          rfl
      · cases h
        rfl
  · rw [if_neg hread] at h
    cases h
    rw [if_pos hread]

/-- A text is read as an amount of `n` minor units exactly if it is a plain decimal number, not too
long, without a significant digit beyond the last place, and `n` is its value in minor units and
fits in 128 bits; only for a zero the number of places has a limit of its own. Any other text is
refused for its flaw. Where an amount is read, the digits, the power of ten that scales them and
their product fit in 128 bits. -/
theorem parse_accepts_iff (s : String) (places : UInt8)
    (hzero : IsPlain s.toList → valueOf s.toList = 0 → places.toNat ≤ 38) :
    (∀ n : Nat, (∃ a, parse s places = .ok a ∧ a.units = n) ↔
        IsPlain s.toList ∧ (fractionOf s.toList).length ≤ 28 ∧
          Nat.ofDigitChars 10 (digitsOf s.toList) 0 < 2 ^ 96 ∧
          significantPlaces s.toList ≤ places.toNat ∧
          (n : ℚ) = valueOf s.toList * 10 ^ places.toNat ∧ n < 2 ^ 128) ∧
      ((∀ a, parse s places ≠ .ok a) → parse s places = .error (.invalidAmount
        (Text.quoted s ++ " " ++ (flawOf s.toList places.toNat).message))) ∧
      ∀ a, parse s places = .ok a →
        ∃ d, Exact.ofText? s.toList = some d ∧ d.normalize.mantissa < 2 ^ 96 ∧
          d.normalize.scale ≤ places.toNat ∧ 10 ^ (places.toNat - d.normalize.scale) < 2 ^ 128 ∧
          d.normalize.mantissa * 10 ^ (places.toNat - d.normalize.scale) < 2 ^ 128 ∧
          a.units = d.normalize.mantissa * 10 ^ (places.toNat - d.normalize.scale) := by
  refine ⟨fun n => ?_, fun h => ?_, fun a ha => ?_⟩
  · constructor
    · rintro ⟨a, ha, rfl⟩
      obtain ⟨hread, hplaces, -, hunits⟩ := parse_eq_ok_iff_readable.1 ha
      exact ⟨hread.toIsPlain, hread.fraction_length, hread.digits_lt, hplaces, hunits, a.units_lt⟩
    · rintro ⟨hplain, hfraction, hdigits, hplaces, hn, hlt⟩
      have hpow := pow_lt_of_units_lt hplain hplaces hn hlt (hzero hplain)
      exact ⟨⟨n, hlt⟩,
        parse_eq_ok_iff_readable.2 ⟨⟨hplain, hfraction, hdigits⟩, hplaces, hpow, hn⟩, rfl⟩
  · cases hread : ofDecimal s.toList places.toNat with
    | ok a => exact absurd (by rw [parse, hread]; rfl) (h a)
    | error flaw =>
      rw [parse, hread, ← eq_flawOf hread]
      rfl
  · obtain ⟨d, hd, hexact⟩ := parse_eq_ok_iff.1 ha
    obtain ⟨hscale, hpow, hunits⟩ := ofExact_eq_ok_iff.1 hexact
    have hmantissa : d.normalize.mantissa < 2 ^ 96 := by
      obtain ⟨hread, rfl⟩ := ofText?_eq_some_iff.1 hd
      exact Nat.lt_of_le_of_lt (dropZeros_bounds _ _).2.1 hread.digits_lt
    exact ⟨d, hd, hmantissa, hscale, hpow, hunits ▸ a.units_lt, hunits⟩

/-- A tenth is an amount with 39 decimal places, where zero is none: the zero at the end of its text
does not count, and its one significant digit is scaled by the greatest power of ten that fits. -/
theorem parse_accepts_tenth :
    (IsPlain "0.10".toList → valueOf "0.10".toList = 0 → (39 : UInt8).toNat ≤ 38) ∧
      ∃ a, parse "0.10" 39 = .ok a ∧ a.units = 10 ^ 38 := by
  have hread : IsReadable "0.10".toList := by decide +kernel
  have hvalue : valueOf "0.10".toList ≠ 0 := by decide +kernel
  have hunits : ((10 ^ 38 : ℕ) : ℚ) = valueOf "0.10".toList * 10 ^ (39 : UInt8).toNat := by
    decide +kernel
  have hzero : IsPlain "0.10".toList → valueOf "0.10".toList = 0 → (39 : UInt8).toNat ≤ 38 :=
    fun _ h => absurd h hvalue
  exact ⟨hzero, ((parse_accepts_iff "0.10" 39 hzero).1 (10 ^ 38)).2
    ⟨hread.toIsPlain, hread.fraction_length, hread.digits_lt, by decide, hunits, by decide⟩⟩

end PayLink.Amount
