import PayLink.Amount.Conversion
import PayLink.Proofs.Decimal.Binary64
import PayLink.Proofs.Decimal.Fixed
/-!
# Amounts from floating numbers

The amount of a floating number is the number that its bits denote, counted in minor units and
rounded once. Printing the number with all decimal places of the asset and reading the digits
without the point gives the same, as the text is rounded at its last digit and nowhere else. A
greater number is never a smaller amount, and what is no amount is refused as one.
-/

namespace PayLink.Amount

open Decimal Binary64

/-- The number of units of an amount is any that fits. -/
theorem ofNat?_eq_some_iff {n : Nat} {a : Amount} : ofNat? n = some a ↔ n = a.units := by
  constructor
  · intro h
    unfold ofNat? at h
    split at h
    · rw [← Option.some.inj h]
    · cases h
  · rintro rfl
    exact ofNat?_units a

/-- A floating number is an amount exactly if it is finite and not negative, the number of decimal
places is that of an asset, and the amount is its rounding in minor units. -/
theorem ofBinary64_eq_ok_iff {b : Binary64} {places : Int} {a : Amount} :
    ofBinary64 b places = .ok a ↔
      (∃ x, b.value? = some x ∧ 0 ≤ x ∧ IsRounding (x * 10 ^ places.toNat) a.units) ∧
        0 ≤ places ∧ places ≤ 255 := by
  have hround : ∀ (mantissa : Nat) (exponent : Int),
      IsRounding (mantissa * 2 ^ exponent * 10 ^ places.toNat)
        (scaledRound mantissa exponent (Nat.pow 10 places.toNat)) := by
    intro mantissa exponent
    have h := isRounding_scaledRound mantissa (10 ^ places.toNat) exponent
    rwa [Nat.cast_pow, Nat.cast_ofNat, ← Nat.pow_eq] at h
  constructor
  · intro h
    cases b with
    | nan => cases h
    | infinite negative => cases h
    | finite negative mantissa exponent =>
      rw [ofBinary64] at h
      split at h
      · cases h
      rename_i hsign
      split at h
      · cases h
      rename_i hplaces
      split at h
      · rename_i a' ha
        cases h
        refine ⟨⟨_, value?_of_not_negative hsign, by positivity, ?_⟩, by omega, by omega⟩
        rw [← ofNat?_eq_some_iff.1 ha]
        exact hround mantissa exponent
      · cases h
  · rintro ⟨⟨x, hx, hpos, ha⟩, hlow, hhigh⟩
    obtain ⟨negative, mantissa, exponent, rfl, hsign, rfl⟩ := eq_finite_of_nonneg hx hpos
    rw [ofBinary64, if_neg hsign, if_neg (by omega), (hround mantissa exponent).unique ha,
      ofNat?_units]

/-- A floating number that is no amount is refused as an amount. -/
theorem exists_reason_of_ofBinary64 {b : Binary64} {places : Int} {e : PayError}
    (h : ofBinary64 b places = .error e) : ∃ reason, e = .invalidAmount reason := by
  unfold ofBinary64 at h
  split at h
  · cases h
    exact ⟨_, rfl⟩
  · cases h
    exact ⟨_, rfl⟩
  · split at h
    · cases h
      exact ⟨_, rfl⟩
    · split at h
      · cases h
        exact ⟨_, rfl⟩
      · split at h
        · cases h
        · cases h
          exact ⟨_, rfl⟩

/-- A number that is not negative has a rounding in units of any decimal place. -/
theorem exists_isRounding_units {b : Binary64} {x : ℚ} (h : b.value? = some x) (hx : 0 ≤ x)
    (places : Nat) : ∃ n, IsRounding (x * 10 ^ places) n := by
  obtain ⟨n, hround⟩ := exists_isRounding h hx (10 ^ places)
  rw [Nat.cast_pow, Nat.cast_ofNat] at hround
  exact ⟨n, hround⟩

/-- A number that is not greater than one with an amount has an amount, and that is not greater
either. -/
theorem exists_le_of_ofBinary64 {b b' : Binary64} {places : Int} {x y : ℚ} {a' : Amount}
    (hx : b.value? = some x) (hy : b'.value? = some y) (hpos : 0 ≤ x) (hle : x ≤ y)
    (h : ofBinary64 b' places = .ok a') :
    ∃ a, ofBinary64 b places = .ok a ∧ a.units ≤ a'.units := by
  obtain ⟨⟨y', hy', -, hround'⟩, hlow, hhigh⟩ := ofBinary64_eq_ok_iff.1 h
  obtain rfl := Option.some.inj (hy.symm.trans hy')
  obtain ⟨n, hround⟩ := exists_isRounding_units hx hpos places.toNat
  have hunits : n ≤ a'.units :=
    hround.le_of_le hround' (mul_le_mul_of_nonneg_right hle (by positivity))
  exact ⟨⟨n, Nat.lt_of_le_of_lt hunits a'.units_lt⟩,
    ofBinary64_eq_ok_iff.2 ⟨⟨x, hx, hpos, hround⟩, hlow, hhigh⟩, hunits⟩

/-- A number that is printed with all decimal places is the amount of its digits without the
point. -/
theorem ofBinary64_eq_ok_iff_of_fixedText {b : Binary64} {places : Int} {x : ℚ} {cs : List Char}
    (hx : b.value? = some x) (hpos : 0 ≤ x) (hlow : 0 ≤ places) (hhigh : places ≤ 255)
    (hcs : IsFixedText x places.toNat cs) {a : Amount} :
    ofBinary64 b places = .ok a ↔ Nat.ofDigitChars 10 (digitsOf cs) 0 = a.units := by
  rw [ofBinary64_eq_ok_iff]
  constructor
  · rintro ⟨⟨x', hx', -, hround⟩, -⟩
    obtain rfl := Option.some.inj (hx.symm.trans hx')
    exact hcs.isRounding.unique hround
  · intro h
    exact ⟨⟨x, hx, hpos, h ▸ hcs.isRounding⟩, hlow, hhigh⟩

/-- The amount of a floating number. Sixty-four bits are an amount of `n` minor units exactly if
they denote a finite number that is not negative, there are no fewer than 0 and no more than 255
decimal places, and `n` is the exact number of minor units, rounded to the nearest integer and to the
even one of two, and fits in 128 bits. In every other case they are refused as an amount. A number
that is not greater is not a greater amount, and printing the number with all decimal places and
reading its digits without the point gives the amount as well. -/
theorem ofBinary64_rounds (bits : UInt64) (places : Int) :
    (∀ n : Nat, (∃ a, ofBinary64 (ofBits bits) places = .ok a ∧ a.units = n) ↔
        (∃ x, (ofBits bits).value? = some x ∧ 0 ≤ x ∧ IsRounding (x * 10 ^ places.toNat) n) ∧
          0 ≤ places ∧ places ≤ 255 ∧ n < 2 ^ 128) ∧
      (∀ e, ofBinary64 (ofBits bits) places = .error e → ∃ reason, e = .invalidAmount reason) ∧
      (∀ bits' x y a', (ofBits bits).value? = some x → (ofBits bits').value? = some y → 0 ≤ x →
        x ≤ y → ofBinary64 (ofBits bits') places = .ok a' →
        ∃ a, ofBinary64 (ofBits bits) places = .ok a ∧ a.units ≤ a'.units) ∧
      ∀ x, (ofBits bits).value? = some x → 0 ≤ x → 0 ≤ places → places ≤ 255 →
        (∃ cs, IsFixedText x places.toNat cs) ∧
          ∀ cs, IsFixedText x places.toNat cs → ∀ a,
            ofBinary64 (ofBits bits) places = .ok a ↔
              Nat.ofDigitChars 10 (digitsOf cs) 0 = a.units := by
  refine ⟨fun n => ?_, fun e he => exists_reason_of_ofBinary64 he,
    fun bits' x y a' hx hy hpos hle ha' => exists_le_of_ofBinary64 hx hy hpos hle ha',
    fun x hx hpos hlow hhigh => ⟨?_, fun cs hcs a => ?_⟩⟩
  · constructor
    · rintro ⟨a, ha, rfl⟩
      obtain ⟨hround, hlow, hhigh⟩ := ofBinary64_eq_ok_iff.1 ha
      exact ⟨hround, hlow, hhigh, a.units_lt⟩
    · rintro ⟨hround, hlow, hhigh, hlt⟩
      exact ⟨⟨n, hlt⟩, ofBinary64_eq_ok_iff.2 ⟨hround, hlow, hhigh⟩, rfl⟩
  · obtain ⟨n, hround⟩ := exists_isRounding_units hx hpos places.toNat
    exact ⟨_, isFixedText_fixedText hround⟩
  · exact ofBinary64_eq_ok_iff_of_fixedText hx hpos hlow hhigh hcs

/-- Two and a half units are rounded to two, and three and a half to four. -/
example : ofBinary64 (ofBits 0x4004000000000000) 0 = .ok ⟨2, by decide⟩ ∧
    ofBinary64 (ofBits 0x400C000000000000) 0 = .ok ⟨4, by decide⟩ := by
  decide +kernel

end PayLink.Amount
