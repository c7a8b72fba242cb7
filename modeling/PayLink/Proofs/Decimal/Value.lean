import Mathlib.Algebra.Order.Field.Rat
import Mathlib.Tactic.FieldSimp
import Mathlib.Tactic.Ring
import PayLink.Proofs.Decimal.Grammar
/-!
# The value of decimal text

What a text of digits with at most one point denotes, as a rational number. A text that is read
exactly is read as the number that it denotes, and dropping zeros at the end does not change it.
-/

namespace PayLink.Decimal

/-- The number that a decimal text denotes. -/
def valueOf (cs : List Char) : ℚ :=
  Nat.ofDigitChars 10 (digitsOf cs) 0 / 10 ^ (fractionOf cs).length

/-- The number that an exact decimal denotes. -/
def Exact.value (d : Exact) : ℚ :=
  d.mantissa / 10 ^ d.scale

/-- An exact decimal, counted in units of a decimal place behind its digits. -/
theorem Exact.value_mul_pow {d : Exact} {places : Nat} (h : d.scale ≤ places) :
    d.value * 10 ^ places = (d.mantissa * 10 ^ (places - d.scale) : ℕ) := by
  have hpow : (10 : ℚ) ^ places = 10 ^ (places - d.scale) * 10 ^ d.scale := by
    rw [← pow_add, Nat.sub_add_cancel h]
  rw [value, hpow]
  push_cast
  field_simp

/-- The number that a text denotes, counted in units of a decimal place behind its digits. -/
theorem valueOf_mul_pow {cs : List Char} {places : Nat} (h : (fractionOf cs).length ≤ places) :
    valueOf cs * 10 ^ places =
      (Nat.ofDigitChars 10 (digitsOf cs) 0 * 10 ^ (places - (fractionOf cs).length) : ℕ) :=
  Exact.value_mul_pow (d := ⟨_, _⟩) h

/-- Dropping zeros does not change the number. -/
theorem value_dropZeros (mantissa scale : Nat) :
    (Exact.dropZeros mantissa scale).value = mantissa / 10 ^ scale := by
  induction scale generalizing mantissa with
  | zero => rfl
  | succ scale ih =>
    rw [Exact.dropZeros]
    split
    · rename_i hzero
      have hmantissa : (mantissa : ℚ) = 10 * (mantissa / 10 : ℕ) := by
        exact_mod_cast (Nat.mul_div_cancel' (Nat.dvd_of_mod_eq_zero hzero)).symm
      rw [ih, hmantissa, pow_succ]
      field_simp
    · rfl

/-- A decimal with as few fractional digits as it has is the same number. -/
theorem value_normalize (d : Exact) : d.normalize.value = d.value :=
  value_dropZeros d.mantissa d.scale

/-- A decimal without a zero at the end of its fraction stays as it is. -/
theorem normalize_eq_self {d : Exact} (h : d.scale ≠ 0 → d.mantissa % 10 ≠ 0) :
    d.normalize = d := by
  obtain ⟨mantissa, scale⟩ := d
  cases scale with
  | zero => rfl
  | succ scale =>
    rw [Exact.normalize, Exact.dropZeros]
    exact if_neg (h (Nat.succ_ne_zero scale))

/-- Dropping zeros leaves no zero at the end of the fraction, and makes neither the digits nor their
fraction longer. -/
theorem dropZeros_bounds (mantissa scale : Nat) :
    ((Exact.dropZeros mantissa scale).scale ≠ 0 →
        (Exact.dropZeros mantissa scale).mantissa % 10 ≠ 0) ∧
      (Exact.dropZeros mantissa scale).mantissa ≤ mantissa ∧
      (Exact.dropZeros mantissa scale).scale ≤ scale := by
  induction scale generalizing mantissa with
  | zero => simp only [Exact.dropZeros, ne_eq, not_true_eq_false, false_implies, le_refl, and_self]
  | succ scale ih =>
    rw [Exact.dropZeros]
    split
    · have hdropped := ih (mantissa / 10)
      refine ⟨hdropped.1, ?_, ?_⟩
      · omega
      · omega
    · rename_i hdigit
      exact ⟨fun _ => hdigit, Nat.le_refl _, Nat.le_refl _⟩

/-- Dropping zeros does not change the number of units of the last decimal place. -/
theorem scaled_dropZeros (mantissa : Nat) {scale places : Nat} (h : scale ≤ places) :
    (Exact.dropZeros mantissa scale).mantissa *
        10 ^ (places - (Exact.dropZeros mantissa scale).scale) =
      mantissa * 10 ^ (places - scale) := by
  induction scale generalizing mantissa with
  | zero => rfl
  | succ scale ih =>
    rw [Exact.dropZeros]
    split
    · rename_i hzero
      have hpow : 10 ^ (places - scale) = 10 * 10 ^ (places - (scale + 1)) := by
        rw [← Nat.pow_succ']
        congr 1
        omega
      rw [ih _ (Nat.le_of_succ_le h), hpow, ← Nat.mul_assoc,
        Nat.div_mul_cancel (Nat.dvd_of_mod_eq_zero hzero)]
    · rfl

/-- A number has one decimal without a zero at the end of its fraction. -/
theorem eq_of_scaled_eq {d e : Exact} {places : Nat} (hd : d.scale ≠ 0 → d.mantissa % 10 ≠ 0)
    (he : e.scale ≠ 0 → e.mantissa % 10 ≠ 0) (hdplaces : d.scale ≤ places)
    (heplaces : e.scale ≤ places)
    (h : d.mantissa * 10 ^ (places - d.scale) = e.mantissa * 10 ^ (places - e.scale)) :
    d = e := by
  have hcut : ∀ {a b : Exact}, (b.scale ≠ 0 → b.mantissa % 10 ≠ 0) → b.scale ≤ places →
      a.mantissa * 10 ^ (places - a.scale) = b.mantissa * 10 ^ (places - b.scale) →
      ¬a.scale < b.scale := by
    intro a b hb hbplaces hab hlt
    have hpow : 10 ^ (places - a.scale) =
        10 ^ (b.scale - a.scale - 1) * 10 * 10 ^ (places - b.scale) := by
      rw [← Nat.pow_succ, ← Nat.pow_add]
      congr 1
      omega
    rw [hpow, ← Nat.mul_assoc, ← Nat.mul_assoc] at hab
    have hmantissa := Nat.eq_of_mul_eq_mul_right (Nat.pow_pos (by decide)) hab
    refine hb (by omega) ?_
    rw [← hmantissa]
    exact Nat.mul_mod_left _ _
  have hscale : d.scale = e.scale := by
    have hle := hcut hd hdplaces h.symm
    have hge := hcut he heplaces h
    omega
  rw [hscale] at h
  have hmantissa := Nat.eq_of_mul_eq_mul_right (Nat.pow_pos (by decide)) h
  cases d
  cases e
  rw [Exact.mk.injEq]
  exact ⟨hmantissa, hscale⟩

end PayLink.Decimal
