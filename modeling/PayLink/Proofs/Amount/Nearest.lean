import PayLink.Proofs.Amount
import PayLink.Proofs.Amount.Rounding
/-!
# Amounts from nearest floating numbers

An amount below 2^52 minor units with at most 28 decimal places is found again from the floating
number that is nearest to it: rounding to 53 bits moves it by less than half a minor unit. It is
found again from its decimal text as well, so both ways lead to the same amount.
-/

namespace PayLink.Amount

open Decimal Binary64

/-- Counted in units of the last place, a number nearest to one of fewer than 2^52 units is less
than half a unit away from it. -/
theorem exists_value?_scaled_near {bits : UInt64} {n places : Nat} (hn : n < 2 ^ 52)
    (hplaces : places ≤ 28) (hnear : IsNearest bits (n / 10 ^ places)) :
    ∃ x, (ofBits bits).value? = some x ∧ 0 ≤ x ∧ |x * 10 ^ places - n| < 1 / 2 := by
  have hpower : (0 : ℚ) < 10 ^ places := by positivity
  by_cases hzero : n = 0
  · rw [hzero, Nat.cast_zero, zero_div] at hnear
    exact ⟨0, hnear.value?_eq_zero, le_refl 0, by rw [hzero]; norm_num⟩
  · have hpos : (1 : ℚ) ≤ n := by exact_mod_cast Nat.pos_of_ne_zero hzero
    have hlt : (n : ℚ) < 2 ^ 52 := by exact_mod_cast hn
    have htwo : (2 : ℚ) ^ (94 : ℤ) ≤ 2 ^ (1022 : ℤ) :=
      zpow_le_zpow_right₀ (by norm_num) (by norm_num)
    have hlow : (2 : ℚ) ^ (-1022 : ℤ) ≤ n / 10 ^ places := by
      have hmost : (10 : ℚ) ^ places ≤ 2 ^ (1022 : ℤ) :=
        (pow_le_pow_right₀ (by norm_num) hplaces).trans (le_trans (by norm_num) htwo)
      rw [zpow_neg, le_div_iff₀ hpower, inv_mul_le_iff₀ (by positivity)]
      exact hmost.trans (le_mul_of_one_le_right (by positivity) hpos)
    have hhigh : (n : ℚ) / 10 ^ places < 2 ^ (1022 : ℤ) := by
      have hleast : (1 : ℚ) ≤ 10 ^ places := one_le_pow₀ (by norm_num)
      have hmost : (2 : ℚ) ^ 52 < 2 ^ (1022 : ℤ) := lt_of_lt_of_le (by norm_num) htwo
      exact (div_le_self (by positivity) hleast).trans_lt (hlt.trans hmost)
    obtain ⟨x, hx, herror⟩ := hnear.error_le hlow hhigh
    have hq : (0 : ℚ) < n / 10 ^ places := lt_of_lt_of_le (by positivity) hlow
    refine ⟨x, hx, ?_, ?_⟩
    · have hsmall := (abs_le.1 herror).1
      linarith
    · calc |x * 10 ^ places - n| = |x - n / 10 ^ places| * 10 ^ places :=
            (abs_sub_div_mul hpower x n).symm
        _ ≤ n / 10 ^ places / 2 ^ 53 * 10 ^ places :=
            mul_le_mul_of_nonneg_right herror hpower.le
        _ = n / 2 ^ 53 := by field_simp
        _ < 1 / 2 := by
            rw [div_lt_div_iff₀ (by norm_num) (by norm_num)]
            linarith

/-- The amount of a floating number that is not negative is the one that is less than half a minor
unit away. -/
theorem ofBinary64_eq_ok {b : Binary64} {x : ℚ} {a : Amount} {places : UInt8}
    (hx : b.value? = some x) (hpos : 0 ≤ x)
    (hnear : |x * 10 ^ places.toNat - a.units| < 1 / 2) :
    ofBinary64 b places.toNat = .ok a := by
  have hlt := places.toNat_lt
  refine ofBinary64_eq_ok_iff.2 ⟨⟨x, hx, hpos, ?_⟩, by omega, by omega⟩
  rw [Int.toNat_natCast]
  exact isRounding_of_lt hnear

/-- The amount of a floating number that is nearest to an amount is that amount, as long as it has
fewer than 2^52 minor units and at most 28 decimal places. Its decimal text gives the same. -/
theorem ofBinary64_eq_parse_decimalText {a : Amount} {places : UInt8} {bits : UInt64}
    (ha : a.units < 2 ^ 52) (hplaces : places.toNat ≤ 28)
    (hnear : IsNearest bits (a.units / 10 ^ places.toNat)) :
    ofBinary64 (ofBits bits) places.toNat = .ok a ∧
      parse (a.decimalText places) places = .ok a := by
  constructor
  · obtain ⟨x, hx, hpos, hscaled⟩ := exists_value?_scaled_near ha hplaces hnear
    exact ofBinary64_eq_ok hx hpos hscaled
  · have hcarried : a.IsCarried places := isCarried_of_lt (ha.trans (by decide)) hplaces
    exact parse_decimalText (textFits_iff_isCarried.2 hcarried)

/-- A tenth with nine decimal places: the nearest floating number is a little more. -/
theorem ofBinary64_tenth :
    100000000 < 2 ^ 52 ∧ (9 : UInt8).toNat ≤ 28 ∧
      IsNearest 0x3FB999999999999A (100000000 / 10 ^ (9 : UInt8).toNat) ∧
      ofBinary64 (ofBits 0x3FB999999999999A) (9 : UInt8).toNat = .ok ⟨100000000, by decide⟩ ∧
      parse (decimalText ⟨100000000, by decide⟩ 9) 9 = .ok ⟨100000000, by decide⟩ := by
  have hbits : ofBits 0x3FB999999999999A = .finite false 7205759403792794 (-56) := by decide
  have hnear : IsNearest 0x3FB999999999999A (100000000 / 10 ^ (9 : UInt8).toNat) := by
    have hplaces : (9 : UInt8).toNat = 9 := by decide
    rw [hplaces]
    refine isNearest_of_halfUnit hbits (by norm_num) ?_
    rw [abs_le]
    constructor <;> norm_num
  have hboth : ofBinary64 (ofBits 0x3FB999999999999A) (9 : UInt8).toNat =
        .ok ⟨100000000, by decide⟩ ∧
      parse (decimalText ⟨100000000, by decide⟩ 9) 9 = .ok ⟨100000000, by decide⟩ :=
    ofBinary64_eq_parse_decimalText (by norm_num) (by decide) (by exact_mod_cast hnear)
  exact ⟨by norm_num, by decide, hnear, hboth⟩

end PayLink.Amount
