import Mathlib.Algebra.Order.Archimedean.Basic
import Mathlib.Algebra.Order.Field.Power
import Mathlib.Algebra.Order.Field.Rat
import Mathlib.Algebra.Order.Round
import Mathlib.Tactic.FieldSimp
import Mathlib.Tactic.Linarith
import Mathlib.Tactic.NormNum
import Mathlib.Tactic.Positivity
import PayLink.Decimal.Binary64
import PayLink.Proofs.Decimal.Rounding
/-!
# The numbers that 64 bits denote

A finite floating number is a rational number, and next to every rational number of moderate size
there is one within half a unit of its last bit. A number that is as near as any therefore has a
small relative error, and whatever it is scaled by, the integer nearest to the result is found by
exact rounding.
-/

namespace PayLink.Decimal

namespace Binary64

/-- The number that finite bits denote. -/
def value? : Binary64 → Option ℚ
  | .finite negative mantissa exponent =>
    some ((if negative then -1 else 1) * mantissa * 2 ^ exponent)
  | _ => none

/-- The bits denote a finite number, and none is nearer to `q`. -/
def IsNearest (bits : UInt64) (q : ℚ) : Prop :=
  ∃ x, (ofBits bits).value? = some x ∧
    ∀ bits' y, (ofBits bits').value? = some y → |x - q| ≤ |y - q|

/-- A power of two is the quotient of the two powers by which numbers are scaled. -/
theorem two_zpow_eq (exponent : Int) :
    (2 : ℚ) ^ exponent = 2 ^ exponent.toNat / 2 ^ (-exponent).toNat := by
  conv => lhs; rw [← Int.toNat_sub_toNat_neg exponent]
  rw [zpow_sub₀ (by norm_num), zpow_natCast, zpow_natCast]

/-- Scaling and rounding gives the rounding of the scaled number. -/
theorem isRounding_scaledRound (mantissa factor : Nat) (exponent : Int) :
    IsRounding (mantissa * 2 ^ exponent * factor) (scaledRound mantissa exponent factor) := by
  have hnum : Nat.pow 2 exponent.toNat = 2 ^ exponent.toNat := Nat.pow_eq
  have hden : Nat.pow 2 (-exponent).toNat = 2 ^ (-exponent).toNat := Nat.pow_eq
  have hquotient : (mantissa : ℚ) * 2 ^ exponent * factor =
      (mantissa * factor * 2 ^ exponent.toNat : ℕ) / (2 ^ (-exponent).toNat : ℕ) := by
    rw [two_zpow_eq]
    push_cast
    ring
  rw [scaledRound, hnum, hden, hquotient]
  exact isRounding_roundHalfEven _ (Nat.two_pow_pos _)

/-- The bits of a positive number that is not too small: its exponent in front of its fraction. -/
theorem ofBits_normal (biased fraction : Nat) (hpos : 0 < biased) (hbiased : biased < 2047)
    (hfraction : fraction < 2 ^ 52) :
    ofBits (UInt64.ofNat (biased * 2 ^ 52 + fraction)) =
      .finite false (2 ^ 52 + fraction) (biased - 1075) := by
  have hnat : (UInt64.ofNat (biased * 2 ^ 52 + fraction)).toNat = biased * 2 ^ 52 + fraction :=
    UInt64.toNat_ofNat_of_lt' (by norm_num [UInt64.size]; omega)
  have hunit : Nat.pow 2 fractionBits = 2 ^ 52 := Nat.pow_eq
  have hexponents : Nat.pow 2 11 = 2048 := Nat.pow_eq
  have hhalf : Nat.pow 2 63 = 2 ^ 63 := Nat.pow_eq
  have hsign : ¬(biased * 2 ^ 52 + fraction) / 2 ^ 63 = 1 := by omega
  have hexponent : (biased * 2 ^ 52 + fraction) / 2 ^ 52 % 2048 = biased := by omega
  have hrest : (biased * 2 ^ 52 + fraction) % 2 ^ 52 = fraction := by omega
  unfold ofBits
  simp only [hnat, hunit, hexponents, hhalf, hexponent, hrest]
  rw [if_neg (by omega), if_neg (by omega), decide_eq_false hsign, minExponent]
  congr 1
  omega

/-- Every number in the range of a leading bit and 52 more is that of some bits. -/
theorem exists_value?_eq (mantissa : Nat) (exponent : Int) (hlow : 2 ^ 52 ≤ mantissa)
    (hhigh : mantissa ≤ 2 ^ 53) (hmin : -1074 ≤ exponent) (hmax : exponent ≤ 970) :
    ∃ bits, (ofBits bits).value? = some ((mantissa : ℚ) * 2 ^ exponent) := by
  by_cases hcarry : mantissa = 2 ^ 53
  · -- The next power of two has the next exponent.
    obtain ⟨biased, hbiased⟩ : ∃ biased : Nat, (biased : Int) = exponent + 1076 :=
      ⟨(exponent + 1076).toNat, by omega⟩
    have hbits := ofBits_normal biased 0 (by omega) (by omega) (by norm_num)
    refine ⟨_, (congrArg value? hbits).trans ?_⟩
    have hexponent : (biased : Int) - 1075 = exponent + 1 := by omega
    rw [value?, hexponent, zpow_add_one₀ (by norm_num), hcarry]
    norm_num
    ring
  · obtain ⟨biased, hbiased⟩ : ∃ biased : Nat, (biased : Int) = exponent + 1075 :=
      ⟨(exponent + 1075).toNat, by omega⟩
    obtain ⟨fraction, hfraction⟩ := Nat.exists_eq_add_of_le hlow
    have hbits := ofBits_normal biased fraction (by omega) (by omega) (by omega)
    refine ⟨_, (congrArg value? hbits).trans ?_⟩
    have hexponent : (biased : Int) - 1075 = exponent := by omega
    rw [value?, hexponent, hfraction]
    norm_num

/-- A distance that is counted in units, times the unit, is the distance itself. -/
theorem abs_sub_div_mul {unit : ℚ} (h : 0 < unit) (x q : ℚ) :
    |x - q / unit| * unit = |x * unit - q| := by
  conv => lhs; rw [← abs_of_pos h, ← abs_mul, abs_of_pos h]
  rw [sub_mul, div_mul_cancel₀ _ h.ne']

/-- Next to every number that is neither too small nor too large there is one of 64 bits, at a
distance of at most half a unit of its last bit. -/
theorem exists_value?_near {q : ℚ} (hlow : 2 ^ (-1022 : ℤ) ≤ q) (hhigh : q < 2 ^ (1022 : ℤ)) :
    ∃ bits y, (ofBits bits).value? = some y ∧ |y - q| ≤ q / 2 ^ 53 := by
  have hq : 0 < q := lt_of_lt_of_le (by positivity) hlow
  obtain ⟨n, hn⟩ := exists_mem_Ico_zpow hq (show (1 : ℚ) < 2 by norm_num)
  have hmin : -1022 ≤ n := by
    have hlt := (zpow_lt_zpow_iff_right₀ (show (1 : ℚ) < 2 by norm_num)).1
      (lt_of_le_of_lt hlow hn.2)
    omega
  have hmax : n < 1022 :=
    (zpow_lt_zpow_iff_right₀ (show (1 : ℚ) < 2 by norm_num)).1 (lt_of_le_of_lt hn.1 hhigh)
  -- In units of the last bit the number lies between two powers of two.
  have hunit : (0 : ℚ) < 2 ^ (n - 52) := by positivity
  have hscale : (2 : ℚ) ^ n = 2 ^ 52 * 2 ^ (n - 52) := by
    rw [← zpow_natCast, ← zpow_add₀ (by norm_num)]
    congr 1
    norm_num
  have hscaled : (2 : ℚ) ^ 52 ≤ q / 2 ^ (n - 52) ∧ q / 2 ^ (n - 52) < 2 ^ 53 := by
    rw [le_div_iff₀ hunit, div_lt_iff₀ hunit, ← hscale]
    refine ⟨hn.1, lt_of_lt_of_eq hn.2 ?_⟩
    rw [zpow_add_one₀ (by norm_num), hscale]
    ring
  have hround := abs_le.1 (abs_sub_round (q / 2 ^ (n - 52)))
  have hleast : 2 ^ 52 ≤ round (q / 2 ^ (n - 52)) := by
    by_contra hlt
    have hcast : (round (q / 2 ^ (n - 52)) : ℚ) ≤ 2 ^ 52 - 1 := by
      exact_mod_cast (by omega : round (q / 2 ^ (n - 52)) ≤ 2 ^ 52 - 1)
    linarith
  have hmost : round (q / 2 ^ (n - 52)) ≤ 2 ^ 53 := by
    by_contra hlt
    have hcast : (2 ^ 53 + 1 : ℚ) ≤ round (q / 2 ^ (n - 52)) := by
      exact_mod_cast (by omega : 2 ^ 53 + 1 ≤ round (q / 2 ^ (n - 52)))
    linarith
  have hpos : 0 ≤ round (q / 2 ^ (n - 52)) := by omega
  obtain ⟨mantissa, hmantissa⟩ := Int.eq_ofNat_of_zero_le hpos
  obtain ⟨bits, hbits⟩ :=
    exists_value?_eq mantissa (n - 52) (by omega) (by omega) (by omega) (by omega)
  refine ⟨bits, _, hbits, ?_⟩
  calc |(mantissa : ℚ) * 2 ^ (n - 52) - q|
      = |q / 2 ^ (n - 52) - round (q / 2 ^ (n - 52))| * 2 ^ (n - 52) := by
        rw [hmantissa, Int.cast_natCast, abs_sub_comm (q / _), abs_sub_div_mul hunit]
    _ ≤ 1 / 2 * 2 ^ (n - 52) := mul_le_mul_of_nonneg_right (abs_le.2 hround) hunit.le
    _ ≤ q / 2 ^ 53 := by
        rw [le_div_iff₀ (by norm_num)]
        linarith [hn.1]

/-- A nearest number to one that is neither too small nor too large has a small relative error. -/
theorem IsNearest.error_le {bits : UInt64} {q : ℚ} (h : IsNearest bits q)
    (hlow : 2 ^ (-1022 : ℤ) ≤ q) (hhigh : q < 2 ^ (1022 : ℤ)) :
    ∃ x, (ofBits bits).value? = some x ∧ |x - q| ≤ q / 2 ^ 53 := by
  obtain ⟨x, hx, hnearest⟩ := h
  obtain ⟨bits', y, hy, hnear⟩ := exists_value?_near hlow hhigh
  exact ⟨x, hx, (hnearest bits' y hy).trans hnear⟩

/-- The nearest number to zero is zero, of either sign. -/
theorem IsNearest.value?_eq_zero {bits : UInt64} (h : IsNearest bits 0) :
    (ofBits bits).value? = some 0 := by
  obtain ⟨x, hx, hnearest⟩ := h
  have hzero : (ofBits 0).value? = some 0 := by
    have hbits : ofBits 0 = .finite false 0 minExponent := by decide
    rw [hbits, value?, Nat.cast_zero, mul_zero, zero_mul]
  have hnear := hnearest 0 0 hzero
  rw [sub_zero, sub_zero, abs_zero, abs_nonpos_iff] at hnear
  rw [hx, hnear]

/-- A number that is not negative has no sign, or is zero. -/
theorem eq_finite_of_nonneg {b : Binary64} {x : ℚ} (h : b.value? = some x) (hx : 0 ≤ x) :
    ∃ negative mantissa exponent, b = .finite negative mantissa exponent ∧
      ¬(negative = true ∧ mantissa ≠ 0) ∧ x = mantissa * 2 ^ exponent := by
  cases b with
  | nan => cases h
  | infinite negative => cases h
  | finite negative mantissa exponent =>
    refine ⟨negative, mantissa, exponent, rfl, ?_⟩
    have hvalue := Option.some.inj h
    have hpower : (0 : ℚ) < 2 ^ exponent := by positivity
    cases negative with
    | false =>
      rw [if_neg (by decide), one_mul] at hvalue
      exact ⟨fun hsign => absurd hsign.1 (by decide), hvalue.symm⟩
    | true =>
      rw [if_pos rfl, neg_one_mul, neg_mul] at hvalue
      have hnone : mantissa = 0 := by
        by_contra hne
        have hmantissa : (0 : ℚ) < mantissa := by exact_mod_cast Nat.pos_of_ne_zero hne
        have hpos := mul_pos hmantissa hpower
        linarith
      refine ⟨fun hsign => hsign.2 hnone, ?_⟩
      rw [← hvalue, hnone, Nat.cast_zero, zero_mul, neg_zero]

/-- Without a sign, or with a zero behind it, the bits denote their magnitude. -/
theorem value?_of_not_negative {negative : Bool} {mantissa : Nat} {exponent : Int}
    (h : ¬(negative = true ∧ mantissa ≠ 0)) :
    (finite negative mantissa exponent).value? = some ((mantissa : ℚ) * 2 ^ exponent) := by
  cases negative with
  | false => rw [value?, if_neg (by decide), one_mul]
  | true =>
    have hnone : mantissa = 0 := by
      by_contra hne
      exact h ⟨rfl, hne⟩
    rw [value?, hnone, Nat.cast_zero, mul_zero, zero_mul]

/-- A number that is not negative has a rounding, whatever it is scaled by. -/
theorem exists_isRounding {b : Binary64} {x : ℚ} (h : b.value? = some x) (hx : 0 ≤ x)
    (factor : Nat) : ∃ n, IsRounding (x * factor) n := by
  obtain ⟨_, mantissa, exponent, -, -, rfl⟩ := eq_finite_of_nonneg h hx
  exact ⟨_, isRounding_scaledRound mantissa factor exponent⟩

/-- No number has more than 53 bits. -/
theorem mantissa_lt_of_ofBits {bits : UInt64} {negative : Bool} {mantissa : Nat} {exponent : Int}
    (h : ofBits bits = .finite negative mantissa exponent) : mantissa < 2 ^ 53 := by
  have hunit : Nat.pow 2 fractionBits = 2 ^ 52 := Nat.pow_eq
  have hfraction := Nat.mod_lt bits.toNat (Nat.two_pow_pos 52)
  unfold ofBits at h
  simp only [hunit] at h
  split at h
  · split at h
    · cases h
    · cases h
  · split at h
    · cases h
      omega
    · cases h
      omega

/-- A number whose last bit is worth no less is a multiple of the unit. -/
theorem exists_eq_mul_zpow {mantissa : Nat} {exponent exponent' : Int} {negative : Bool} {y : ℚ}
    (hy : (finite negative mantissa exponent').value? = some y) (h : exponent ≤ exponent') :
    ∃ k : ℤ, y = k * 2 ^ exponent := by
  have hpower : (2 : ℚ) ^ exponent' = 2 ^ (exponent' - exponent).toNat * 2 ^ exponent := by
    rw [← zpow_natCast, ← zpow_add₀ (by norm_num)]
    congr 1
    omega
  rw [value?, hpower] at hy
  refine ⟨(if negative then -1 else 1) * mantissa * 2 ^ (exponent' - exponent).toNat, ?_⟩
  rw [← Option.some.inj hy]
  push_cast
  ring

/-- A number whose last bit is worth less does not reach the leading bit in front of the unit. -/
theorem value?_le_of_lt {bits : UInt64} {mantissa : Nat} {exponent exponent' : Int}
    {negative : Bool} {y : ℚ} (hbits : ofBits bits = .finite negative mantissa exponent')
    (hy : (ofBits bits).value? = some y) (h : exponent' < exponent) :
    y ≤ 2 ^ 52 * 2 ^ exponent := by
  have hmantissa : (mantissa : ℚ) ≤ 2 ^ 53 := by
    exact_mod_cast (mantissa_lt_of_ofBits hbits).le
  have hpower : (2 : ℚ) ^ exponent' ≤ 2 ^ (exponent - 1) :=
    zpow_le_zpow_right₀ (by norm_num) (by omega)
  have hunit : (2 : ℚ) ^ exponent = 2 * 2 ^ (exponent - 1) := by
    rw [← zpow_one_add₀ (by norm_num)]
    congr 1
    omega
  have hpos : (0 : ℚ) < 2 ^ exponent' := by positivity
  have hmagnitude : (mantissa : ℚ) * 2 ^ exponent' ≤ 2 ^ 52 * 2 ^ exponent := by
    calc (mantissa : ℚ) * 2 ^ exponent' ≤ 2 ^ 53 * 2 ^ (exponent - 1) :=
          mul_le_mul hmantissa hpower hpos.le (by norm_num)
      _ = 2 ^ 52 * 2 ^ exponent := by
          rw [hunit]
          ring
  rw [hbits, value?] at hy
  rw [← Option.some.inj hy]
  cases negative with
  | false => rwa [if_neg (by decide), one_mul]
  | true =>
    have hmantissaPos : (0 : ℚ) ≤ mantissa := by positivity
    rw [if_pos rfl, neg_one_mul, neg_mul]
    linarith [mul_nonneg hmantissaPos hpos.le]

/-- A number that is at most half a unit of its last bit away is a nearest one, unless it has but
the leading bit: below a power of two the numbers stand twice as close. -/
theorem isNearest_of_halfUnit {bits : UInt64} {mantissa : Nat} {exponent : Int} {q : ℚ}
    (hbits : ofBits bits = .finite false mantissa exponent)
    (hlow : 2 ^ 52 * 2 ^ exponent + 2 ^ exponent / 2 ≤ q)
    (hnear : |(mantissa : ℚ) * 2 ^ exponent - q| ≤ 2 ^ exponent / 2) : IsNearest bits q := by
  have hx : (ofBits bits).value? = some ((mantissa : ℚ) * 2 ^ exponent) := by
    rw [hbits, value?, if_neg (by decide), one_mul]
  refine ⟨_, hx, fun bits' y hy => ?_⟩
  have hunit : (0 : ℚ) < 2 ^ exponent := by positivity
  cases hother : ofBits bits' with
  | nan =>
    rw [hother] at hy
    cases hy
  | infinite negative =>
    rw [hother] at hy
    cases hy
  | finite negative mantissa' exponent' =>
    by_cases hexponent : exponent ≤ exponent'
    · obtain ⟨k, hk⟩ := exists_eq_mul_zpow (hother ▸ hy) hexponent
      by_cases hsame : k = mantissa
      · rw [hk, hsame, Int.cast_natCast]
      · -- Two multiples of the unit are a unit apart.
        have hapart : (1 : ℚ) ≤ |(k : ℚ) - mantissa| := by
          exact_mod_cast Int.one_le_abs (sub_ne_zero.2 hsame)
        have hdistance : |y - mantissa * 2 ^ exponent| = |(k : ℚ) - mantissa| * 2 ^ exponent := by
          rw [hk, ← sub_mul, abs_mul, abs_of_pos hunit]
        have hone := mul_le_mul_of_nonneg_right hapart hunit.le
        have htriangle := abs_sub_le y q (mantissa * 2 ^ exponent)
        rw [abs_sub_comm q] at htriangle
        linarith
    · have hle := value?_le_of_lt hother hy (not_le.1 hexponent)
      have hsub := neg_le_abs (y - q)
      linarith

end Binary64

end PayLink.Decimal
