import Mathlib.Algebra.Order.Field.Rat
import Mathlib.Tactic.FieldSimp
import Mathlib.Tactic.Linarith
import Mathlib.Tactic.Positivity
import PayLink.Decimal.Rounding
/-!
# Rounding to the nearest integer

A rational number is rounded to the integer that is nearest to it, and to the even one of two that
are equally near. There is one such integer, and a greater number is not rounded to a smaller one.
The rounded quotient is the rounding of the rational number that the quotient is.
-/

namespace PayLink.Decimal

/-- The integer `n` is nearest to `q`, and it is even if another one is equally near. -/
structure IsRounding (q : ℚ) (n : Nat) : Prop where
  /-- It is at most half a unit away. -/
  near : |q - n| ≤ 1 / 2
  /-- Of two that are half a unit away, it is the even one. -/
  even : |q - n| = 1 / 2 → n % 2 = 0

/-- What is less than half a unit away is the rounding. -/
theorem isRounding_of_lt {q : ℚ} {n : Nat} (h : |q - n| < 1 / 2) : IsRounding q n where
  near := h.le
  even htie := absurd htie h.ne

namespace IsRounding

variable {p q : ℚ} {m n : Nat}

/-- A greater number is not rounded to a smaller integer. -/
theorem le_of_le (hm : IsRounding p m) (hn : IsRounding q n) (h : p ≤ q) : m ≤ n := by
  by_contra hlt
  have hstep : (n : ℚ) + 1 ≤ m := by exact_mod_cast not_le.1 hlt
  obtain ⟨hlow, -⟩ := abs_le.1 hm.near
  obtain ⟨-, hhigh⟩ := abs_le.1 hn.near
  -- Both are half a unit away from one number, so both are even; but they are neighbours.
  have hbelow : p - m = -(1 / 2) := by linarith
  have habove : q - n = 1 / 2 := by linarith
  have hnext : m = n + 1 := by
    have hcast : (m : ℚ) = n + 1 := by linarith
    exact_mod_cast hcast
  have hmeven := hm.even (by rw [hbelow, abs_neg, abs_of_pos one_half_pos])
  have hneven := hn.even (by rw [habove, abs_of_pos one_half_pos])
  omega

/-- A number has one rounding. -/
theorem unique (hm : IsRounding q m) (hn : IsRounding q n) : m = n :=
  Nat.le_antisymm (hm.le_of_le hn le_rfl) (hn.le_of_le hm le_rfl)

end IsRounding

/-- Half a unit away from a quotient there is only an integer next to its whole part, and the rounded
quotient is even then. -/
theorem roundHalfEven_even {num den : Nat} (h : 0 < den)
    (htie : 2 * num = 2 * (roundHalfEven num den * den) + den ∨
      2 * (roundHalfEven num den * den) = 2 * num + den) :
    roundHalfEven num den % 2 = 0 := by
  have hdiv : den * (num / den) + num % den = num := Nat.div_add_mod num den
  have hmod : num % den < den := Nat.mod_lt _ h
  simp only [roundHalfEven] at htie ⊢
  generalize num / den = quotient at *
  generalize num % den = remainder at *
  have hcomm : quotient * den = den * quotient := Nat.mul_comm ..
  have hnext : (quotient + 1) * den = den * quotient + den := by
    rw [Nat.add_mul, Nat.one_mul, hcomm]
  rcases Nat.lt_trichotomy (2 * remainder) den with hless | htied | hmore
  · rw [if_pos hless] at htie
    omega
  · rw [if_neg (by omega), if_neg (by omega)]
    by_cases heven : quotient % 2 = 0
    · rw [if_pos heven]
      exact heven
    · rw [if_neg heven]
      omega
  · rw [if_neg (by omega), if_pos hmore] at htie
    omega

/-- The rounded quotient is the rounding of the quotient. -/
theorem isRounding_roundHalfEven (num : Nat) {den : Nat} (h : 0 < den) :
    IsRounding (num / den) (roundHalfEven num den) := by
  have hden : (0 : ℚ) < den := by exact_mod_cast h
  have hdistance : (num : ℚ) / den - roundHalfEven num den =
      (num - roundHalfEven num den * den) / den := by
    field_simp
  obtain ⟨hupper, hlower⟩ := roundHalfEven_near num den h
  constructor
  · have hupper' : (2 * (roundHalfEven num den * den) : ℚ) ≤ 2 * num + den := by
      exact_mod_cast hupper
    have hlower' : (2 * num : ℚ) ≤ 2 * (roundHalfEven num den * den) + den := by
      exact_mod_cast hlower
    rw [hdistance, abs_le, le_div_iff₀ hden, div_le_iff₀ hden]
    constructor <;> linarith
  · intro htie
    refine roundHalfEven_even h ?_
    rw [hdistance, abs_eq one_half_pos.le, div_eq_iff hden.ne', div_eq_iff hden.ne'] at htie
    rcases htie with habove | hbelow
    · left
      have hcast : (2 * num : ℚ) = 2 * (roundHalfEven num den * den) + den := by linarith
      exact_mod_cast hcast
    · right
      have hcast : (2 * (roundHalfEven num den * den) : ℚ) = 2 * num + den := by linarith
      exact_mod_cast hcast

end PayLink.Decimal
