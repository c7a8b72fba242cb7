import PayLink.Proofs.Decimal.Rounding
import PayLink.Proofs.Decimal.Text
/-!
# Decimal text with a fixed number of fractional digits

A number is printed with a fixed number of fractional digits as a plain decimal number that is as
near to it as any, and whose digits are even if another one is equally near. Without the point, the
digits are the number of units of the last place, rounded once.
-/

namespace PayLink.Decimal

/-- A text that prints `x` with `places` fractional digits. -/
structure IsFixedText (x : ℚ) (places : Nat) (cs : List Char) : Prop where
  /-- It is a plain decimal number. -/
  plain : IsPlain cs
  /-- It has as many fractional digits as there are places. -/
  fraction_length : (fractionOf cs).length = places
  /-- It is at most half a unit of the last place away. -/
  near : |x - valueOf cs| * 10 ^ places ≤ 1 / 2
  /-- Of two texts that are half a unit away, it is the one that ends with an even digit. -/
  even : |x - valueOf cs| * 10 ^ places = 1 / 2 → Nat.ofDigitChars 10 (digitsOf cs) 0 % 2 = 0

/-- A text whose fraction fills the places denotes as many units of the last place as its digits
say. -/
theorem valueOf_mul_pow_of_length {cs : List Char} {places : Nat}
    (h : (fractionOf cs).length = places) :
    valueOf cs * 10 ^ places = Nat.ofDigitChars 10 (digitsOf cs) 0 := by
  rw [valueOf_mul_pow h.le, h, Nat.sub_self, pow_zero, Nat.mul_one]

/-- The distance to such a text, counted in units of the last place. -/
theorem abs_sub_valueOf_mul_pow {cs : List Char} {places : Nat} (x : ℚ)
    (h : (fractionOf cs).length = places) :
    |x - valueOf cs| * 10 ^ places = |x * 10 ^ places - Nat.ofDigitChars 10 (digitsOf cs) 0| := by
  have hpow : (0 : ℚ) < 10 ^ places := by positivity
  rw [← valueOf_mul_pow_of_length h, ← sub_mul, abs_mul, abs_of_pos hpow]

/-- The digits of a printed number are its rounding in units of the last place. -/
theorem IsFixedText.isRounding {x : ℚ} {places : Nat} {cs : List Char}
    (h : IsFixedText x places cs) :
    IsRounding (x * 10 ^ places) (Nat.ofDigitChars 10 (digitsOf cs) 0) where
  near := by
    rw [← abs_sub_valueOf_mul_pow x h.fraction_length]
    exact h.near
  even := by
    rw [← abs_sub_valueOf_mul_pow x h.fraction_length]
    exact h.even

/-- The text of `n` units of the last place with all fractional digits. -/
def fixedText (n places : Nat) : List Char :=
  let ds := padded n places
  let cut := ds.length - places
  pointed (ds.take cut) (ds.drop cut)

/-- The text of the rounding prints the number. -/
theorem isFixedText_fixedText {x : ℚ} {n places : Nat} (h : IsRounding (x * 10 ^ places) n) :
    IsFixedText x places (fixedText n places) := by
  have hlong := lt_length_padded n places
  have hdigit : ∀ c ∈ padded n places, c.isDigit = true := fun c hc => isDigit_of_mem_padded hc
  obtain ⟨hwhole, hfraction⟩ := parts_pointed
    (point_not_mem fun c hc => hdigit c (List.mem_of_mem_take hc))
    ((padded n places).drop ((padded n places).length - places))
  have hlength : (fractionOf (fixedText n places)).length = places := by
    rw [fixedText, hfraction, List.length_drop]
    omega
  have hdigits : digitsOf (fixedText n places) = padded n places := by
    rw [fixedText, digitsOf_eq, hwhole, hfraction, List.take_append_drop]
    rw [hfraction]
    exact point_not_mem fun c hc => hdigit c (List.mem_of_mem_drop hc)
  have hvalue : Nat.ofDigitChars 10 (digitsOf (fixedText n places)) 0 = n := by
    rw [hdigits, ofDigitChars_padded]
  constructor
  · rw [isPlain_iff, hdigits, fixedText, hwhole, hfraction, List.take_append_drop]
    exact ⟨hdigit, List.ne_nil_of_length_pos (Nat.zero_lt_of_lt hlong)⟩
  · exact hlength
  · rw [abs_sub_valueOf_mul_pow x hlength, hvalue]
    exact h.near
  · rw [abs_sub_valueOf_mul_pow x hlength, hvalue]
    exact h.even

end PayLink.Decimal
