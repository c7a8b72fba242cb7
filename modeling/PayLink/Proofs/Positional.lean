import Mathlib.Data.Nat.Digits.Lemmas
import PayLink.Positional
/-!
# The digits of a value

Leading zeros do not count, so digits without one are the digits of their value, and a number below
a power of the base has no more digits than the exponent says.
-/

namespace PayLink.Positional

/-- The digits are those of the little-endian numeral, read from the other end. -/
theorem digits_eq_reverse {b : Nat} (hb : 2 ≤ b) (n : Nat) :
    digits b n = (Nat.digits b n).reverse := by
  induction n using Nat.strongRecOn with
  | ind n ih =>
    rw [digits]
    split
    · rename_i h
      rw [ih _ (Nat.div_lt_self h.2 h.1), Nat.digits_of_two_le_of_pos h.1 h.2,
        List.reverse_cons]
    · have hn : n = 0 := by omega
      subst hn
      rw [Nat.digits_zero, List.reverse_nil]

/-- The value is that of the little-endian numeral with the same digits. -/
theorem value_eq_ofDigits (b : Nat) (ds : List Nat) :
    value b ds = Nat.ofDigits b ds.reverse := by
  induction ds using List.reverseRecOn with
  | nil => rfl
  | append_singleton ds d ih =>
    rw [value_concat, ih, List.reverse_append, List.reverse_singleton, List.singleton_append,
      Nat.ofDigits_cons, Nat.mul_comm, Nat.add_comm]

/-- Leading zeros do not count. -/
theorem value_replicate_zero_append (b count : Nat) (ds : List Nat) :
    value b (List.replicate count 0 ++ ds) = value b ds := by
  rw [value_eq_ofDigits, value_eq_ofDigits, List.reverse_append, List.reverse_replicate,
    Nat.ofDigits_append_replicate_zero]

/-- Digits below the base, of which the first is not zero, are the digits of their value. -/
theorem digits_value {b : Nat} (hb : 2 ≤ b) {ds : List Nat} (hlt : ∀ d ∈ ds, d < b)
    (hhead : ds.head? ≠ some 0) : digits b (value b ds) = ds := by
  rw [digits_eq_reverse hb, value_eq_ofDigits, Nat.digits_ofDigits b hb]
  · exact List.reverse_reverse ds
  · intro d hd
    exact hlt d (List.mem_reverse.1 hd)
  · intro hne hzero
    refine hhead ?_
    rw [← List.getLast?_reverse, List.getLast?_eq_some_getLast hne, hzero]

/-- The first digit of a number is not zero. -/
theorem head?_digits_ne {b : Nat} (hb : 2 ≤ b) (n : Nat) : (digits b n).head? ≠ some 0 := by
  rw [digits_eq_reverse hb, List.head?_reverse]
  intro h
  by_cases hn : n = 0
  · subst hn
    rw [Nat.digits_zero] at h
    cases h
  · rw [List.getLast?_eq_some_getLast (Nat.digits_ne_nil_iff_ne_zero.2 hn)] at h
    exact Nat.getLast_digit_ne_zero b hn (Option.some.inj h)

/-- A number below the `k`-th power of the base has at most `k` digits. -/
theorem length_digits_le {b k n : Nat} (hb : 2 ≤ b) (h : n < b ^ k) : (digits b n).length ≤ k := by
  rw [digits_eq_reverse hb, List.length_reverse]
  exact (Nat.digits_length_le_iff hb n).2 h

/-- Digits below the base have a value below the power of the base that their number says. -/
theorem value_lt {b : Nat} (hb : 2 ≤ b) {ds : List Nat} (hlt : ∀ d ∈ ds, d < b) :
    value b ds < b ^ ds.length := by
  rw [value_eq_ofDigits, ← List.length_reverse]
  exact Nat.ofDigits_lt_base_pow_length hb fun d hd => hlt d (List.mem_reverse.1 hd)

end PayLink.Positional
