/-!
# Positional numerals

A number written with big-endian digits in some base, and the digits of a number. The main
statements say that the digits of a number have that number as their value, and that every digit
is below the base. Base58 text and the bytes of an address are two numerals of one number.
-/

namespace PayLink.Positional

/-- The number that the big-endian digits `ds` denote in base `b`. -/
def value (b : Nat) (ds : List Nat) : Nat :=
  ds.foldl (fun n d => n * b + d) 0

/-- Without digits the number is zero. -/
@[simp] theorem value_nil (b : Nat) : value b [] = 0 := rfl

/-- A last digit multiplies what stands before it by the base. -/
@[simp] theorem value_concat (b : Nat) (ds : List Nat) (d : Nat) :
    value b (ds ++ [d]) = value b ds * b + d := by
  simp [value]

/-- The digits of `n` in base `b`, the most significant one first and not zero. Zero has no
digits, and neither has any number in a base below two. -/
def digits (b n : Nat) : List Nat :=
  if 2 ≤ b ∧ 0 < n then digits b (n / b) ++ [n % b] else []
termination_by n
decreasing_by rename_i h; exact Nat.div_lt_self h.2 h.1

/-- In a base of at least two, the digits of a number denote it. -/
theorem value_digits {b : Nat} (hb : 2 ≤ b) (n : Nat) : value b (digits b n) = n := by
  induction n using Nat.strongRecOn with
  | ind n ih =>
    rw [digits]
    split
    · rename_i h
      rw [value_concat, ih _ (Nat.div_lt_self h.2 h.1)]
      exact Nat.div_add_mod' n b
    · simp; omega

/-- Every digit is below the base. -/
theorem lt_of_mem_digits {b n d : Nat} (h : d ∈ digits b n) : d < b := by
  induction n using Nat.strongRecOn with
  | ind n ih =>
    rw [digits] at h
    split at h
    · rename_i hb
      rcases List.mem_append.1 h with h | h
      · exact ih _ (Nat.div_lt_self hb.2 hb.1) h
      · simp only [List.mem_singleton] at h
        subst h
        exact Nat.mod_lt _ (by omega)
    · simp at h

end PayLink.Positional
