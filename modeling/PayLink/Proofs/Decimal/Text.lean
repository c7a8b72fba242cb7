import Mathlib.Data.List.Induction
import PayLink.Decimal.Text
import PayLink.Proofs.Decimal.Value
import PayLink.Proofs.Text.Ascii
/-!
# The text of a scaled number

The text of `n / 10 ^ places` has a whole part that is not empty and a fraction of at most `places`
digits that does not end with a zero. Its digits, scaled by the places that the fraction leaves, are
`n` again, so the text denotes the number exactly.
-/

namespace PayLink.Decimal

/-- The whole part of the text of `n / 10 ^ places`. -/
def wholeDigits (n places : Nat) : List Char :=
  (padded n places).take ((padded n places).length - places)

/-- The fraction in the text of `n / 10 ^ places`. -/
def fractionDigits (n places : Nat) : List Char :=
  trimZeros ((padded n places).drop ((padded n places).length - places))

/-- A scaled number is written as its whole digits and the digits of its fraction. -/
theorem scaledText_eq (n places : Nat) :
    scaledText n places = pointed (wholeDigits n places) (fractionDigits n places) := rfl

/-- Only zero begins with the digit zero. -/
theorem toDigits_eq_zero_cons {n : Nat} {ds : List Char} (h : Nat.toDigits 10 n = '0' :: ds) :
    ds = [] := by
  induction n using Nat.strongRecOn generalizing ds with
  | ind n ih =>
    by_cases hn : n < 10
    · rw [Nat.toDigits_of_lt_base hn] at h
      exact (List.cons.inj h).2.symm
    · rw [Nat.toDigits_of_base_le (by decide) (by omega)] at h
      cases hhead : Nat.toDigits 10 (n / 10) with
      | nil => exact absurd hhead Nat.toDigits_ne_nil
      | cons c cs =>
        rw [hhead, List.cons_append, List.cons.injEq] at h
        rw [h.1] at hhead
        have hzero := Nat.ofDigitChars_toDigits (b := 10) (n := n / 10) (by decide) (by decide)
        rw [hhead, ih _ (by omega) hhead] at hzero
        have : n / 10 = 0 := hzero.symm
        omega

/-- There are more digits than places. -/
theorem lt_length_padded (n places : Nat) : places < (padded n places).length := by
  rw [padded, List.leftpad, List.length_append, List.length_replicate]
  omega

/-- Digits in front and behind are digits. -/
theorem isDigit_of_mem_padded {n places : Nat} {c : Char} (h : c ∈ padded n places) :
    c.isDigit = true := by
  rcases List.mem_append.1 h with h | h
  · rw [List.eq_of_mem_replicate h]
    rfl
  · exact Nat.isDigit_of_mem_toDigits (by decide) (by decide) h

/-- Zeros in front do not count. -/
theorem ofDigitChars_padded (n places : Nat) :
    Nat.ofDigitChars 10 (padded n places) 0 = n := by
  rw [padded, List.leftpad, Nat.ofDigitChars_append, Nat.ofDigitChars_replicate_zero,
    Nat.mul_zero, Nat.ofDigitChars_ten_toDigits]

/-- Digits are those that are kept and the zeros that are dropped at their end. -/
theorem trimZeros_append (ds : List Char) :
    ∃ count, ds = trimZeros ds ++ List.replicate count '0' := by
  have hsplit := List.takeWhile_append_dropWhile (p := (· = '0')) (l := ds.reverse)
  have hzeros : ds.reverse.takeWhile (· = '0') =
      List.replicate (ds.reverse.takeWhile (· = '0')).length '0' := by
    refine List.eq_replicate_of_mem fun c hc => ?_
    exact of_decide_eq_true (List.all_eq_true.1 List.all_takeWhile c hc)
  refine ⟨(ds.reverse.takeWhile (· = '0')).length, ?_⟩
  rw [trimZeros, ← List.reverse_replicate, ← hzeros, ← List.reverse_append, hsplit,
    List.reverse_reverse]

/-- No zero is left at the end. -/
theorem getLast?_trimZeros_ne (ds : List Char) : (trimZeros ds).getLast? ≠ some '0' := by
  intro h
  rw [trimZeros, List.getLast?_reverse] at h
  have hhead := List.head?_dropWhile_not (· = '0') ds.reverse
  rw [h] at hhead
  cases hhead

/-- The whole part is not empty. -/
theorem wholeDigits_ne_nil (n places : Nat) : wholeDigits n places ≠ [] := by
  intro h
  have hlength := congrArg List.length h
  have hlt := lt_length_padded n places
  rw [wholeDigits, List.length_take, List.length_nil] at hlength
  omega

/-- The padded digits are the whole part, the fraction and the zeros that are dropped. -/
theorem padded_eq (n places : Nat) :
    (fractionDigits n places).length ≤ places ∧
      padded n places = wholeDigits n places ++ fractionDigits n places ++
        List.replicate (places - (fractionDigits n places).length) '0' := by
  have hlt := lt_length_padded n places
  obtain ⟨count, hcount⟩ :=
    trimZeros_append ((padded n places).drop ((padded n places).length - places))
  have hlength := congrArg List.length hcount
  rw [List.length_drop, List.length_append, List.length_replicate, ← fractionDigits] at hlength
  have hle : (fractionDigits n places).length ≤ places := by omega
  have hzeros : count = places - (fractionDigits n places).length := by omega
  refine ⟨hle, ?_⟩
  rw [← hzeros, List.append_assoc, fractionDigits, ← hcount, wholeDigits, List.take_append_drop]

/-- The whole part and the fraction are digits. -/
theorem isDigit_of_mem_parts {n places : Nat} {c : Char}
    (h : c ∈ wholeDigits n places ++ fractionDigits n places) : c.isDigit = true := by
  have hmem : c ∈ padded n places := by
    rw [(padded_eq n places).2]
    exact List.mem_append_left _ h
  exact isDigit_of_mem_padded hmem

/-- The digits of the text, scaled by the places that its fraction leaves, are the number. -/
theorem ofDigitChars_parts_mul (n places : Nat) :
    Nat.ofDigitChars 10 (wholeDigits n places ++ fractionDigits n places) 0 *
      10 ^ (places - (fractionDigits n places).length) = n := by
  have hvalue := ofDigitChars_padded n places
  rw [(padded_eq n places).2, Nat.ofDigitChars_append, Nat.ofDigitChars_replicate_zero] at hvalue
  rw [Nat.mul_comm]
  exact hvalue

/-- Cutting a pointed text gives its parts. -/
theorem parts_pointed {whole : List Char} (hw : '.' ∉ whole) (fraction : List Char) :
    wholeOf (pointed whole fraction) = whole ∧
      fractionOf (pointed whole fraction) = fraction := by
  have hall : ∀ c ∈ whole, decide (c ≠ '.') = true := fun c hc =>
    decide_eq_true fun he => hw (he ▸ hc)
  unfold pointed
  split
  · rename_i hempty
    rw [List.isEmpty_iff.1 hempty]
    rw [wholeOf, fractionOf, ← List.append_nil whole, List.takeWhile_append_of_pos hall,
      List.dropWhile_append_of_pos hall]
    exact ⟨rfl, rfl⟩
  · rw [wholeOf, fractionOf, List.takeWhile_append_of_pos hall, List.dropWhile_append_of_pos hall,
      List.takeWhile_cons, List.dropWhile_cons]
    exact ⟨List.append_nil whole, rfl⟩

/-- The parts of the text of a scaled number. -/
theorem parts_scaledText (n places : Nat) :
    wholeOf (scaledText n places) = wholeDigits n places ∧
      fractionOf (scaledText n places) = fractionDigits n places := by
  rw [scaledText_eq]
  exact parts_pointed
    (point_not_mem fun c hc => isDigit_of_mem_parts (List.mem_append_left _ hc)) _

/-- The whole part of the text of a scaled number. -/
theorem wholeOf_scaledText (n places : Nat) :
    wholeOf (scaledText n places) = wholeDigits n places :=
  (parts_scaledText n places).1

/-- The fraction of the text of a scaled number. -/
theorem fractionOf_scaledText (n places : Nat) :
    fractionOf (scaledText n places) = fractionDigits n places :=
  (parts_scaledText n places).2

/-- The digits of the text of a scaled number. -/
theorem digitsOf_scaledText (n places : Nat) :
    digitsOf (scaledText n places) = wholeDigits n places ++ fractionDigits n places := by
  rw [digitsOf_eq, wholeOf_scaledText, fractionOf_scaledText]
  rw [fractionOf_scaledText]
  exact point_not_mem fun c hc => isDigit_of_mem_parts (List.mem_append_right _ hc)

/-- The text of a scaled number is a plain decimal number. -/
theorem isPlain_scaledText (n places : Nat) : IsPlain (scaledText n places) := by
  rw [isPlain_iff, wholeOf_scaledText, fractionOf_scaledText, digitsOf_scaledText]
  exact ⟨fun c hc => isDigit_of_mem_parts hc,
    List.append_ne_nil_of_left_ne_nil (wholeDigits_ne_nil n places) _⟩

/-- The text of a scaled number denotes it. -/
theorem valueOf_scaledText (n places : Nat) :
    valueOf (scaledText n places) * 10 ^ places = n := by
  have hle : (fractionOf (scaledText n places)).length ≤ places := by
    rw [fractionOf_scaledText]
    exact (padded_eq n places).1
  rw [valueOf_mul_pow hle, digitsOf_scaledText, fractionOf_scaledText, ofDigitChars_parts_mul]

/-- A digit other than zero has a value from one to nine. -/
theorem digit_value_bounds {c : Char} (hdigit : c.isDigit = true) (hne : c ≠ '0') :
    0 < c.toNat - '0'.toNat ∧ c.toNat - '0'.toNat < 10 := by
  have hbounds := Text.toNat_bounds_of_isDigit hdigit
  have hzero : '0'.toNat = 48 := rfl
  have hc : c.toNat ≠ 48 := fun he => hne (Char.toNat_inj.1 he)
  omega

/-- Digits that do not end with the digit zero have a value that is no multiple of ten. -/
theorem ofDigitChars_append_mod_ne {whole fraction : List Char} (hne : fraction ≠ [])
    (hdigit : ∀ c ∈ fraction, c.isDigit = true) (hlast : fraction.getLast? ≠ some '0') :
    Nat.ofDigitChars 10 (whole ++ fraction) 0 % 10 ≠ 0 := by
  have hzero : fraction.getLast hne ≠ '0' := by
    intro he
    exact hlast (by rw [List.getLast?_eq_some_getLast hne, he])
  have hbounds := digit_value_bounds (hdigit _ (List.getLast_mem hne)) hzero
  rw [← List.dropLast_append_getLast hne, ← List.append_assoc, Nat.ofDigitChars_append,
    Nat.ofDigitChars_cons, Nat.ofDigitChars_nil]
  omega

/-- The digits of a text with a fraction do not end with a zero. -/
theorem ofDigitChars_parts_mod_ne {n places : Nat} (h : (fractionDigits n places).length ≠ 0) :
    Nat.ofDigitChars 10 (wholeDigits n places ++ fractionDigits n places) 0 % 10 ≠ 0 := by
  have hne : fractionDigits n places ≠ [] := fun he => h (by rw [he]; rfl)
  exact ofDigitChars_append_mod_ne hne
    (fun c hc => isDigit_of_mem_parts (List.mem_append_right _ hc)) (getLast?_trimZeros_ne _)

/-- The text of a scaled number is read exactly as long as it has neither too many fractional digits
nor too large a number of digits. -/
theorem ofText?_scaledText (n places : Nat) :
    Exact.ofText? (scaledText n places) =
      if (fractionOf (scaledText n places)).length ≤ 28 ∧
          Nat.ofDigitChars 10 (digitsOf (scaledText n places)) 0 < 2 ^ 96 then
        some (writtenExact (scaledText n places))
      else none := by
  rw [ofText?_eq]
  refine if_congr ⟨fun h => ⟨h.fraction_length, h.digits_lt⟩, fun h => ?_⟩ rfl rfl
  exact ⟨isPlain_scaledText n places, h.1, h.2⟩

end PayLink.Decimal
