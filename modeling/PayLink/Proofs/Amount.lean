import PayLink.Amount.Conversion
import PayLink.Proofs.Decimal.Text
import PayLink.Proofs.Outcome
/-!
# Amounts and their decimal texts

An amount that is read from a text is the number that the text denotes, counted in minor units. The
text of an amount is read back as that amount as long as it is not too long to be read, and is
refused otherwise, so it is never read as another amount. It is short enough exactly if the amount
is a number below 2^96 counted in one of the first 28 decimal places; only a zero is short enough
with any number of places, and more than 38 are too many to scale it.
-/

namespace PayLink.Amount

open Decimal

/-- The decimal text of an amount can be read: it has at most 28 fractional digits, its digits are a
number below 2^96, and the power of ten that scales a zero fits in 128 bits. -/
def TextFits (a : Amount) (places : UInt8) : Prop :=
  (fractionOf (a.decimalText places).toList).length ≤ 28 ∧
    Nat.ofDigitChars 10 (digitsOf (a.decimalText places).toList) 0 < 2 ^ 96 ∧
    (a.units = 0 → places.toNat ≤ 38)

instance (a : Amount) (places : UInt8) : Decidable (a.TextFits places) :=
  inferInstanceAs (Decidable (_ ∧ _ ∧ _))

/-- The characters of the decimal text of an amount. -/
theorem toList_decimalText (a : Amount) (places : UInt8) :
    (a.decimalText places).toList = scaledText a.units places.toNat := by
  rw [decimalText, String.toList_ofList]

/-- The decimal text of an amount is not empty. -/
theorem decimalText_toList_ne_nil (a : Amount) (places : UInt8) :
    (a.decimalText places).toList ≠ [] := by
  have hne := wholeDigits_ne_nil a.units places.toNat
  rw [toList_decimalText, scaledText_eq, pointed]
  split
  · exact hne
  · exact List.append_ne_nil_of_left_ne_nil hne _

/-- The powers of ten that fit in 128 bits. -/
theorem pow_ten_lt_iff {n : Nat} : 10 ^ n < 2 ^ 128 ↔ n ≤ 38 := by
  constructor
  · intro h
    by_contra hn
    have hbig : 10 ^ 39 ≤ 10 ^ n := Nat.pow_le_pow_right (by decide) (by omega)
    have h39 : 2 ^ 128 ≤ 10 ^ 39 := by decide
    omega
  · intro h
    exact Nat.lt_of_le_of_lt (Nat.pow_le_pow_right (by decide) h) (by decide)

/-- The power of ten that scales a number to an amount fits; for a zero it has to fit by itself. -/
theorem pow_ten_lt_of_mul_lt {mantissa n : Nat} (h : mantissa * 10 ^ n < 2 ^ 128)
    (hzero : mantissa = 0 → n ≤ 38) : 10 ^ n < 2 ^ 128 := by
  by_cases hm : mantissa = 0
  · exact pow_ten_lt_iff.2 (hzero hm)
  · exact Nat.lt_of_le_of_lt (Nat.le_mul_of_pos_left _ (Nat.pos_of_ne_zero hm)) h

/-- An exact decimal is an amount if it has no digit beyond the last place and both the power of ten
that scales it and the scaled number fit. -/
theorem ofExact_eq_ok_iff {d : Exact} {places : Nat} {a : Amount} :
    ofExact d places = .ok a ↔
      d.scale ≤ places ∧ 10 ^ (places - d.scale) < 2 ^ 128 ∧
        a.units = d.mantissa * 10 ^ (places - d.scale) := by
  have hpow : Nat.pow 10 (places - d.scale) = 10 ^ (places - d.scale) := Nat.pow_eq
  have hbound : amountBound = 2 ^ 128 := Nat.pow_eq
  unfold ofExact
  rw [hpow]
  by_cases hscale : places < d.scale
  · rw [if_pos hscale]
    constructor
    · intro h
      cases h
    · intro h
      omega
  · rw [if_neg hscale]
    by_cases hfits : 10 ^ (places - d.scale) < amountBound
    · rw [if_pos hfits]
      by_cases hunits : d.mantissa * 10 ^ (places - d.scale) < amountBound
      · rw [ofNat?, dif_pos hunits]
        constructor
        · intro h
          cases h
          exact ⟨by omega, hbound ▸ hfits, rfl⟩
        · rintro ⟨-, -, h⟩
          exact congrArg Except.ok (eq_of_units h.symm)
      · rw [ofNat?, dif_neg hunits]
        constructor
        · intro h
          cases h
        · rintro ⟨-, -, h⟩
          exact absurd (h ▸ a.units_lt) hunits
    · rw [if_neg hfits]
      constructor
      · intro h
        cases h
      · rintro ⟨-, h, -⟩
        exact absurd (hbound ▸ h) hfits

/-- A text is an amount if it is read exactly and the decimal that it writes is one. -/
theorem parse_eq_ok_iff {s : String} {places : UInt8} {a : Amount} :
    parse s places = .ok a ↔
      ∃ d, Exact.ofText? s.toList = some d ∧ ofExact d.normalize places.toNat = .ok a := by
  rw [parse, mapError_eq_ok_iff, ofDecimal]
  cases Exact.ofText? s.toList with
  | none =>
    constructor
    · intro h
      cases h
    · rintro ⟨_, h, -⟩
      cases h
  | some d =>
    constructor
    · intro h
      exact ⟨d, rfl, h⟩
    · rintro ⟨_, hd, h⟩
      obtain rfl := Option.some.inj hd
      exact h

/-- What is refused as an amount is refused as an invalid amount. -/
theorem parse_eq_error {s : String} {places : UInt8} (h : ∀ a, parse s places ≠ .ok a) :
    ∃ reason, parse s places = .error (.invalidAmount reason) := by
  cases hd : ofDecimal s.toList places.toNat with
  | error flaw => exact ⟨_, by rw [parse, hd]; rfl⟩
  | ok a => exact absurd (by rw [parse, hd]; rfl) (h a)

/-- An amount that is read from a text is the number that the text denotes, in minor units. -/
theorem units_of_parse {s : String} {places : UInt8} {a : Amount} (h : parse s places = .ok a) :
    (a.units : ℚ) = valueOf s.toList * 10 ^ places.toNat := by
  obtain ⟨d, hd, hexact⟩ := parse_eq_ok_iff.1 h
  obtain ⟨hscale, -, hunits⟩ := ofExact_eq_ok_iff.1 hexact
  have hvalue : d.normalize.value = valueOf s.toList := by
    rw [value_normalize, (ofText?_eq_some_iff.1 hd).2]
    rfl
  rw [← hvalue, Exact.value_mul_pow hscale, hunits]

/-- The text of an amount is read back, if it can be read. -/
theorem parse_decimalText {a : Amount} {places : UInt8} (h : a.TextFits places) :
    parse (a.decimalText places) places = .ok a := by
  obtain ⟨hfraction, hdigits, hzero⟩ := h
  rw [toList_decimalText] at hfraction hdigits
  have htext := ofText?_scaledText a.units places.toNat
  rw [if_pos ⟨hfraction, hdigits⟩, writtenExact, fractionOf_scaledText,
    digitsOf_scaledText] at htext
  refine parse_eq_ok_iff.2 ⟨_, by rw [toList_decimalText]; exact htext, ?_⟩
  have hunits := ofDigitChars_parts_mul a.units places.toNat
  rw [normalize_eq_self ofDigitChars_parts_mod_ne, ofExact_eq_ok_iff]
  refine ⟨(padded_eq a.units places.toNat).1, ?_, hunits.symm⟩
  refine pow_ten_lt_of_mul_lt (hunits ▸ a.units_lt) fun hm => ?_
  have hnone : a.units = 0 := by rw [← hunits, hm, Nat.zero_mul]
  exact Nat.le_trans (Nat.sub_le _ _) (hzero hnone)

/-- An amount is carried by its text with `places` decimal places: it is a number below 2^96 counted
in one of the first 28 of them, and a zero has no more of them than 128 bits can scale. -/
def IsCarried (a : Amount) (places : UInt8) : Prop :=
  (∃ mantissa scale, mantissa < 2 ^ 96 ∧ scale ≤ 28 ∧ scale ≤ places.toNat ∧
      a.units = mantissa * 10 ^ (places.toNat - scale)) ∧
    (a.units = 0 → places.toNat ≤ 38)

/-- The digits in the text of an amount are those that are left of any number that it is, once the
zeros at its end are dropped. -/
theorem dropZeros_eq_text {a : Amount} {places : UInt8} {mantissa scale : Nat}
    (hscale : scale ≤ places.toNat) (h : a.units = mantissa * 10 ^ (places.toNat - scale)) :
    Exact.dropZeros mantissa scale =
      ⟨Nat.ofDigitChars 10 (digitsOf (a.decimalText places).toList) 0,
        (fractionOf (a.decimalText places).toList).length⟩ := by
  obtain ⟨hnormal, -, hshort⟩ := dropZeros_bounds mantissa scale
  rw [toList_decimalText, digitsOf_scaledText, fractionOf_scaledText]
  refine eq_of_scaled_eq hnormal ofDigitChars_parts_mod_ne (Nat.le_trans hshort hscale)
    (padded_eq a.units places.toNat).1 ?_
  rw [scaled_dropZeros mantissa hscale, ← h, ofDigitChars_parts_mul]

/-- The text of an amount can be read exactly if the amount is carried by it. -/
theorem textFits_iff_isCarried {a : Amount} {places : UInt8} :
    a.TextFits places ↔ a.IsCarried places := by
  constructor
  · rintro ⟨hfraction, hdigits, hzero⟩
    have hunits := ofDigitChars_parts_mul a.units places.toNat
    rw [toList_decimalText, fractionOf_scaledText] at hfraction
    rw [toList_decimalText, digitsOf_scaledText] at hdigits
    exact ⟨⟨_, _, hdigits, hfraction, (padded_eq a.units places.toNat).1, hunits.symm⟩, hzero⟩
  · rintro ⟨⟨mantissa, scale, hmantissa, hmax, hscale, hunits⟩, hzero⟩
    obtain ⟨-, hless, hshort⟩ := dropZeros_bounds mantissa scale
    rw [dropZeros_eq_text hscale hunits] at hless hshort
    dsimp only at hless hshort
    exact ⟨Nat.le_trans hshort hmax, Nat.lt_of_le_of_lt hless hmantissa, hzero⟩

/-- The text of an amount that was read can be read: it has no more digits than the text that the
amount was read from. -/
theorem textFits_of_parse_eq_ok {s : String} {places : UInt8} {a : Amount}
    (h : parse s places = .ok a) : a.TextFits places := by
  obtain ⟨d, hd, hexact⟩ := parse_eq_ok_iff.1 h
  obtain ⟨hscale, hpow, hunits⟩ := ofExact_eq_ok_iff.1 hexact
  obtain ⟨hread, rfl⟩ := ofText?_eq_some_iff.1 hd
  obtain ⟨hnormal, hmantissa, hshort⟩ := dropZeros_bounds (writtenExact s.toList).mantissa
    (writtenExact s.toList).scale
  have hless := Nat.lt_of_le_of_lt hmantissa hread.digits_lt
  have hmax := Nat.le_trans hshort hread.fraction_length
  refine textFits_iff_isCarried.2 ⟨⟨_, _, hless, hmax, hscale, hunits⟩, fun hzero => ?_⟩
  rw [hzero, eq_comm, Nat.mul_eq_zero] at hunits
  have hmantissaZero : (writtenExact s.toList).normalize.mantissa = 0 :=
    hunits.resolve_right (pow_ne_zero _ (by decide))
  have hscaleZero : (writtenExact s.toList).normalize.scale = 0 := by
    by_contra hne
    exact hnormal hne (by rw [← Exact.normalize, hmantissaZero])
  rw [hscaleZero, Nat.sub_zero] at hpow
  exact pow_ten_lt_iff.1 hpow

/-- A text of an amount that is read again is read as that amount, so it can be read. -/
theorem textFits_of_parse {a b : Amount} {places : UInt8}
    (h : parse (a.decimalText places) places = .ok b) : a.TextFits places := by
  have hunits := units_of_parse h
  rw [toList_decimalText, valueOf_scaledText] at hunits
  have hsame : b = a := eq_of_units (by exact_mod_cast hunits)
  rw [← hsame]
  exact textFits_of_parse_eq_ok h

instance (a : Amount) (places : UInt8) : Decidable (a.IsCarried places) :=
  decidable_of_iff _ textFits_iff_isCarried

/-- Every amount below 2^96 is carried by its text, as long as it has at most 28 decimal places. -/
theorem isCarried_of_lt {a : Amount} {places : UInt8} (h : a.units < 2 ^ 96)
    (hplaces : places.toNat ≤ 28) : a.IsCarried places := by
  refine ⟨⟨a.units, places.toNat, h, hplaces, Nat.le_refl _, ?_⟩, fun _ => by omega⟩
  rw [Nat.sub_self, Nat.pow_zero, Nat.mul_one]

/-- The only flaw of a text that does not carry its amount: a zero cannot be scaled, and any other
number has too many digits to be read at all. -/
def textFlaw (a : Amount) : TextFlaw :=
  if a.units = 0 then .tooLarge else .notPlain

/-- An amount that is not carried by its text is refused for the flaw of the text. -/
theorem ofDecimal_decimalText {a : Amount} {places : UInt8} (h : ¬a.IsCarried places) :
    ofDecimal (a.decimalText places).toList places.toNat = .error a.textFlaw := by
  have htext := ofText?_scaledText a.units places.toNat
  rw [← toList_decimalText, writtenExact] at htext
  rw [ofDecimal, htext]
  by_cases hzero : a.units = 0
  · have hplaces : ¬places.toNat ≤ 38 := fun hle =>
      h ⟨⟨0, 0, by decide, by decide, Nat.zero_le _, by rw [hzero, Nat.zero_mul]⟩, fun _ => hle⟩
    have hunits : a.units = 0 * 10 ^ (places.toNat - 0) := by rw [hzero, Nat.zero_mul]
    have hread := dropZeros_eq_text (Nat.zero_le places.toNat) hunits
    obtain ⟨hdigits, hfraction⟩ := Exact.mk.inj hread
    rw [← hdigits, ← hfraction, if_pos ⟨by decide, by decide⟩]
    have hbig : ¬Nat.pow 10 places.toNat < amountBound := by
      rw [Nat.pow_eq, amountBound, Nat.pow_eq, pow_ten_lt_iff]
      exact hplaces
    change ofExact ⟨0, 0⟩ places.toNat = _
    rw [ofExact, if_neg (Nat.not_lt_zero _), Nat.sub_zero, if_neg hbig, textFlaw, if_pos hzero]
  · rw [if_neg, textFlaw, if_neg hzero]
    rintro ⟨hfraction, hdigits⟩
    exact h (textFits_iff_isCarried.1 ⟨hfraction, hdigits, fun he => absurd he hzero⟩)

/-- The text of an amount is read as that amount if it carries it, and is refused otherwise. -/
theorem parse_decimalText_eq (a : Amount) (places : UInt8) :
    parse (a.decimalText places) places =
      if a.IsCarried places then .ok a
      else .error (.invalidAmount
        (Text.quoted (a.decimalText places) ++ " " ++ a.textFlaw.message)) := by
  split
  · rename_i h
    exact parse_decimalText (textFits_iff_isCarried.2 h)
  · rename_i h
    rw [parse, ofDecimal_decimalText h]
    rfl

/-- Three amounts that their texts do not carry: 2^96 whole units, one unit of the 29th decimal
place, and a zero with 39 decimal places. -/
theorem parse_decimalText_of_limits :
    parse (decimalText ⟨79228162514264337593543950336, by decide⟩ 0) 0 =
        .error (.invalidAmount
          "\"79228162514264337593543950336\" is not a plain decimal number") ∧
      parse (decimalText ⟨1, by decide⟩ 29) 29 =
        .error (.invalidAmount
          "\"0.00000000000000000000000000001\" is not a plain decimal number") ∧
      parse (decimalText ⟨0, by decide⟩ 39) 39 =
        .error (.invalidAmount "\"0\" does not fit in 128 bits") := by
  decide +kernel

end PayLink.Amount
