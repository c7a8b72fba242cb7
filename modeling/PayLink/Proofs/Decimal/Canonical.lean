import PayLink.Amount.Conversion
import PayLink.Proofs.Decimal.Text
/-!
# Canonical decimal text

A number that is counted in units of a decimal place has exactly one text without a leading zero in
its whole part, without a zero at the end of its fraction, and with a point only in front of a
fraction. The text of a scaled number is that one, so numbers with the same text are equal.
-/

namespace PayLink.Decimal

/-- A text of digits with at most `places` of them behind its point, and none that could be left
out. -/
structure Canonical (places : Nat) (cs : List Char) : Prop where
  /-- There are only digits in front of the point and behind it. -/
  isDigit : ∀ c ∈ wholeOf cs ++ fractionOf cs, c.isDigit = true
  /-- There is a whole part. -/
  whole_ne_nil : wholeOf cs ≠ []
  /-- The whole part is the digit zero or does not begin with it. -/
  whole_head : wholeOf cs = ['0'] ∨ (wholeOf cs).head? ≠ some '0'
  /-- A point has a digit behind it. -/
  fraction_ne_nil : '.' ∈ cs → fractionOf cs ≠ []
  /-- There are not too many fractional digits. -/
  fraction_length : (fractionOf cs).length ≤ places
  /-- The last of them is not zero. -/
  fraction_last : (fractionOf cs).getLast? ≠ some '0'

/-- A text without its minus sign, if it has one. -/
def unsignedOf (cs : List Char) : List Char :=
  if cs.head? = some '-' then cs.tail else cs

/-- The number that a decimal text with or without a minus sign denotes. -/
def signedValueOf (cs : List Char) : ℚ :=
  if cs.head? = some '-' then -valueOf (unsignedOf cs) else valueOf (unsignedOf cs)

/-- A digit is the digit of its value. -/
theorem digitChar_toNat {c : Char} (h : c.isDigit = true) :
    c.toNat - '0'.toNat < 10 ∧ Nat.digitChar (c.toNat - '0'.toNat) = c := by
  have hbounds := Text.toNat_bounds_of_isDigit h
  have hzero : '0'.toNat = 48 := rfl
  have hlt : c.toNat - '0'.toNat < 10 := by omega
  refine ⟨hlt, Char.toNat_inj.1 ?_⟩
  rw [Nat.toNat_digitChar_of_lt_ten hlt]
  omega

/-- Digits are the digits of their value behind as many zeros as there is room for. -/
theorem eq_leftpad_toDigits {ds : List Char} (hne : ds ≠ [])
    (h : ∀ c ∈ ds, c.isDigit = true) :
    ds = List.leftpad ds.length '0' (Nat.toDigits 10 (Nat.ofDigitChars 10 ds 0)) := by
  induction ds using List.reverseRecOn with
  | nil => exact absurd rfl hne
  | append_singleton ds c ih =>
    have hdigit := digitChar_toNat (h c (List.mem_append_right _ List.mem_cons_self))
    have hds := fun d hd => h d (List.mem_append_left [c] hd)
    rw [Nat.ofDigitChars_append, Nat.ofDigitChars_cons, Nat.ofDigitChars_nil, List.length_append,
      List.length_singleton]
    -- What stands in front of the last digit is either zero, and then all zeros, or its quotient.
    by_cases hzero : Nat.ofDigitChars 10 ds 0 = 0
    · rw [hzero, Nat.mul_zero, Nat.zero_add, Nat.toDigits_of_lt_base hdigit.1, hdigit.2]
      by_cases hnil : ds = []
      · rw [hnil]
        rfl
      · have hpos := List.length_pos_of_ne_nil hnil
        have hzeros : ds = List.replicate ds.length '0' := by
          conv => lhs; rw [ih hnil hds, hzero]
          rw [← Nat.sub_add_cancel hpos, List.replicate_succ']
          rfl
        conv => lhs; rw [hzeros]
        rfl
    · have hnil : ds ≠ [] := fun he => hzero (by rw [he]; rfl)
      rw [Nat.toDigits_of_base_le (by decide) (by omega)]
      have hquotient : (10 * Nat.ofDigitChars 10 ds 0 + (c.toNat - '0'.toNat)) / 10 =
          Nat.ofDigitChars 10 ds 0 := by omega
      have hremainder : (10 * Nat.ofDigitChars 10 ds 0 + (c.toNat - '0'.toNat)) % 10 =
          c.toNat - '0'.toNat := by omega
      rw [hquotient, hremainder, hdigit.2]
      conv => lhs; rw [ih hnil hds]
      rw [List.leftpad, List.leftpad, List.length_append, List.length_singleton,
        Nat.add_sub_add_right, List.append_assoc]

/-- The whole part of a scaled number is the digit zero or does not begin with it. -/
theorem head?_wholeDigits (n places : Nat) :
    wholeDigits n places = ['0'] ∨ (wholeDigits n places).head? ≠ some '0' := by
  have hpadded : (padded n places).length = max (places + 1) (Nat.toDigits 10 n).length :=
    List.length_leftpad
  by_cases hlong : (Nat.toDigits 10 n).length ≤ places + 1
  · -- Zeros were put in front until one digit is left of the point.
    have hlength : (wholeDigits n places).length = 1 := by
      rw [wholeDigits, List.length_take]
      omega
    obtain ⟨c, hc⟩ := List.length_eq_one_iff.1 hlength
    rw [hc]
    by_cases hzero : c = '0'
    · exact .inl (by rw [hzero])
    · exact .inr fun h => hzero (Option.some.inj h)
  · right
    intro h
    have hdigits : padded n places = Nat.toDigits 10 n := by
      rw [padded, List.leftpad, Nat.sub_eq_zero_of_le (by omega)]
      rfl
    rw [wholeDigits, List.head?_take, if_neg (by omega), hdigits] at h
    obtain ⟨rest, hrest⟩ := List.head?_eq_some_iff.1 h
    have hshort : (Nat.toDigits 10 n).length = 1 := by
      rw [hrest, toDigits_eq_zero_cons hrest]
      rfl
    omega

/-- The text of a scaled number is canonical. -/
theorem canonical_scaledText (n places : Nat) : Canonical places (scaledText n places) := by
  have hwhole := wholeOf_scaledText n places
  have hfraction := fractionOf_scaledText n places
  constructor
  · rw [hwhole, hfraction]
    exact fun c hc => isDigit_of_mem_parts hc
  · rw [hwhole]
    exact wholeDigits_ne_nil n places
  · rw [hwhole]
    exact head?_wholeDigits n places
  · intro hpoint hnil
    rw [hfraction] at hnil
    rw [scaledText_eq, hnil] at hpoint
    have hdigit := isDigit_of_mem_parts (List.mem_append_left (fractionDigits n places) hpoint)
    exact absurd hdigit (by decide)
  · rw [hfraction]
    exact (padded_eq n places).1
  · rw [hfraction]
    exact getLast?_trimZeros_ne _

namespace Canonical

variable {places : Nat} {cs cs' : List Char}

/-- A canonical text is its parts with a point between them if there is a fraction. -/
theorem eq_pointed (h : Canonical places cs) : cs = pointed (wholeOf cs) (fractionOf cs) := by
  rcases eq_whole_append cs with ⟨hcs, hnil⟩ | hcs
  · rw [pointed, hnil]
    exact hcs
  · have hpoint : '.' ∈ cs := by
      rw [hcs]
      exact List.mem_append_right _ List.mem_cons_self
    rw [pointed, if_neg fun he => h.fraction_ne_nil hpoint (List.isEmpty_iff.1 he)]
    exact hcs

/-- Without its point, a canonical text is its parts. -/
theorem digitsOf_eq_append (h : Canonical places cs) :
    digitsOf cs = wholeOf cs ++ fractionOf cs :=
  digitsOf_eq (point_not_mem fun c hc => h.isDigit c (List.mem_append_right _ hc))

/-- The digits of a canonical text are those of their value, padded for its fraction. -/
theorem digitsOf_eq_padded (h : Canonical places cs) :
    digitsOf cs = padded (Nat.ofDigitChars 10 (digitsOf cs) 0) (fractionOf cs).length := by
  have hdigits := h.digitsOf_eq_append
  have hpositive := List.length_pos_of_ne_nil h.whole_ne_nil
  have hlength := congrArg List.length hdigits
  rw [List.length_append] at hlength
  have hpad := eq_leftpad_toDigits (List.append_ne_nil_of_left_ne_nil h.whole_ne_nil _) h.isDigit
  rw [← hdigits] at hpad
  rcases h.whole_head with hzero | hhead
  · -- One digit in front of the point: the padding is what the fraction asks for.
    rw [hzero, List.length_singleton, Nat.add_comm] at hlength
    rw [padded, ← hlength]
    exact hpad
  · -- No zero in front: nothing was padded, and the fraction asks for nothing.
    have hfirst : (digitsOf cs).head? ≠ some '0' := by
      rw [hdigits, List.head?_append_of_ne_nil _ h.whole_ne_nil]
      exact hhead
    have hnone : (digitsOf cs).length -
        (Nat.toDigits 10 (Nat.ofDigitChars 10 (digitsOf cs) 0)).length = 0 := by
      by_contra hsome
      obtain ⟨count, hcount⟩ := Nat.exists_eq_succ_of_ne_zero hsome
      rw [List.leftpad, hcount, List.replicate_succ] at hpad
      exact hfirst (by rw [hpad]; rfl)
    rw [List.leftpad, hnone, List.replicate_zero, List.nil_append] at hpad
    rw [padded, List.leftpad, ← hpad, Nat.sub_eq_zero_of_le (by omega)]
    rfl

/-- A number has one canonical text. -/
theorem unique (h : Canonical places cs) (h' : Canonical places cs')
    (hvalue : valueOf cs = valueOf cs') : cs = cs' := by
  have hnormal : ∀ {ds : List Char}, Canonical places ds → (fractionOf ds).length ≠ 0 →
      Nat.ofDigitChars 10 (digitsOf ds) 0 % 10 ≠ 0 := by
    intro ds hds hlength
    rw [hds.digitsOf_eq_append]
    exact ofDigitChars_append_mod_ne (fun he => hlength (by rw [he]; rfl))
      (fun c hc => hds.isDigit c (List.mem_append_right _ hc)) hds.fraction_last
  have hunits : Nat.ofDigitChars 10 (digitsOf cs) 0 * 10 ^ (places - (fractionOf cs).length) =
      Nat.ofDigitChars 10 (digitsOf cs') 0 * 10 ^ (places - (fractionOf cs').length) := by
    have hscaled := valueOf_mul_pow h.fraction_length
    rw [hvalue, valueOf_mul_pow h'.fraction_length] at hscaled
    exact_mod_cast hscaled.symm
  have hparts : Exact.mk (Nat.ofDigitChars 10 (digitsOf cs) 0) (fractionOf cs).length =
      Exact.mk (Nat.ofDigitChars 10 (digitsOf cs') 0) (fractionOf cs').length :=
    eq_of_scaled_eq (hnormal h) (hnormal h') h.fraction_length h'.fraction_length hunits
  obtain ⟨hnumber, hlength⟩ := Exact.mk.inj hparts
  have hdigits : digitsOf cs = digitsOf cs' := by
    rw [h.digitsOf_eq_padded, h'.digitsOf_eq_padded, hnumber, hlength]
  rw [h.digitsOf_eq_append, h'.digitsOf_eq_append] at hdigits
  obtain ⟨hwhole, hfraction⟩ := List.append_inj' hdigits hlength
  rw [h.eq_pointed, h'.eq_pointed, hwhole, hfraction]

/-- Digits and a point are all that a canonical text is made of, so it has no sign. -/
theorem minus_not_mem (h : Canonical places cs) : '-' ∉ cs := by
  intro hm
  have hmem : '-' ∈ digitsOf cs := List.mem_filter.2 ⟨hm, by decide⟩
  rw [h.digitsOf_eq_append] at hmem
  exact absurd (h.isDigit _ hmem) (by decide)

end Canonical

/-- The text of a scaled number is the only canonical one that denotes it. -/
theorem eq_scaledText_iff {cs : List Char} {n places : Nat} :
    cs = scaledText n places ↔ valueOf cs = n / 10 ^ places ∧ Canonical places cs := by
  have hvalue : valueOf (scaledText n places) = n / 10 ^ places :=
    eq_div_of_mul_eq (pow_ne_zero _ (by decide)) (valueOf_scaledText n places)
  constructor
  · rintro rfl
    exact ⟨hvalue, canonical_scaledText n places⟩
  · rintro ⟨hcs, hcanonical⟩
    exact hcanonical.unique (canonical_scaledText n places) (hcs.trans hvalue.symm)

/-- A text is its unsigned part, behind a minus sign if it begins with one. -/
theorem eq_of_unsignedOf (cs : List Char) :
    cs = if cs.head? = some '-' then '-' :: unsignedOf cs else unsignedOf cs := by
  unfold unsignedOf
  split
  · rename_i h
    obtain ⟨rest, hrest⟩ := List.head?_eq_some_iff.1 h
    rw [hrest, List.tail_cons]
  · rfl

/-- With an unsigned part that is canonical, a text has no minus sign but one that it begins
with. -/
theorem minus_mem_iff {cs : List Char} {places : Nat} (h : Canonical places (unsignedOf cs)) :
    '-' ∈ cs ↔ cs.head? = some '-' := by
  refine ⟨fun hm => ?_, List.mem_of_mem_head?⟩
  by_contra hhead
  rw [unsignedOf, if_neg hhead] at h
  exact h.minus_not_mem hm

/-- The text of a signed number begins with a minus sign exactly if the number is negative, and what
is left without it is the text of the magnitude. -/
theorem unsignedOf_signedText (v : Int) (places : Nat) :
    ((signedText v places).head? = some '-' ↔ v < 0) ∧
      unsignedOf (signedText v places) = scaledText v.natAbs places := by
  have hhead : (scaledText v.natAbs places).head? ≠ some '-' := fun h =>
    (canonical_scaledText v.natAbs places).minus_not_mem (List.mem_of_mem_head? h)
  unfold signedText
  split
  · rename_i hneg
    exact ⟨iff_of_true rfl hneg, rfl⟩
  · rename_i hneg
    exact ⟨iff_of_false hhead hneg, if_neg hhead⟩

/-- The text of a signed number is the only one that denotes it, has a minus sign exactly if the
number is negative, and is canonical behind it. -/
theorem eq_signedText_iff {cs : List Char} {v : Int} {places : Nat} :
    cs = signedText v places ↔
      signedValueOf cs = v / 10 ^ places ∧ ('-' ∈ cs ↔ v < 0) ∧
        Canonical places (unsignedOf cs) := by
  -- The magnitude has the value of the number up to the sign that stands in front.
  have hmagnitude : ∀ {ds : List Char}, (ds.head? = some '-' ↔ v < 0) →
      (signedValueOf ds = v / 10 ^ places ↔
        valueOf (unsignedOf ds) = v.natAbs / 10 ^ places) := by
    intro ds hsign
    rw [signedValueOf, ← Int.cast_natCast]
    by_cases hneg : v < 0
    · have habs : ((v.natAbs : ℕ) : ℤ) = -v := by omega
      rw [if_pos (hsign.2 hneg), habs, Int.cast_neg, neg_div, neg_eq_iff_eq_neg]
    · have habs : ((v.natAbs : ℕ) : ℤ) = v := by omega
      rw [if_neg (fun h => hneg (hsign.1 h)), habs]
  constructor
  · rintro rfl
    obtain ⟨hsign, hunsigned⟩ := unsignedOf_signedText v places
    obtain ⟨hvalue, hcanonical⟩ := eq_scaledText_iff.1 hunsigned
    exact ⟨(hmagnitude hsign).2 hvalue, (minus_mem_iff hcanonical).trans hsign, hcanonical⟩
  · rintro ⟨hvalue, hminus, hcanonical⟩
    have hsign := (minus_mem_iff hcanonical).symm.trans hminus
    have hunsigned := eq_scaledText_iff.2 ⟨(hmagnitude hsign).1 hvalue, hcanonical⟩
    rw [eq_of_unsignedOf cs, hunsigned, signedText]
    exact if_congr hsign rfl rfl

/-- The texts of numbers and of amounts, with any number of decimal places. The text of a number of
units of the last place is the one text that denotes exactly this number, with a minus sign exactly
in front of a negative one, that has no leading zero but that of a zero, and a point only in front
of a fraction, which has no more digits than there are places and does not end with a zero. The text
of an amount is the one without a sign. Both agree, and different numbers have different texts. -/
theorem signedText_canonical (places : UInt8) :
    (∀ (v : Int) (cs : List Char), cs = signedText v places.toNat ↔
        signedValueOf cs = v / 10 ^ places.toNat ∧ ('-' ∈ cs ↔ v < 0) ∧
          Canonical places.toNat (unsignedOf cs)) ∧
      (∀ (a : Amount) (s : String), s = a.decimalText places ↔
        valueOf s.toList = a.units / 10 ^ places.toNat ∧ Canonical places.toNat s.toList) ∧
      (∀ a : Amount, a.decimalText places = String.ofList (signedText a.units places.toNat)) ∧
      (Function.Injective fun v : Int => signedText v places.toNat) ∧
      Function.Injective fun a : Amount => a.decimalText places := by
  have hamount : ∀ (a : Amount) (s : String), s = a.decimalText places ↔
      s.toList = scaledText a.units places.toNat := by
    intro a s
    rw [Amount.decimalText, ← String.toList_inj, String.toList_ofList]
  have hpow : (10 : ℚ) ^ places.toNat ≠ 0 := pow_ne_zero _ (by decide)
  refine ⟨fun v cs => eq_signedText_iff, ?_, fun a => rfl, ?_, ?_⟩
  · intro a s
    rw [hamount, eq_scaledText_iff]
  · intro v w h
    have hv := (eq_signedText_iff.1 h).1
    rw [(eq_signedText_iff.1 (Eq.refl (signedText v places.toNat))).1] at hv
    exact_mod_cast (div_left_inj' hpow).1 hv
  · intro a b h
    have htext := (hamount a _).1 h.symm
    have hb := (eq_scaledText_iff.1 htext).1
    rw [(hamount b _).1 rfl, (eq_scaledText_iff.1 rfl).1] at hb
    exact Amount.eq_of_units (by exact_mod_cast ((div_left_inj' hpow).1 hb).symm)

end PayLink.Decimal
