import Mathlib.Data.List.TakeDrop
import PayLink.Json.Reader
import PayLink.Json.Writer
import PayLink.Proofs.Decimal.Text
/-!
# Strings and integers in JSON text

A string is read back character for character, whatever escapes it was written with, and an integer
is read back if nothing follows it that could continue a number.
-/

namespace PayLink.Json.Reader

/-- Characters stand for themselves as parts of a string. -/
theorem join?_map_scalar (cs : List Char) : join? (cs.map .scalar) = some cs := by
  induction cs with
  | nil => rfl
  | cons c cs ih =>
    rw [List.map_cons, join?, ih]
    rfl

/-- The four digits in the escape of a control character write its number. -/
theorem hex4?_controlEscape {c : Char} (h : c.toNat < 0x20) :
    hex4? '0' '0' (Nat.digitChar (c.toNat / 16)) (Nat.digitChar (c.toNat % 16)) =
      some c.toNat := by
  have hhigh := Text.Hex.digit?_lower (c.toNat / 16) (by omega)
  have hlow := Text.Hex.digit?_lower (c.toNat % 16) (by omega)
  rw [Text.Hex.lower] at hhigh hlow
  have hzero : Text.Hex.digit? '0' = some 0 := by decide
  rw [hex4?, hzero, hhigh, hlow]
  change some _ = some _
  congr 1
  omega

/-- The escape of a control character is read as that character. -/
theorem parts?_controlEscape {c : Char} (h : c.toNat < 0x20) (rest : List Char) :
    parts? (Writer.controlEscape c ++ rest) =
      (parts? rest).map fun p => (.scalar c :: p.1, p.2) := by
  have hpart : partOf c.toNat = .scalar c := by
    rw [partOf, if_neg (by omega), Char.ofNat_toNat]
  change parts? ('\\' :: 'u' :: '0' :: '0' :: _ :: _ :: rest) = _
  rw [parts?, hex4?_controlEscape h]
  change ((parts? rest).bind fun p => some (partOf c.toNat :: p.1, p.2)) = _
  rw [hpart, Option.map_eq_bind]
  rfl

/-- An escape with a single letter is read as its character. -/
theorem parts?_escaped {e c : Char} (h : escaped? e = some c) (rest : List Char) :
    parts? ('\\' :: e :: rest) = (parts? rest).map fun p => (.scalar c :: p.1, p.2) := by
  rw [parts?, h, Option.map_eq_bind]
  · rfl
  · rintro a b d f cs rfl rfl
    cases h

/-- A character that needs no escape is read as itself. -/
theorem parts?_plain {c : Char} (hc : 0x20 ≤ c.toNat) (hquote : c ≠ '"') (hslash : c ≠ '\\')
    (rest : List Char) :
    parts? (c :: rest) = (parts? rest).map fun p => (.scalar c :: p.1, p.2) := by
  have hplain : ¬(c.toNat < 0x20 ∨ c = '\\') := by
    rintro (h | h)
    · omega
    · exact hslash h
  rw [parts?, if_neg hplain, Option.map_eq_bind]
  · rfl
  · exact hquote
  · rintro a b d e cs rfl
    exact absurd rfl hslash
  · rintro e cs rfl
    exact absurd rfl hslash

/-- A written character is read as that character. -/
theorem parts?_stringChar (c : Char) (rest : List Char) :
    parts? (Writer.stringChar c ++ rest) =
      (parts? rest).map fun p => (.scalar c :: p.1, p.2) := by
  unfold Writer.stringChar
  split
  case h_8 =>
    rename_i hquote hslash _ _ _ _ _
    split
    · rename_i hcontrol
      exact parts?_controlEscape hcontrol rest
    · rename_i hplain
      exact parts?_plain (Nat.le_of_not_lt hplain) hquote hslash rest
  all_goals exact parts?_escaped rfl rest

/-- Written characters are read up to the closing quote. -/
theorem parts?_flatMap (cs rest : List Char) :
    parts? (cs.flatMap Writer.stringChar ++ '"' :: rest) = some (cs.map .scalar, rest) := by
  induction cs with
  | nil => rfl
  | cons c cs ih =>
    rw [List.flatMap_cons, List.append_assoc, parts?_stringChar, ih]
    rfl

/-- A string is read back. -/
theorem string?_flatMap (s : String) (rest : List Char) :
    string? (s.toList.flatMap Writer.stringChar ++ '"' :: rest) = some (some s, rest) := by
  rw [string?, parts?_flatMap]
  change some ((join? (s.toList.map .scalar)).map String.ofList, rest) = _
  rw [join?_map_scalar, Option.map_some, String.ofList_toList]

/-- What follows a number does not continue it. -/
def EndsNumber (rest : List Char) : Prop :=
  ∀ c ∈ rest.head?, c.isDigit = false ∧ c ≠ '.' ∧ c ≠ 'e' ∧ c ≠ 'E'

/-- Digits are read up to the first character that is none. -/
theorem digits_append {ds rest : List Char} (hds : ∀ c ∈ ds, c.isDigit = true)
    (hrest : EndsNumber rest) : digits (ds ++ rest) = (ds, rest) := by
  rw [digits, List.span_eq_takeWhile_dropWhile, List.takeWhile_append_of_pos hds,
    List.dropWhile_append_of_pos hds]
  cases rest with
  | nil => rw [List.takeWhile_nil, List.dropWhile_nil, List.append_nil]
  | cons c rest =>
    have hc : ¬c.isDigit = true := by
      rw [(hrest c rfl).1]
      exact Bool.false_ne_true
    rw [List.takeWhile_cons_of_neg hc, List.dropWhile_cons_of_neg hc, List.append_nil]

/-- The digits of a number are an integer part. -/
theorem whole?_toDigits (n : Nat) {rest : List Char} (hrest : EndsNumber rest) :
    whole? (Nat.toDigits 10 n ++ rest) = some (Nat.toDigits 10 n, rest) := by
  have hdigits : digits (Nat.toDigits 10 n ++ rest) = (Nat.toDigits 10 n, rest) :=
    digits_append (fun c hc => Nat.isDigit_of_mem_toDigits (by decide) (by decide) hc) hrest
  rw [whole?, hdigits]
  split
  · rename_i h
    exact absurd (congrArg Prod.fst h) Nat.toDigits_ne_nil
  · rename_i h
    rw [Prod.mk.injEq] at h
    rw [h.1, h.2]
  · rename_i hne h
    rw [Prod.mk.injEq] at h
    exact absurd (Decimal.toDigits_eq_zero_cons h.1) hne
  · rename_i h
    rw [Prod.mk.injEq] at h
    rw [h.1, h.2]

/-- Nothing that could follow is read as a fraction. -/
theorem fraction?_of_endsNumber {rest : List Char} (hrest : EndsNumber rest) :
    fraction? rest = some ([], rest) := by
  unfold fraction?
  split
  · exact absurd rfl (hrest '.' rfl).2.1
  · rfl

/-- Nothing that could follow is read as an exponent. -/
theorem exponent?_of_endsNumber {rest : List Char} (hrest : EndsNumber rest) :
    exponent? rest = some (none, rest) := by
  cases rest with
  | nil => rfl
  | cons c rest =>
    obtain ⟨-, -, hlower, hupper⟩ := hrest c rfl
    have hmark : ¬(c = 'e' ∨ c = 'E') := by
      rintro (h | h)
      · exact hlower h
      · exact hupper h
    unfold exponent?
    exact if_neg hmark

/-- The digits of a number are read as that number. -/
theorem unsigned?_toDigits (negative : Bool) (n : Nat) {rest : List Char}
    (hrest : EndsNumber rest) :
    unsigned? negative (Nat.toDigits 10 n ++ rest) =
      some (numberOf negative (Nat.toDigits 10 n) [] none, rest) := by
  rw [unsigned?, whole?_toDigits n hrest]
  change ((fraction? rest).bind fun p => (exponent? p.2).bind fun q =>
    some (numberOf negative (Nat.toDigits 10 n) p.1 q.1, q.2)) = _
  rw [fraction?_of_endsNumber hrest, Option.bind_some, exponent?_of_endsNumber hrest]
  rfl

/-- An integer is read back. -/
theorem number?_integer (k : Int) {rest : List Char} (hrest : EndsNumber rest) :
    number? (Writer.integer k ++ rest) = some (.integer k, rest) := by
  cases k with
  | ofNat n =>
    have hsign : ∀ cs, Nat.toDigits 10 n ++ rest ≠ '-' :: cs := by
      intro cs h
      cases hd : Nat.toDigits 10 n with
      | nil => exact Nat.toDigits_ne_nil hd
      | cons c ds =>
        rw [hd, List.cons_append, List.cons.injEq] at h
        have hdigit : c.isDigit = true :=
          Nat.isDigit_of_mem_toDigits (by decide) (by decide) (hd ▸ List.mem_cons_self)
        rw [h.1] at hdigit
        cases hdigit
    rw [Writer.integer, number?, unsigned?_toDigits false n hrest, numberOf,
      List.append_nil, Nat.ofDigitChars_ten_toDigits]
    · rfl
    · exact hsign
  | negSucc n =>
    rw [Writer.integer, List.cons_append, number?, unsigned?_toDigits true (n + 1) hrest, numberOf,
      List.append_nil, Nat.ofDigitChars_ten_toDigits]
    rfl

end PayLink.Json.Reader
