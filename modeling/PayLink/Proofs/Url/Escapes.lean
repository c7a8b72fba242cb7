import PayLink.Proofs.Text.Utf8
import PayLink.Url.Percent
/-!
# What escapes denote

An escape denotes its byte, and the escapes of a character denote the bytes of the character. A text
without percent signs denotes its own bytes. Escaping characters that can be no part of an escape
leaves the bytes that a text denotes as they are.
-/

namespace PayLink.Url.Percent

open PayLink.Text

/-- A character that begins no escape denotes its own bytes. -/
theorem decode_cons {c : Char} (h : c ≠ '%') (rest : List Char) :
    decode (c :: rest) = String.utf8EncodeChar c ++ decode rest := by
  rw [decode]
  intro a b more hc
  exact absurd hc h

/-- An escape denotes its byte. -/
theorem decode_escape (b : UInt8) (rest : List Char) :
    decode (escape b ++ rest) = b :: decode rest := by
  have hb : b.toNat < 256 := b.toNat_lt
  have hhigh := Hex.digit?_upper (b.toNat / 16) (by omega)
  have hlow := Hex.digit?_upper (b.toNat % 16) (by omega)
  have hvalue : b.toNat / 16 * 16 + b.toNat % 16 = b.toNat := by omega
  change decode ('%' :: Hex.upper (b.toNat / 16) :: Hex.upper (b.toNat % 16) :: rest) = _
  rw [decode, hhigh, hlow]
  simp only [hvalue, UInt8.ofNat_toNat]

/-- Escapes of bytes denote the bytes. -/
theorem decode_flatMap_escape (bs : List UInt8) (rest : List Char) :
    decode (bs.flatMap escape ++ rest) = bs ++ decode rest := by
  induction bs with
  | nil => rfl
  | cons b bs ih => rw [List.flatMap_cons, List.append_assoc, decode_escape, ih, List.cons_append]

/-- The escapes of a character denote its bytes. -/
theorem decode_escapeChar (c : Char) (rest : List Char) :
    decode (escapeChar c ++ rest) = String.utf8EncodeChar c ++ decode rest :=
  decode_flatMap_escape _ rest

/-- A text without percent signs denotes its own bytes. -/
theorem decode_eq_encode {cs : List Char} (h : '%' ∉ cs) : decode cs = Utf8.encode cs := by
  induction cs with
  | nil => rfl
  | cons c cs ih =>
    have hc : c ≠ '%' := fun he => h (he ▸ List.mem_cons_self)
    have hcs : '%' ∉ cs := fun hm => h (List.mem_cons_of_mem _ hm)
    rw [decode_cons hc, ih hcs]
    rfl

/-- A percent sign without two digits behind it denotes itself. -/
theorem decode_percent {t : List Char}
    (h : ∀ a b rest, t = a :: b :: rest → Hex.digit? a = none ∨ Hex.digit? b = none) :
    decode ('%' :: t) = 0x25 :: decode t := by
  match t with
  | [] => rfl
  | [a] => rfl
  | a :: b :: rest =>
    rw [decode]
    split
    · rename_i x y hx hy
      rcases h a b rest rfl with hn | hn
      · rw [hx] at hn
        cases hn
      · rw [hy] at hn
        cases hn
    · rfl

/-- A character that is not selected stays. -/
theorem encode_cons {p : Char → Bool} {c : Char} (h : p c = false) (cs : List Char) :
    encode p (c :: cs) = c :: encode p cs := by
  rw [encode, List.flatMap_cons, h]
  rfl

/-- The first character of a non-empty escaped text is the first character of the text or a percent
sign. -/
theorem encode_cons_eq (p : Char → Bool) (c : Char) (cs : List Char) :
    encode p (c :: cs) = c :: encode p cs ∨ ∃ more, encode p (c :: cs) = '%' :: more := by
  by_cases hp : p c = true
  · right
    have hne : String.utf8EncodeChar c ≠ [] := String.utf8EncodeChar_ne_nil
    obtain ⟨b, bs, hb⟩ := List.exists_cons_of_ne_nil hne
    refine ⟨Hex.upper (b.toNat / 16) :: Hex.upper (b.toNat % 16) :: bs.flatMap escape ++
      encode p cs, ?_⟩
    simp only [encode, List.flatMap_cons, if_pos hp, escapeChar, hb, escape]
    rfl
  · left
    simp only [encode, List.flatMap_cons, if_neg hp]
    rfl

/-- Escaping makes no digits: what is no escape in a text is none in its escaped form. -/
theorem not_digits_encode {p : Char → Bool} {a b : Char} {rest : List Char}
    (h : Hex.digit? a = none ∨ Hex.digit? b = none) (x y : Char) (more : List Char)
    (he : encode p (a :: b :: rest) = x :: y :: more) :
    Hex.digit? x = none ∨ Hex.digit? y = none := by
  have hpercent? : Hex.digit? '%' = none := rfl
  rcases encode_cons_eq p a (b :: rest) with ha | ⟨_, ha⟩
  · obtain ⟨rfl, hrest⟩ := List.cons.inj (ha.symm.trans he)
    rcases encode_cons_eq p b rest with hb | ⟨_, hb⟩
    · obtain ⟨rfl, -⟩ := List.cons.inj (hb.symm.trans hrest)
      exact h
    · obtain ⟨rfl, -⟩ := List.cons.inj (hb.symm.trans hrest)
      exact .inr hpercent?
  · obtain ⟨rfl, -⟩ := List.cons.inj (ha.symm.trans he)
    exact .inl hpercent?

/-- Escaping characters that are no part of an escape changes nothing about the bytes that a text
denotes. -/
theorem decode_encode {p : Char → Bool} (hpercent : p '%' = false)
    (hdigit : ∀ c, (Hex.digit? c).isSome = true → p c = false) (cs : List Char) :
    decode (encode p cs) = decode cs := by
  have hstep : ∀ (c : Char) (rest : List Char), c ≠ '%' →
      decode (encode p rest) = decode rest →
      decode (encode p (c :: rest)) = String.utf8EncodeChar c ++ decode rest := by
    intro c rest hc ih
    simp only [encode, List.flatMap_cons] at ih ⊢
    by_cases hp : p c = true
    · rw [if_pos hp, decode_escapeChar, ih]
    · rw [if_neg hp, List.singleton_append, decode_cons hc, ih]
  have hkeep : ∀ (c : Char) (rest : List Char), p c = false →
      encode p (c :: rest) = c :: encode p rest := by
    intro c rest hc
    simp only [encode, List.flatMap_cons, hc]
    rfl
  fun_induction decode cs with
  | case1 => rfl
  | case2 a b rest x y hy hx ih =>
    rw [hkeep _ _ hpercent, hkeep a _ (hdigit a (Option.isSome_of_eq_some hx)),
      hkeep b _ (hdigit b (Option.isSome_of_eq_some hy)), decode, hx, hy]
    simp only [ih]
  | case3 a b rest hno ih =>
    have hnone : Hex.digit? a = none ∨ Hex.digit? b = none := by
      cases ha : Hex.digit? a with
      | none => exact .inl rfl
      | some x =>
        cases hb : Hex.digit? b with
        | none => exact .inr rfl
        | some y => exact absurd hb (hno x y ha)
    rw [hkeep _ _ hpercent, decode_percent (not_digits_encode hnone), ih]
  | case4 c rest hc ih =>
    by_cases he : c = '%'
    · subst he
      rw [hkeep _ _ hpercent, decode_percent, ih]
      · rfl
      · intro a b more hm
        rcases rest with - | ⟨d, - | ⟨e, more'⟩⟩
        · cases hm
        · rcases encode_cons_eq p d [] with hd | ⟨_, hd⟩
          · rw [hd] at hm
            cases hm
          · rw [hd] at hm
            obtain ⟨rfl, -⟩ := List.cons.inj hm
            exact .inl rfl
        · exact absurd rfl (hc d e more' rfl)
    · exact hstep c rest he ih

/-- A hexadecimal digit is no control. -/
theorem isControl_of_digit? {c : Char} (h : (Hex.digit? c).isSome = true) :
    isControl c = false := by
  have hrange : 0x30 ≤ c.toNat ∧ c.toNat ≤ 0x66 := by
    have hle : ∀ {a b : Char}, a ≤ b → a.toNat ≤ b.toNat := fun h => UInt32.le_iff_toNat_le.1 h
    unfold Hex.digit? at h
    split at h
    · rename_i hc
      exact ⟨hle hc.1, Nat.le_trans (hle hc.2) (by decide)⟩
    split at h
    · rename_i hc
      exact ⟨Nat.le_trans (by decide) (hle hc.1), hle hc.2⟩
    split at h
    · rename_i hc
      exact ⟨Nat.le_trans (by decide) (hle hc.1), Nat.le_trans (hle hc.2) (by decide)⟩
    · cases h
  simp only [isControl, Bool.or_eq_false_iff, decide_eq_false_iff_not]
  omega

/-- Escaping controls changes nothing about the bytes that a text denotes. -/
theorem decode_encode_isControl (cs : List Char) : decode (encode isControl cs) = decode cs :=
  decode_encode rfl (fun _ => isControl_of_digit?) cs

/-- A character that is no part of an escape keeps its bytes. -/
theorem mem_decode_of_mem {c : Char} {cs : List Char} (hpercent : c ≠ '%')
    (hdigit : Hex.digit? c = none) (hm : c ∈ cs) {b : UInt8} (hb : b ∈ String.utf8EncodeChar c) :
    b ∈ decode cs := by
  fun_induction decode cs with
  | case1 => cases hm
  | case2 a d rest x y hy hx ih =>
    have hrest : c ∈ rest := by
      rcases List.mem_cons.1 hm with rfl | hm
      · exact absurd rfl hpercent
      rcases List.mem_cons.1 hm with rfl | hm
      · rw [hdigit] at hx
        cases hx
      rcases List.mem_cons.1 hm with rfl | hm
      · rw [hdigit] at hy
        cases hy
      · exact hm
    exact List.mem_cons_of_mem _ (ih hrest)
  | case3 a d rest hno ih =>
    rcases List.mem_cons.1 hm with rfl | hm
    · exact absurd rfl hpercent
    · exact List.mem_cons_of_mem _ (ih hm)
  | case4 d rest hd ih =>
    rcases List.mem_cons.1 hm with rfl | hm
    · exact List.mem_append_left _ hb
    · exact List.mem_append_right _ (ih hm)

/-- A character that is no part of an escape stands between what is read before it and what is read
behind it. -/
theorem decode_append_cons {c : Char} (hpercent : c ≠ '%') (hdigit : Hex.digit? c = none)
    (before after : List Char) :
    decode (before ++ c :: after) =
      decode before ++ (String.utf8EncodeChar c ++ decode after) := by
  fun_induction decode before with
  | case1 => exact decode_cons hpercent after
  | case2 a d rest x y hy hx ih =>
    rw [List.cons_append, List.cons_append, List.cons_append, decode, hx, hy]
    simp only [ih, List.cons_append]
  | case3 a d rest hno ih =>
    have hnone : Hex.digit? a = none ∨ Hex.digit? d = none := by
      cases ha : Hex.digit? a with
      | none => exact .inl rfl
      | some x =>
        cases hd : Hex.digit? d with
        | none => exact .inr rfl
        | some y => exact absurd hd (hno x y ha)
    have hpair : ∀ x y more, (a :: d :: rest) ++ c :: after = x :: y :: more →
        Hex.digit? x = none ∨ Hex.digit? y = none := by
      rintro x y more hcons
      cases hcons
      exact hnone
    rw [List.cons_append, decode_percent hpair, ih]
    rfl
  | case4 d rest hd ih =>
    by_cases he : d = '%'
    · subst he
      have hpair : ∀ x y more, rest ++ c :: after = x :: y :: more →
          Hex.digit? x = none ∨ Hex.digit? y = none := by
        intro x y more hcons
        rcases rest with - | ⟨e, - | ⟨f, rest⟩⟩
        · cases hcons
          exact .inl hdigit
        · cases hcons
          exact .inr hdigit
        · exact absurd rfl (hd e f rest rfl)
      rw [List.cons_append, decode_percent hpair, ih]
      rfl
    · rw [List.cons_append, decode_cons he, ih, List.append_assoc]

end PayLink.Url.Percent
