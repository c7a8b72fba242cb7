import PayLink.Text.Utf8
/-!
# Reading back UTF-8

The bytes of a character are one piece, whatever follows them, so the pieces of an encoded text are
its characters. Both readers therefore give an encoded text back, and neither finds a flaw in it.
-/

namespace PayLink.Text.Utf8

/-- A next byte within its range is taken into the payload. -/
theorem finish_cons {more payload width low high : Nat} {b : UInt8} (bs : List UInt8)
    (hl : low ≤ b.toNat) (hh : b.toNat ≤ high) :
    finish (more + 1) payload width low high (b :: bs) =
      finish more (payload * 64 + (b.toNat - 0x80)) (width + 1) 0x80 0xBF bs := by
  rw [finish, if_pos ⟨hl, hh⟩]

/-- What announces one further byte. -/
theorem lead?_two {b : Nat} (hl : 0xC2 ≤ b) (hh : b < 0xE0) :
    lead? b = some ⟨b - 0xC0, 1, 0x80, 0xBF⟩ := by
  rw [lead?, if_neg (by omega), if_neg (by omega), if_pos hh]

/-- What announces two further bytes. The range of the next one leaves out overlong forms and
surrogates. -/
theorem lead?_three {b : Nat} (hl : 0xE0 ≤ b) (hh : b < 0xF0) :
    lead? b = some
      ⟨b - 0xE0, 2, if b = 0xE0 then 0xA0 else 0x80, if b = 0xED then 0x9F else 0xBF⟩ := by
  rw [lead?, if_neg (by omega), if_neg (by omega), if_neg (by omega)]
  by_cases h0 : b = 0xE0
  · subst h0
    rfl
  · by_cases hd : b = 0xED
    · subst hd
      rfl
    · simp only [if_neg h0, if_neg hd, if_pos hh]

/-- What announces three further bytes. The range of the next one leaves out overlong forms and
numbers above U+10FFFF. -/
theorem lead?_four {b : Nat} (hl : 0xF0 ≤ b) (hh : b < 0xF5) :
    lead? b = some
      ⟨b - 0xF0, 3, if b = 0xF0 then 0x90 else 0x80, if b = 0xF4 then 0x8F else 0xBF⟩ := by
  rw [lead?, if_neg (by omega), if_neg (by omega), if_neg (by omega), if_neg (by omega),
    if_neg (by omega), if_neg (by omega)]
  by_cases h0 : b = 0xF0
  · subst h0
    rfl
  · by_cases h4 : b = 0xF4
    · subst h4
      rfl
    · have hb : b < 0xF4 := by omega
      simp only [if_neg h0, if_neg h4, if_pos hb]

/-- A number below 256 is kept by its byte. -/
theorem toNat_byte {n : Nat} (h : n < 256) : (UInt8.ofNat n).toNat = n := by
  rw [UInt8.toNat_ofNat']
  exact Nat.mod_eq_of_lt h

/-- A character of one byte is a piece. -/
theorem piece_one {c : Char} (h : c.toNat ≤ 0x7F) (rest : List UInt8) :
    ∃ b bs, String.utf8EncodeChar c ++ rest = b :: bs ∧ piece b bs = (.scalar c, rest) := by
  have hc : String.utf8EncodeChar c = [UInt8.ofNat c.toNat] := if_pos h
  have hlead : lead? c.toNat = some ⟨c.toNat, 0, 0, 0⟩ := by rw [lead?, if_pos (by omega)]
  refine ⟨_, _, by rw [hc, List.cons_append], ?_⟩
  simp only [piece, toNat_byte (show c.toNat < 256 by omega), hlead, finish, Char.ofNat_toNat]
  rfl

/-- A character of two bytes is a piece. -/
theorem piece_two {c : Char} (hl : 0x7F < c.toNat) (hh : c.toNat ≤ 0x7FF) (rest : List UInt8) :
    ∃ b bs, String.utf8EncodeChar c ++ rest = b :: bs ∧ piece b bs = (.scalar c, rest) := by
  have hc : String.utf8EncodeChar c =
      [UInt8.ofNat (c.toNat / 64 % 0x20 + 0xC0), UInt8.ofNat (c.toNat % 0x40 + 0x80)] :=
    (if_neg (Nat.not_le.2 hl)).trans (if_pos hh)
  have h0 : (UInt8.ofNat (c.toNat / 64 % 0x20 + 0xC0)).toNat = c.toNat / 64 + 0xC0 := by
    rw [toNat_byte] <;> omega
  have h1 : (UInt8.ofNat (c.toNat % 0x40 + 0x80)).toNat = c.toNat % 64 + 0x80 :=
    toNat_byte (by omega)
  have hvalue : (c.toNat / 64 + 0xC0 - 0xC0) * 64 + (c.toNat % 64 + 0x80 - 0x80) = c.toNat := by
    omega
  refine ⟨_, _, by rw [hc, List.cons_append], ?_⟩
  simp only [piece, h0, lead?_two (show 0xC2 ≤ c.toNat / 64 + 0xC0 by omega) (by omega),
    List.cons_append]
  rw [finish_cons _ (by omega) (by omega), h1, hvalue, finish, Char.ofNat_toNat]
  rfl

/-- A character of three bytes is a piece, because it is no surrogate. -/
theorem piece_three {c : Char} (hl : 0x7FF < c.toNat) (hh : c.toNat ≤ 0xFFFF)
    (rest : List UInt8) :
    ∃ b bs, String.utf8EncodeChar c ++ rest = b :: bs ∧ piece b bs = (.scalar c, rest) := by
  have hvalid : c.toNat < 0xD800 ∨ 0xDFFF < c.toNat ∧ c.toNat < 0x110000 := c.valid
  have hc : String.utf8EncodeChar c =
      [UInt8.ofNat (c.toNat / 4096 % 0x10 + 0xE0), UInt8.ofNat (c.toNat / 64 % 0x40 + 0x80),
        UInt8.ofNat (c.toNat % 0x40 + 0x80)] :=
    (if_neg (Nat.not_le.2 (Nat.lt_trans (by decide) hl))).trans
      ((if_neg (Nat.not_le.2 hl)).trans (if_pos hh))
  have h0 : (UInt8.ofNat (c.toNat / 4096 % 0x10 + 0xE0)).toNat = c.toNat / 4096 + 0xE0 := by
    rw [toNat_byte] <;> omega
  have h1 : (UInt8.ofNat (c.toNat / 64 % 0x40 + 0x80)).toNat = c.toNat / 64 % 64 + 0x80 :=
    toNat_byte (by omega)
  have h2 : (UInt8.ofNat (c.toNat % 0x40 + 0x80)).toNat = c.toNat % 64 + 0x80 :=
    toNat_byte (by omega)
  have hvalue : ((c.toNat / 4096 + 0xE0 - 0xE0) * 64 + (c.toNat / 64 % 64 + 0x80 - 0x80)) * 64 +
      (c.toNat % 64 + 0x80 - 0x80) = c.toNat := by
    omega
  refine ⟨_, _, by rw [hc, List.cons_append], ?_⟩
  simp only [piece, h0, lead?_three (show 0xE0 ≤ c.toNat / 4096 + 0xE0 by omega) (by omega),
    List.cons_append]
  rw [finish_cons _ (by split <;> omega) (by split <;> omega), h1,
    finish_cons _ (by omega) (by omega), h2, hvalue, finish, Char.ofNat_toNat]
  rfl

/-- A character of four bytes is a piece, because its number is below U+110000. -/
theorem piece_four {c : Char} (hl : 0xFFFF < c.toNat) (rest : List UInt8) :
    ∃ b bs, String.utf8EncodeChar c ++ rest = b :: bs ∧ piece b bs = (.scalar c, rest) := by
  have hvalid : c.toNat < 0xD800 ∨ 0xDFFF < c.toNat ∧ c.toNat < 0x110000 := c.valid
  have hc : String.utf8EncodeChar c =
      [UInt8.ofNat (c.toNat / 262144 % 0x08 + 0xF0), UInt8.ofNat (c.toNat / 4096 % 0x40 + 0x80),
        UInt8.ofNat (c.toNat / 64 % 0x40 + 0x80), UInt8.ofNat (c.toNat % 0x40 + 0x80)] :=
    (if_neg (Nat.not_le.2 (Nat.lt_trans (by decide) hl))).trans
      ((if_neg (Nat.not_le.2 (Nat.lt_trans (by decide) hl))).trans (if_neg (Nat.not_le.2 hl)))
  have h0 : (UInt8.ofNat (c.toNat / 262144 % 0x08 + 0xF0)).toNat = c.toNat / 262144 + 0xF0 := by
    rw [toNat_byte] <;> omega
  have h1 : (UInt8.ofNat (c.toNat / 4096 % 0x40 + 0x80)).toNat = c.toNat / 4096 % 64 + 0x80 :=
    toNat_byte (by omega)
  have h2 : (UInt8.ofNat (c.toNat / 64 % 0x40 + 0x80)).toNat = c.toNat / 64 % 64 + 0x80 :=
    toNat_byte (by omega)
  have h3 : (UInt8.ofNat (c.toNat % 0x40 + 0x80)).toNat = c.toNat % 64 + 0x80 :=
    toNat_byte (by omega)
  have hvalue : (((c.toNat / 262144 + 0xF0 - 0xF0) * 64 +
      (c.toNat / 4096 % 64 + 0x80 - 0x80)) * 64 + (c.toNat / 64 % 64 + 0x80 - 0x80)) * 64 +
      (c.toNat % 64 + 0x80 - 0x80) = c.toNat := by
    omega
  refine ⟨_, _, by rw [hc, List.cons_append], ?_⟩
  simp only [piece, h0, lead?_four (show 0xF0 ≤ c.toNat / 262144 + 0xF0 by omega) (by omega),
    List.cons_append]
  rw [finish_cons _ (by split <;> omega) (by split <;> omega), h1,
    finish_cons _ (by omega) (by omega), h2, finish_cons _ (by omega) (by omega), h3, hvalue,
    finish, Char.ofNat_toNat]
  rfl

/-- The bytes of a character are one piece, whatever follows them. -/
theorem pieces_utf8EncodeChar (c : Char) (rest : List UInt8) :
    pieces (String.utf8EncodeChar c ++ rest) = .scalar c :: pieces rest := by
  have hpiece : ∃ b bs, String.utf8EncodeChar c ++ rest = b :: bs ∧
      piece b bs = (.scalar c, rest) := by
    by_cases h1 : c.toNat ≤ 0x7F
    · exact piece_one h1 rest
    · by_cases h2 : c.toNat ≤ 0x7FF
      · exact piece_two (Nat.not_le.1 h1) h2 rest
      · by_cases h3 : c.toNat ≤ 0xFFFF
        · exact piece_three (Nat.not_le.1 h2) h3 rest
        · exact piece_four (Nat.not_le.1 h3) rest
  obtain ⟨b, bs, hb, hp⟩ := hpiece
  rw [hb, pieces, hp]

/-- The pieces of an encoded text are its characters. -/
theorem pieces_encode (cs : List Char) : pieces (encode cs) = cs.map .scalar := by
  induction cs with
  | nil => rw [encode_nil, pieces, List.map_nil]
  | cons c cs ih =>
    have hc : encode (c :: cs) = String.utf8EncodeChar c ++ encode cs := rfl
    rw [hc, pieces_utf8EncodeChar, ih, List.map_cons]

/-- The lenient reader gives an encoded text back. -/
@[simp] theorem decodeLenient_encode (cs : List Char) : decodeLenient (encode cs) = cs := by
  rw [decodeLenient, pieces_encode, List.map_map]
  exact List.map_id cs

/-- Characters are read from any place on. -/
theorem scalars_map_scalar (index : Nat) (cs : List Char) :
    scalars index (cs.map .scalar) = .ok cs := by
  induction cs generalizing index with
  | nil => rfl
  | cons c cs ih =>
    rw [List.map_cons, scalars, ih]
    rfl

/-- The strict reader gives an encoded text back. -/
@[simp] theorem decode_encode (cs : List Char) : decode (encode cs) = .ok cs := by
  rw [decode, pieces_encode, scalars_map_scalar]

/-- An ASCII character is its own byte. -/
theorem utf8EncodeChar_ascii {c : Char} (h : c.toNat < 0x80) :
    String.utf8EncodeChar c = [UInt8.ofNat c.toNat] :=
  if_pos (Nat.le_of_lt_succ h)

/-- A byte that comes next is not ASCII. -/
theorem le_low_of_lead? {b : Nat} {l : Lead} (hb : ¬b < 0x80) (h : lead? b = some l) :
    0x80 ≤ l.low := by
  have hlow : ∀ m ∈ lead? b, 0x80 ≤ m.low := by
    unfold lead?
    rw [if_neg hb]
    repeat' split
    all_goals simp
  exact hlow l h

/-- Bytes that continue a character are not ASCII. -/
theorem mem_rest_of_finish {more payload width low high : Nat} {bs rest : List UInt8} {c : Char}
    (hlow : 0x80 ≤ low) (h : finish more payload width low high bs = (.scalar c, rest))
    {b : UInt8} (hb : b.toNat < 0x80) (hm : b ∈ bs) : b ∈ rest := by
  induction more generalizing payload width low high bs with
  | zero =>
    cases h
    exact hm
  | succ more ih =>
    cases bs with
    | nil => cases hm
    | cons d ds =>
      unfold finish at h
      split at h
      · rename_i hrange
        rcases List.mem_cons.1 hm with rfl | hm
        · omega
        · exact ih (Nat.le_refl _) h hm
      · cases h

/-- An ASCII byte at the beginning of a piece that is a character is all of the piece. -/
theorem piece_ascii {b : UInt8} (hb : b.toNat < 0x80) (bs : List UInt8) :
    piece b bs = (.scalar (Char.ofNat b.toNat), bs) := by
  have hlead : lead? b.toNat = some ⟨b.toNat, 0, 0, 0⟩ := if_pos hb
  simp only [piece, hlead, finish]

/-- Behind the first byte of a character, no byte of the character is ASCII. -/
theorem mem_rest_of_piece {d : UInt8} {bs rest : List UInt8} {c : Char}
    (hd : ¬d.toNat < 0x80) (h : piece d bs = (.scalar c, rest)) {b : UInt8} (hb : b.toNat < 0x80)
    (hm : b ∈ bs) : b ∈ rest := by
  unfold piece at h
  cases hlead : lead? d.toNat with
  | none =>
    rw [hlead] at h
    cases h
  | some l =>
    rw [hlead] at h
    exact mem_rest_of_finish (le_low_of_lead? hd hlead) h hb hm

/-- An ASCII byte among bytes that are read as a text is a character of that text. -/
theorem mem_of_scalars {bs : List UInt8} {cs : List Char} {index : Nat}
    (h : scalars index (pieces bs) = .ok cs) {b : UInt8} (hb : b.toNat < 0x80) (hm : b ∈ bs) :
    Char.ofNat b.toNat ∈ cs := by
  fun_induction pieces bs generalizing index cs with
  | case1 => cases hm
  | case2 d ds ih =>
    cases hp : (piece d ds).1 with
    | malformed width =>
      rw [hp] at h
      cases h
    | unfinished width =>
      rw [hp] at h
      cases h
    | scalar c =>
      rw [hp, scalars] at h
      cases hrest : scalars (index + c.utf8Size) (pieces (piece d ds).2) with
      | error flaw =>
        rw [hrest] at h
        cases h
      | ok more =>
        rw [hrest] at h
        cases h
        by_cases hd : d.toNat < 0x80
        · rw [piece_ascii hd] at hp ih hrest
          rcases List.mem_cons.1 hm with rfl | hm
          · cases hp
            exact List.mem_cons_self
          · exact List.mem_cons_of_mem _ (ih hrest hm)
        · have hmem : b ∈ ds := by
            rcases List.mem_cons.1 hm with rfl | hm
            · exact absurd hb hd
            · exact hm
          exact List.mem_cons_of_mem _
            (ih hrest (mem_rest_of_piece hd (Prod.ext hp rfl) hb hmem))

/-- An ASCII byte of a text that is read is a character of it. -/
theorem mem_of_decode {bs : List UInt8} {cs : List Char} (h : decode bs = .ok cs) {b : UInt8}
    (hb : b.toNat < 0x80) (hm : b ∈ bs) : Char.ofNat b.toNat ∈ cs :=
  mem_of_scalars h hb hm

/-- An ASCII byte ends what is read before it, and to the lenient reader it makes no difference
whether a character is ended by it or by the end of the bytes. -/
theorem finish_append_ascii {b : UInt8} (hb : b.toNat < 0x80) {low : Nat} (hlow : 0x80 ≤ low)
    (more payload width high : Nat) (bs ys : List UInt8) :
    (finish more payload width low high (bs ++ b :: ys)).1.lenient =
        (finish more payload width low high bs).1.lenient ∧
      (finish more payload width low high (bs ++ b :: ys)).2 =
        (finish more payload width low high bs).2 ++ b :: ys := by
  induction more generalizing payload width low high bs with
  | zero => exact ⟨rfl, rfl⟩
  | succ more ih =>
    cases bs with
    | nil =>
      have hrange : ¬(low ≤ b.toNat ∧ b.toNat ≤ high) := by omega
      have hends : finish (more + 1) payload width low high (b :: ys) =
          (.malformed width, b :: ys) := if_neg hrange
      rw [List.nil_append, hends]
      exact ⟨rfl, rfl⟩
    | cons d ds =>
      rw [List.cons_append, finish, finish]
      split
      · exact ih (Nat.le_refl _) _ _ _ ds
      · exact ⟨rfl, rfl⟩

/-- An ASCII byte ends the piece before it. -/
theorem piece_append_ascii {b : UInt8} (hb : b.toNat < 0x80) (d : UInt8) (ds ys : List UInt8) :
    (piece d (ds ++ b :: ys)).1.lenient = (piece d ds).1.lenient ∧
      (piece d (ds ++ b :: ys)).2 = (piece d ds).2 ++ b :: ys := by
  by_cases hd : d.toNat < 0x80
  · rw [piece_ascii hd, piece_ascii hd]
    exact ⟨rfl, rfl⟩
  · unfold piece
    cases hlead : lead? d.toNat with
    | none => exact ⟨rfl, rfl⟩
    | some l => exact finish_append_ascii hb (le_low_of_lead? hd hlead) _ _ _ _ _ _

/-- The lenient reader reads an ASCII byte as its character, wherever it stands. -/
theorem decodeLenient_append_ascii {b : UInt8} (hb : b.toNat < 0x80) (xs ys : List UInt8) :
    decodeLenient (xs ++ b :: ys) =
      decodeLenient xs ++ Char.ofNat b.toNat :: decodeLenient ys := by
  unfold decodeLenient
  fun_induction pieces xs with
  | case1 =>
    rw [List.nil_append, pieces, piece_ascii hb]
    rfl
  | case2 d ds ih =>
    obtain ⟨hpiece, hrest⟩ := piece_append_ascii hb d ds ys
    rw [List.cons_append, pieces, List.map_cons, hpiece, hrest, ih]
    rfl

end PayLink.Text.Utf8
