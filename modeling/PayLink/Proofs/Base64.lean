import PayLink.Base64
import PayLink.Proofs.Outcome
/-!
# Reading base64 text back

Bytes are three to a group of four digits, and a last group of one or two bytes has digits for them
and padding. The digits of the text of any bytes are read back as these bytes.
-/

namespace PayLink.Base64

/-- A digit is read back. -/
theorem digit?_digitChar : ∀ n < 64, digit? (digitChar n) = some n := by
  decide +kernel

/-- A digit is no padding. -/
theorem digitChar_ne : ∀ n < 64, digitChar n ≠ '=' := by
  decide +kernel

/-- The six-bit values of the digits that write bytes. -/
def sextets : List UInt8 → List Nat
  | [] => []
  | [a] => [a.toNat / 4, a.toNat % 4 * 16]
  | [a, b] => [a.toNat / 4, a.toNat % 4 * 16 + b.toNat / 16, b.toNat % 16 * 4]
  | a :: b :: c :: rest =>
    a.toNat / 4 :: (a.toNat % 4 * 16 + b.toNat / 16) :: (b.toNat % 16 * 4 + c.toNat / 64)
      :: c.toNat % 64 :: sextets rest

/-- Every value has six bits. -/
theorem lt_of_mem_sextets {bs : List UInt8} {n : Nat} (h : n ∈ sextets bs) : n < 64 := by
  induction bs using sextets.induct with
  | case1 => cases h
  | case2 a =>
    have ha := a.toNat_lt
    simp only [sextets, List.mem_cons, List.not_mem_nil, or_false] at h
    omega
  | case3 a b =>
    have ha := a.toNat_lt
    have hb := b.toNat_lt
    simp only [sextets, List.mem_cons, List.not_mem_nil, or_false] at h
    omega
  | case4 a b c rest ih =>
    have ha := a.toNat_lt
    have hb := b.toNat_lt
    have hc := c.toNat_lt
    simp only [sextets, List.mem_cons] at h
    rcases h with rfl | rfl | rfl | rfl | h
    · omega
    · omega
    · omega
    · omega
    · exact ih h

/-- A text is the digits of the six-bit values and at most as much padding as may follow them. -/
theorem encode_eq (bs : List UInt8) :
    ∃ padding, encode bs = (sextets bs).map digitChar ++ List.replicate padding '=' ∧
      padding ≤ maxPadding (sextets bs).length := by
  induction bs using sextets.induct with
  | case1 => exact ⟨0, rfl, by decide⟩
  | case2 a => exact ⟨2, rfl, Nat.le_refl 2⟩
  | case3 a b => exact ⟨1, rfl, Nat.le_refl 1⟩
  | case4 a b c rest ih =>
    obtain ⟨padding, htext, hle⟩ := ih
    refine ⟨padding, by rw [encode, htext]; rfl, ?_⟩
    simp only [sextets, List.length_cons, maxPadding] at hle ⊢
    omega

/-- The six-bit values of bytes are put together to these bytes. -/
theorem ofDigits?_sextets (bs : List UInt8) : ofDigits? (sextets bs) = some bs := by
  induction bs using sextets.induct with
  | case1 => rfl
  | case2 a =>
    have hbits : a.toNat % 4 * 16 % 16 = 0 := by omega
    have ha : a.toNat / 4 * 4 + a.toNat % 4 * 16 / 16 = a.toNat := by omega
    rw [sextets, ofDigits?, if_pos hbits, ha, UInt8.ofNat_toNat]
  | case3 a b =>
    have hb := b.toNat_lt
    have hbits : b.toNat % 16 * 4 % 4 = 0 := by omega
    have hfirst : a.toNat / 4 * 4 + (a.toNat % 4 * 16 + b.toNat / 16) / 16 = a.toNat := by omega
    have hsecond : (a.toNat % 4 * 16 + b.toNat / 16) % 16 * 16 + b.toNat % 16 * 4 / 4 =
        b.toNat := by
      omega
    rw [sextets, ofDigits?, if_pos hbits, hfirst, hsecond, UInt8.ofNat_toNat, UInt8.ofNat_toNat]
  | case4 a b c rest ih =>
    have hb := b.toNat_lt
    have hc := c.toNat_lt
    have hfirst : a.toNat / 4 * 4 + (a.toNat % 4 * 16 + b.toNat / 16) / 16 = a.toNat := by omega
    have hsecond : (a.toNat % 4 * 16 + b.toNat / 16) % 16 * 16 +
        (b.toNat % 16 * 4 + c.toNat / 64) / 4 = b.toNat := by omega
    have hthird : (b.toNat % 16 * 4 + c.toNat / 64) % 4 * 64 + c.toNat % 64 = c.toNat := by omega
    rw [sextets, ofDigits?, ih, hfirst, hsecond, hthird, UInt8.ofNat_toNat, UInt8.ofNat_toNat,
      UInt8.ofNat_toNat]
    rfl

/-- Base64 text is read back. -/
@[simp] theorem decode?_encode (bs : List UInt8) : decode? (encode bs) = some bs := by
  obtain ⟨padding, htext, hle⟩ := encode_eq bs
  have hdigits : ∀ c ∈ (sextets bs).map digitChar, decide (c ≠ '=') = true := by
    intro c hc
    obtain ⟨n, hn, rfl⟩ := List.mem_map.1 hc
    exact decide_eq_true (digitChar_ne n (lt_of_mem_sextets hn))
  have hend : (List.replicate padding '=').takeWhile (· ≠ '=') = [] := by
    cases padding with
    | zero => rfl
    | succ padding => rfl
  have htake : (encode bs).takeWhile (· ≠ '=') = (sextets bs).map digitChar := by
    rw [htext, List.takeWhile_append_of_pos hdigits, hend, List.append_nil]
  have hdrop : (encode bs).drop ((sextets bs).map digitChar).length =
      List.replicate padding '=' := by
    rw [htext, List.drop_left]
  have hpadding : (List.replicate padding '=').all (· = '=') ∧
      (List.replicate padding '=').length ≤ maxPadding ((sextets bs).map digitChar).length := by
    rw [List.length_replicate, List.length_map]
    exact ⟨List.all_eq_true.2 fun c hc => decide_eq_true (List.eq_of_mem_replicate hc), hle⟩
  simp only [decode?, htake, hdrop, if_pos hpadding,
    mapM_map_eq_some fun n hn => digit?_digitChar n (lt_of_mem_sextets hn)]
  exact ofDigits?_sextets bs

end PayLink.Base64
