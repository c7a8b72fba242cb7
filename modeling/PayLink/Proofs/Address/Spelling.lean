import PayLink.Proofs.Address
/-!
# Spellings of addresses

A base58 text and the bytes that it spells are two numerals of one number, each with the same
number of leading zeros. Every text over the alphabet spells bytes, every byte string is spelled by
one text, and an address is read exactly from the text that spells it.
-/

namespace PayLink

open Positional

namespace Base58

/-- A text spells bytes. Each leading `1` stands for a zero byte; behind them both are the same
number, the text in base 58 and the bytes in base 256, without a leading zero. -/
def Spells (cs : List Char) (bs : List UInt8) : Prop :=
  ∃ (zeros : Nat) (ds : List Nat) (tail : List UInt8),
    (∀ d ∈ ds, d < 58) ∧ ds.head? ≠ some 0 ∧ tail.head? ≠ some 0 ∧
      cs = List.replicate zeros '1' ++ ds.map digitChar ∧
      bs = List.replicate zeros 0 ++ tail ∧
      value 58 ds = value 256 (tail.map UInt8.toNat)

/-- A character of the alphabet is the character of its digit. -/
theorem digitChar_of_digit? {c : Char} {d : Nat} (h : digit? c = some d) :
    d < 58 ∧ digitChar d = c := by
  obtain ⟨hlt, hc, -⟩ := List.idxOf?_eq_some_iff.1 h
  have hd : d < 58 := hlt
  refine ⟨hd, ?_⟩
  rw [digitChar, List.getD_eq_getElem?_getD, List.getElem?_eq_getElem hlt, hc]
  rfl

/-- A text over the alphabet is the text of its digits. -/
theorem map_digitChar_of_mapM {cs : List Char} {ds : List Nat} (h : cs.mapM digit? = some ds) :
    (∀ d ∈ ds, d < 58) ∧ cs = ds.map digitChar := by
  induction cs generalizing ds with
  | nil =>
    cases h
    exact ⟨fun d hd => absurd hd List.not_mem_nil, rfl⟩
  | cons c cs ih =>
    rw [List.mapM_cons] at h
    obtain ⟨d, hd, htail⟩ := Option.bind_eq_some_iff.1 h
    obtain ⟨rest, hrest, hds⟩ := Option.bind_eq_some_iff.1 htail
    cases hds
    obtain ⟨hdigit, hchar⟩ := digitChar_of_digit? hd
    obtain ⟨hdigits, hchars⟩ := ih hrest
    refine ⟨List.forall_mem_cons.2 ⟨hdigit, hdigits⟩, ?_⟩
    rw [List.map_cons, hchar, ← hchars]

/-- Numbers below 256 are read back from the bytes that hold them. -/
theorem map_toNat_map_ofNat {ds : List Nat} (h : ∀ d ∈ ds, d < 256) :
    (ds.map UInt8.ofNat).map UInt8.toNat = ds := by
  rw [List.map_map]
  refine (List.map_congr_left fun d hd => ?_).trans (List.map_id _)
  exact UInt8.toNat_ofNat_of_lt' (h d hd)

/-- Leading zero bytes do not count. -/
theorem value_zeros_append (zeros : Nat) (tail : List UInt8) :
    value 256 ((List.replicate zeros 0 ++ tail).map UInt8.toNat) =
      value 256 (tail.map UInt8.toNat) := by
  rw [List.map_append, List.map_replicate]
  exact value_replicate_zero_append ..

/-- What is read from a text is spelled by it. -/
theorem spells_of_decode? {cs : List Char} {bs : List UInt8} (h : decode? cs = some bs) :
    Spells cs bs := by
  obtain ⟨ds, hds, hbs⟩ := Option.bind_eq_some_iff.1 h
  obtain ⟨hlt, hcs⟩ := map_digitChar_of_mapM hds
  have hbytes := map_toNat_map_ofNat fun d hd => lt_of_mem_digits (b := 256) (n := value 58 ds) hd
  refine ⟨(ds.takeWhile (· == 0)).length, ds.dropWhile (· == 0),
    (digits 256 (value 58 ds)).map UInt8.ofNat, ?_, head?_dropWhile_zeros ds, ?_, ?_,
    (Option.some.inj hbs).symm, ?_⟩
  · intro d hd
    exact hlt d ((List.dropWhile_sublist _).subset hd)
  · intro hhead
    -- The first digit of a number is not zero, and as a byte it is the same number.
    refine head?_digits_ne (show 2 ≤ 256 by decide) (value 58 ds) ?_
    rw [← hbytes, List.head?_map, hhead]
    rfl
  · conv => lhs; rw [hcs, eq_zeros_append ds]
    rw [List.map_append, List.map_replicate]
    rfl
  · rw [hbytes, value_digits (by decide)]
    conv => rhs; rw [eq_zeros_append ds]
    rw [value_replicate_zero_append]

/-- The text that spells bytes is their text. -/
theorem eq_encode_of_spells {cs : List Char} {bs : List UInt8} (h : Spells cs bs) :
    cs = encode bs := by
  obtain ⟨zeros, ds, tail, hlt, hds, htail, rfl, rfl, hvalue⟩ := h
  rw [encode, takeWhile_zeros_append zeros htail, value_zeros_append, ← hvalue,
    digits_value (by decide) hlt hds]

/-- Bytes are read from a text exactly if it spells them. -/
theorem decode?_eq_some_iff_spells {cs : List Char} {bs : List UInt8} :
    decode? cs = some bs ↔ Spells cs bs := by
  refine ⟨spells_of_decode?, fun h => ?_⟩
  rw [eq_encode_of_spells h, decode?_encode]

/-- A text spells bytes exactly if it is their text. -/
theorem spells_iff_eq_encode {cs : List Char} {bs : List UInt8} :
    Spells cs bs ↔ cs = encode bs := by
  refine ⟨eq_encode_of_spells, fun h => ?_⟩
  rw [h]
  exact spells_of_decode? (decode?_encode bs)

end Base58

namespace Address

/-- A text spells the bytes of an address exactly if it is the text of that address. -/
theorem spells_bytes_iff {s : String} {a : Address} :
    Base58.Spells s.toList a.bytes ↔ a.text = s := by
  rw [Base58.spells_iff_eq_encode, text, ← String.toList_inj, String.toList_ofList]
  exact eq_comm

/-- A text names some address exactly if it spells 32 bytes. -/
theorem exists_parse_iff_spells {role : Role} {s : String} :
    (∃ a, parse role s = .ok a) ↔
      ∃ bs, Base58.Spells s.toList bs ∧ bs.length = addressSize := by
  constructor
  · rintro ⟨a, ha⟩
    have hspells := spells_bytes_iff.2 (parse_eq_ok_iff.1 ha).symm
    exact ⟨a.bytes, hspells, a.length_bytes⟩
  · rintro ⟨bs, hspells, hlength⟩
    have htext : text ⟨bs, hlength⟩ = s := spells_bytes_iff.1 hspells
    exact ⟨⟨bs, hlength⟩, parse_eq_ok_iff.2 htext.symm⟩

/-- Addresses and the texts that spell 32 bytes are in bijection. Every address is read from its
text, an address is read from no other text, and a text that spells no 32 bytes is refused with
itself in the refusal. The two guards of reading are idle: the text of an address is never too long
or empty, and writing 32 bytes that were read from a text gives the text again. -/
theorem parse_bijective (role : Role) :
    (∀ a : Address, parse role a.text = .ok a) ∧
      (∀ s a, parse role s = .ok a ↔ a.text = s) ∧
      (∀ s a, parse role s = .ok a ↔ Base58.Spells s.toList a.bytes) ∧
      (∀ s, (∃ a, parse role s = .ok a) ↔
        ∃ bs, Base58.Spells s.toList bs ∧ bs.length = addressSize) ∧
      (∀ s, parse role s = .error (.invalidAddress role s) ↔
        ¬∃ bs, Base58.Spells s.toList bs ∧ bs.length = addressSize) ∧
      (∀ a : Address, a.text.utf8ByteSize ≠ 0 ∧ a.text.utf8ByteSize ≤ addressTextMax) ∧
      ∀ s (a : Address), Base58.decode? s.toList = some a.bytes ↔ a.text = s := by
  have hread : ∀ s a, parse role s = .ok a ↔ a.text = s := fun s a =>
    parse_eq_ok_iff.trans eq_comm
  have hrefused : ∀ s, parse role s = .error (.invalidAddress role s) ↔
      ¬∃ a, parse role s = .ok a := by
    intro s
    cases h : parse role s with
    | ok a => simp only [reduceCtorEq, Except.ok.injEq, exists_eq', not_true_eq_false]
    | error e =>
      obtain ⟨rfl, -⟩ := eq_of_parse_eq_error h
      simp only [reduceCtorEq, exists_false, not_false_eq_true]
  refine ⟨fun a => (hread _ a).2 rfl, hread, ?_, fun s => exists_parse_iff_spells, ?_,
    utf8ByteSize_text, ?_⟩
  · intro s a
    rw [hread, spells_bytes_iff]
  · intro s
    rw [hrefused, exists_parse_iff_spells]
  · intro s a
    rw [Base58.decode?_eq_some_iff_spells, spells_bytes_iff]

end Address

end PayLink
