import PayLink.Error
import PayLink.Proofs.Outcome
import PayLink.Proofs.Positional
import PayLink.Proofs.Text.Ascii
/-!
# Addresses and their texts

Base58 text is read back byte for byte, and the text of an address is never too long to be read, so
every address is named by its text. The text has letters and digits only.
-/

namespace PayLink

open Positional

namespace Base58

variable {α : Type}

/-- A digit is read back. -/
theorem digit?_digitChar : ∀ d < 58, digit? (digitChar d) = some d := by
  decide

/-- Bytes, and digits, are their leading zeros and what follows them. -/
theorem eq_zeros_append [BEq α] [LawfulBEq α] [Zero α] (as : List α) :
    as = List.replicate (as.takeWhile (· == 0)).length 0 ++ as.dropWhile (· == 0) := by
  have hzero : as.takeWhile (· == 0) = List.replicate (as.takeWhile (· == 0)).length 0 := by
    refine List.eq_replicate_of_mem fun a ha => ?_
    exact eq_of_beq (List.all_eq_true.1 List.all_takeWhile a ha)
  rw [← hzero, List.takeWhile_append_dropWhile]

/-- What follows the leading zeros does not begin with a zero. -/
theorem head?_dropWhile_zeros [BEq α] [LawfulBEq α] [Zero α] (as : List α) :
    (as.dropWhile (· == 0)).head? ≠ some 0 := by
  intro h
  have hne := List.head?_dropWhile_not (· == (0 : α)) as
  rw [h] at hne
  have hself : ((0 : α) == 0) = false := hne
  rw [beq_self_eq_true] at hself
  cases hself

/-- Leading zeros are as many as are put there. -/
theorem takeWhile_zeros_append [BEq α] [LawfulBEq α] [Zero α] (count : Nat) {as : List α}
    (h : as.head? ≠ some 0) :
    ((List.replicate count 0 ++ as).takeWhile (· == 0)).length = count := by
  have has : as.takeWhile (· == 0) = [] := by
    cases as with
    | nil => rfl
    | cons a as =>
      have ha : (a == 0) = false := beq_eq_false_iff_ne.2 fun he => h (by rw [he]; rfl)
      rw [List.takeWhile_cons, ha]
      rfl
  have hzeros : ∀ a ∈ List.replicate count (0 : α), (a == 0) = true := by
    intro a ha
    rw [List.eq_of_mem_replicate ha]
    exact beq_self_eq_true 0
  rw [List.takeWhile_append_of_pos hzeros, has, List.append_nil, List.length_replicate]

/-- The digits that a text of bytes is made of. -/
def textDigits (bs : List UInt8) : List Nat :=
  List.replicate (bs.takeWhile (· == 0)).length 0 ++ digits 58 (value 256 (bs.map UInt8.toNat))

/-- Every digit of a text is below 58. -/
theorem textDigits_lt {bs : List UInt8} {d : Nat} (h : d ∈ textDigits bs) : d < 58 := by
  rcases List.mem_append.1 h with h | h
  · rw [List.eq_of_mem_replicate h]
    decide
  · exact lt_of_mem_digits h

/-- A text is the text of its digits. -/
theorem encode_eq_map (bs : List UInt8) : encode bs = (textDigits bs).map digitChar := by
  rw [textDigits, List.map_append, List.map_replicate]
  rfl

/-- The bytes behind the leading zeros are the digits of the number that all the bytes denote. -/
theorem digits_value_bytes (bs : List UInt8) :
    digits 256 (value 256 (bs.map UInt8.toNat)) =
      (bs.dropWhile (· == 0)).map UInt8.toNat := by
  have hvalue : value 256 (bs.map UInt8.toNat) =
      value 256 ((bs.dropWhile (· == 0)).map UInt8.toNat) := by
    conv => lhs; rw [eq_zeros_append bs]
    rw [List.map_append, List.map_replicate]
    exact value_replicate_zero_append ..
  rw [hvalue, digits_value (by decide)]
  · intro d hd
    obtain ⟨b, -, rfl⟩ := List.mem_map.1 hd
    exact b.toNat_lt
  · intro hhead
    rw [List.head?_map, Option.map_eq_some_iff] at hhead
    obtain ⟨b, hb, hzero⟩ := hhead
    have hb0 : b = 0 := UInt8.toNat_inj.1 hzero
    exact head?_dropWhile_zeros bs (by rw [hb, hb0])

/-- Base58 text is read back. -/
@[simp] theorem decode?_encode (bs : List UInt8) : decode? (encode bs) = some bs := by
  have hmap : ((textDigits bs).map digitChar).mapM digit? = some (textDigits bs) :=
    mapM_map_eq_some fun d hd => digit?_digitChar d (textDigits_lt hd)
  have hzeros : ((textDigits bs).takeWhile (· == 0)).length =
      (bs.takeWhile (· == 0)).length :=
    takeWhile_zeros_append _ (head?_digits_ne (by decide) _)
  have hvalue : value 58 (textDigits bs) = value 256 (bs.map UInt8.toNat) := by
    rw [textDigits, value_replicate_zero_append, value_digits (by decide)]
  have hbytes : ((bs.dropWhile (· == 0)).map UInt8.toNat).map UInt8.ofNat =
      bs.dropWhile (· == 0) := by
    rw [List.map_map]
    refine (List.map_congr_left fun b _ => ?_).trans (List.map_id _)
    exact UInt8.ofNat_toNat
  rw [decode?, encode_eq_map, hmap]
  change some (_ ++ _) = _
  rw [hzeros, hvalue, digits_value_bytes, hbytes, ← eq_zeros_append]

/-- The text of at most 32 bytes has at most 12 characters more than there are bytes. -/
theorem length_encode_le {bs : List UInt8} (h : bs.length ≤ 32) :
    (encode bs).length ≤ bs.length + 12 := by
  have hsplit := congrArg List.length (eq_zeros_append bs)
  rw [List.length_append, List.length_replicate] at hsplit
  have hpow : ∀ k ≤ 32, 256 ^ k ≤ 58 ^ (k + 12) := by decide
  have hlt : value 256 (bs.map UInt8.toNat) < 58 ^ ((bs.dropWhile (· == 0)).length + 12) := by
    refine Nat.lt_of_lt_of_le ?_ (hpow _ (by omega))
    conv => lhs; rw [← value_digits (show 2 ≤ 256 by decide) (value 256 (bs.map UInt8.toNat))]
    rw [digits_value_bytes]
    refine (value_lt (by decide) fun d hd => ?_).trans_eq (by rw [List.length_map])
    obtain ⟨b, -, rfl⟩ := List.mem_map.1 hd
    exact b.toNat_lt
  have hdigits := length_digits_le (show 2 ≤ 58 by decide) hlt
  rw [encode_eq_map, List.length_map, textDigits, List.length_append, List.length_replicate]
  omega

/-- Characters of a text are letters and digits. -/
theorem isAlphanum_of_mem_encode {bs : List UInt8} {c : Char} (h : c ∈ encode bs) :
    c.isAlphanum = true := by
  have hdigit : ∀ d < 58, (digitChar d).isAlphanum = true := by decide
  rw [encode_eq_map] at h
  obtain ⟨d, hd, rfl⟩ := List.mem_map.1 h
  exact hdigit d (textDigits_lt hd)

/-- Some bytes have some text. -/
theorem encode_ne_nil {bs : List UInt8} (h : bs ≠ []) : encode bs ≠ [] := by
  intro he
  have hread := decode?_encode bs
  have hnil : decode? [] = some [] := by decide +kernel
  rw [he, hnil] at hread
  exact h (Option.some.inj hread).symm

end Base58

namespace Address

/-- The characters of an address text are letters and digits. -/
theorem isAlphanum_of_mem_text {a : Address} {c : Char} (h : c ∈ a.text.toList) :
    c.isAlphanum = true := by
  rw [text, String.toList_ofList] at h
  exact Base58.isAlphanum_of_mem_encode h

/-- A character that is no letter and no digit does not stand in an address text. -/
theorem not_mem_text {a : Address} {c : Char} (h : c.isAlphanum = false) : c ∉ a.text.toList := by
  intro hm
  rw [isAlphanum_of_mem_text hm] at h
  cases h

/-- An address text is not empty. -/
theorem text_toList_ne_nil (a : Address) : a.text.toList ≠ [] := by
  rw [text, String.toList_ofList]
  refine Base58.encode_ne_nil fun h => ?_
  have hlength := a.length_bytes
  rw [h] at hlength
  cases hlength

/-- An ASCII text has as many bytes as characters. -/
theorem utf8ByteSize_ofList {cs : List Char} (h : ∀ c ∈ cs, c.toNat < 0x80) :
    (String.ofList cs).utf8ByteSize = cs.length := by
  induction cs with
  | nil => rfl
  | cons c cs ih =>
    have hc : c.utf8Size = 1 := by
      have hlt : c.toNat < 0x80 := h c List.mem_cons_self
      rw [Char.utf8Size_eq_one_iff]
      exact UInt32.le_iff_toNat_le.2 (Nat.le_of_lt_succ hlt)
    rw [String.ofList_cons, String.utf8ByteSize_append, String.utf8ByteSize_singleton, hc,
      ih fun d hd => h d (List.mem_cons_of_mem c hd), List.length_cons, Nat.add_comm]

/-- An address text is short enough to be read, and not empty. -/
theorem utf8ByteSize_text (a : Address) :
    a.text.utf8ByteSize ≠ 0 ∧ a.text.utf8ByteSize ≤ addressTextMax := by
  have hascii : ∀ c ∈ Base58.encode a.bytes, c.toNat < 0x80 := fun c hc =>
    Text.isAlphanum_lt (Base58.isAlphanum_of_mem_encode hc)
  have hlength : a.bytes.length = 32 := a.length_bytes
  have hle := Base58.length_encode_le (Nat.le_of_eq hlength)
  have hne : (Base58.encode a.bytes).length ≠ 0 := fun h =>
    a.text_toList_ne_nil (by rw [text, String.toList_ofList]; exact List.length_eq_zero_iff.1 h)
  rw [text, utf8ByteSize_ofList hascii]
  exact ⟨hne, by rw [hlength] at hle; exact hle⟩

/-- Every address is named by its text. -/
@[simp] theorem ofText?_text (a : Address) : ofText? a.text = some a := by
  obtain ⟨hne, hle⟩ := a.utf8ByteSize_text
  have hsize : ¬(a.text.utf8ByteSize = 0 ∨ addressTextMax < a.text.utf8ByteSize) := by omega
  have hbytes : Base58.decode? a.text.toList = some a.bytes := by
    rw [text, String.toList_ofList, Base58.decode?_encode]
  have haddress : ofBytes? a.bytes = some a := dif_pos a.length_bytes
  rw [ofText?, if_neg hsize]
  change (Base58.decode? a.text.toList).bind (fun bs => (ofBytes? bs).bind fun b =>
    if b.text = a.text then some b else none) = some a
  rw [hbytes, Option.bind_some, haddress, Option.bind_some, if_pos rfl]

/-- A text that names an address is its text. -/
theorem text_of_ofText? {s : String} {a : Address} (h : ofText? s = some a) : a.text = s := by
  unfold ofText? at h
  split at h
  · cases h
  · simp only [Option.bind_eq_bind, Option.bind_eq_some_iff] at h
    obtain ⟨bs, -, b, -, hb⟩ := h
    split at hb
    · rename_i ht
      rwa [← Option.some.inj hb]
    · cases hb

/-- A text names an address exactly if it is its text. -/
theorem ofText?_eq_some_iff {s : String} {a : Address} : ofText? s = some a ↔ s = a.text :=
  ⟨fun h => (text_of_ofText? h).symm, fun h => by rw [h, ofText?_text]⟩

/-- A text is read as an address exactly if it is the text of that address. -/
theorem parse_eq_ok_iff {role : Role} {s : String} {a : Address} :
    parse role s = .ok a ↔ s = a.text := by
  rw [← ofText?_eq_some_iff, parse]
  cases ofText? s with
  | none =>
    constructor
    · intro h
      cases h
    · intro h
      cases h
  | some b =>
    constructor
    · intro h
      cases h
      rfl
    · intro h
      cases h
      rfl

/-- A text that is not read as an address is the text of none, and is named in the refusal. -/
theorem eq_of_parse_eq_error {role : Role} {s : String} {e : PayError}
    (h : parse role s = .error e) : e = .invalidAddress role s ∧ ∀ a : Address, s ≠ a.text := by
  have hnone : ∀ a : Address, s ≠ a.text := by
    intro a ha
    rw [parse_eq_ok_iff.2 ha] at h
    cases h
  refine ⟨?_, hnone⟩
  rw [parse] at h
  split at h
  · cases h
  · cases h
    rfl

/-- Addresses with the same text are the same address. -/
theorem text_injective : Function.Injective text := by
  intro a b h
  have hb := ofText?_text b
  rw [← h, ofText?_text] at hb
  exact Option.some.inj hb

end Address

end PayLink
