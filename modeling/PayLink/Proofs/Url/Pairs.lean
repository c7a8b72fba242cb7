import PayLink.Proofs.Text.Ascii
import PayLink.Proofs.Text.Cut
import PayLink.Proofs.Url.Escapes
import PayLink.Url.Query
/-!
# Reading back pairs

A written key or value is read back, and so are written pairs: no key and no value holds a separator
once it is written. Pairs that are appended to a query are read after those that were there.
-/

namespace PayLink.Url.Form

open PayLink.Text

/-- The characters of a written key or value. -/
def isEncoded (c : Char) : Bool :=
  isPlain c || c = '+' || c = '%'

/-- The characters of written pairs. -/
def isWritten (c : Char) : Bool :=
  isEncoded c || c = '=' || c = '&'

/-- An escape has a percent sign and two digits. -/
theorem isEncoded_of_mem_escape {b : UInt8} {c : Char} (h : c ∈ Percent.escape b) :
    isEncoded c = true ∧ c ≠ '+' := by
  have hb : b.toNat < 256 := b.toNat_lt
  have hupper : ∀ n < 16, isEncoded (Hex.upper n) = true ∧ Hex.upper n ≠ '+' := by decide
  simp only [Percent.escape, List.mem_cons, List.not_mem_nil, or_false] at h
  rcases h with rfl | rfl | rfl
  · decide
  · exact hupper _ (by omega)
  · exact hupper _ (by omega)

/-- The escapes of a character have the characters of escapes. -/
theorem isEncoded_of_mem_escapeChar {c d : Char} (h : d ∈ Percent.escapeChar c) :
    isEncoded d = true ∧ d ≠ '+' := by
  obtain ⟨b, -, hb⟩ := List.mem_flatMap.1 h
  exact isEncoded_of_mem_escape hb

/-- A written key or value has no other characters than those of written keys and values. -/
theorem isEncoded_of_mem_encode {c : Char} {cs : List Char} (h : c ∈ encode cs) :
    isEncoded c = true := by
  obtain ⟨d, -, hd⟩ := List.mem_flatMap.1 h
  unfold encodeChar at hd
  split at hd
  · rename_i hp
    rw [List.mem_singleton.1 hd, isEncoded, hp]
    rfl
  · split at hd
    · rw [List.mem_singleton.1 hd]
      rfl
    · exact (isEncoded_of_mem_escapeChar hd).1

/-- Neither a separator of pairs nor one of key and value stands in a written key or value. -/
theorem separator_not_mem_encode (cs : List Char) : '&' ∉ encode cs ∧ '=' ∉ encode cs := by
  constructor
  · intro h
    exact absurd (isEncoded_of_mem_encode h) (by decide)
  · intro h
    exact absurd (isEncoded_of_mem_encode h) (by decide)

/-- A written character denotes its bytes, once plus signs are read as spaces. -/
theorem percentDecode_encodeChar (c : Char) (rest : List Char) :
    Percent.decode ((encodeChar c ++ rest).map fun d => if d = '+' then ' ' else d) =
      String.utf8EncodeChar c ++
        Percent.decode (rest.map fun d => if d = '+' then ' ' else d) := by
  rw [List.map_append]
  unfold encodeChar
  split
  · rename_i hp
    have hplus : c ≠ '+' := by
      rintro rfl
      exact absurd hp (by decide)
    have hpercent : c ≠ '%' := by
      rintro rfl
      exact absurd hp (by decide)
    rw [List.map_singleton, if_neg hplus, List.singleton_append, Percent.decode_cons hpercent]
  · split
    · rename_i hspace
      rw [hspace, List.map_singleton, if_pos rfl, List.singleton_append,
        Percent.decode_cons (by decide)]
    · have hkeep : (Percent.escapeChar c).map (fun d => if d = '+' then ' ' else d) =
          Percent.escapeChar c := by
        refine (List.map_congr_left fun d hd => ?_).trans (List.map_id _)
        exact if_neg (isEncoded_of_mem_escapeChar hd).2
      rw [hkeep, Percent.decode_escapeChar]

/-- A written key or value is read back. -/
@[simp] theorem decode_encode (cs : List Char) : decode (encode cs) = cs := by
  have hbytes : Percent.decode ((encode cs).map fun d => if d = '+' then ' ' else d) =
      Utf8.encode cs := by
    induction cs with
    | nil => rfl
    | cons c cs ih =>
      have hc : encode (c :: cs) = encodeChar c ++ encode cs := rfl
      rw [hc, percentDecode_encodeChar, ih]
      rfl
  rw [decode, hbytes, Utf8.decodeLenient_encode]

/-- A written pair is read back. -/
@[simp] theorem decodePair_encodePair (p : Pair) : decodePair (encodePair p) = p := by
  have hcut := cut_append (separator_not_mem_encode p.1).2 (encode p.2)
  simp only [decodePair, encodePair, hcut, Option.getD_some, decode_encode]

/-- Written pairs are joined by their separator. -/
theorem write_eq_intercalate (ps : List Pair) :
    write ps = ['&'].intercalate (ps.map encodePair) := by
  induction ps with
  | nil => rfl
  | cons p ps ih =>
    cases ps with
    | nil => simp [write]
    | cons q ps =>
      rw [write, ih]
      · simp [List.intercalate]
      · exact List.cons_ne_nil q ps

/-- No separator of pairs stands in a written pair. -/
theorem separator_not_mem_encodePair (p : Pair) : '&' ∉ encodePair p := by
  intro h
  rcases List.mem_append.1 h with h | h
  · exact (separator_not_mem_encode p.1).1 h
  · rcases List.mem_cons.1 h with h | h
    · exact absurd h (by decide)
    · exact (separator_not_mem_encode p.2).1 h

/-- Written pairs are read back. -/
@[simp] theorem read_write (ps : List Pair) : read (write ps) = ps := by
  cases ps with
  | nil => rfl
  | cons p ps =>
    have hparts : (write (p :: ps)).splitOn '&' = (p :: ps).map encodePair := by
      rw [write_eq_intercalate, List.splitOn_intercalate]
      · intro part hpart
        obtain ⟨q, -, rfl⟩ := List.mem_map.1 hpart
        exact separator_not_mem_encodePair q
      · exact List.cons_ne_nil _ _
    have hfilter : ((p :: ps).map encodePair).filter (fun part => !part.isEmpty) =
        (p :: ps).map encodePair := by
      refine List.filter_eq_self.2 fun part hpart => ?_
      obtain ⟨q, -, rfl⟩ := List.mem_map.1 hpart
      simp [encodePair]
    rw [read, hparts, hfilter, List.map_map]
    refine (List.map_congr_left fun q _ => ?_).trans (List.map_id _)
    exact decodePair_encodePair q

/-- Queries that are joined by a separator are read one after the other. -/
theorem read_append_separator (a b : List Char) : read (a ++ '&' :: b) = read a ++ read b := by
  rw [read, List.splitOn_append_cons_self, List.filter_append, List.map_append]
  rfl

/-- An ASCII character that is neither a plus sign nor part of an escape denotes itself, wherever it
stands in a key or value. -/
theorem decode_append_cons {c : Char} (hascii : c.toNat < 0x80) (hplus : c ≠ '+')
    (hpercent : c ≠ '%') (hdigit : Hex.digit? c = none) (before after : List Char) :
    decode (before ++ c :: after) = decode before ++ c :: decode after := by
  have hbyte : (UInt8.ofNat c.toNat).toNat = c.toNat := Utf8.toNat_byte (by omega)
  rw [decode, List.map_append, List.map_cons, if_neg hplus,
    Percent.decode_append_cons hpercent hdigit, Utf8.utf8EncodeChar_ascii hascii,
    List.singleton_append, Utf8.decodeLenient_append_ascii (by omega), hbyte, Char.ofNat_toNat]
  rfl

/-- A key or value with a slash before a question mark is longer than without it. -/
theorem decode_ne_of_slash (before after : List Char) :
    decode (before ++ '/' :: '?' :: after) ≠ decode (before ++ '?' :: after) := by
  have hslash := decode_append_cons (c := '/') (by decide) (by decide) (by decide) (by decide)
  have hmark := decode_append_cons (c := '?') (by decide) (by decide) (by decide) (by decide)
  intro h
  have hmore := hmark [] after
  rw [List.nil_append] at hmore
  have hlength := congrArg List.length h
  rw [hslash, hmore, hmark] at hlength
  simp only [List.length_append, List.length_cons] at hlength
  omega

/-- A pair with a slash before a question mark is another pair without it. -/
theorem decodePair_ne_of_slash (before after : List Char) :
    decodePair (before ++ '/' :: '?' :: after) ≠ decodePair (before ++ '?' :: after) := by
  by_cases heq : '=' ∈ before
  · obtain ⟨key, value, rfl, hkey⟩ := List.eq_append_cons_of_mem heq
    have hcut : ∀ rest, cut '=' ((key ++ '=' :: value) ++ rest) = (key, some (value ++ rest)) := by
      intro rest
      rw [List.append_assoc, List.cons_append, cut_append hkey]
    intro h
    simp only [decodePair, hcut] at h
    exact decode_ne_of_slash value after (Prod.mk.inj h).2
  · have hcut := cut_append_of_not_mem heq
    have hslash : cut '=' ('/' :: '?' :: after) =
        ('/' :: '?' :: (cut '=' after).1, (cut '=' after).2) := rfl
    have hmark : cut '=' ('?' :: after) = ('?' :: (cut '=' after).1, (cut '=' after).2) := rfl
    intro h
    simp only [decodePair, hcut, hslash, hmark] at h
    exact decode_ne_of_slash before _ (Prod.mk.inj h).1

/-- A query without separators is one pair, unless it is empty. -/
theorem read_of_not_mem {cs : List Char} (h : '&' ∉ cs) (hne : cs ≠ []) :
    read cs = [decodePair cs] := by
  have hparts : cs.splitOn '&' = [cs] := by
    refine List.splitOnP_eq_singleton fun c hc => beq_eq_false_iff_ne.2 ?_
    rintro rfl
    exact h hc
  have hkeep : [cs].filter (fun part => !part.isEmpty) = [cs] := by
    refine List.filter_eq_self.2 fun part hpart => ?_
    rw [List.mem_singleton.1 hpart, List.isEmpty_eq_false_iff.2 hne]
    rfl
  rw [read, hparts, hkeep]
  rfl

/-- A query without a slash before a question mark is read as other pairs than with it. -/
theorem read_ne_of_slash (before after : List Char) :
    read (before ++ '/' :: '?' :: after) ≠ read (before ++ '?' :: after) := by
  induction hlength : before.length using Nat.strongRecOn generalizing before with
  | _ n ih =>
    by_cases hbefore : '&' ∈ before
    · obtain ⟨first, more, rfl, -⟩ := List.eq_append_cons_of_mem hbefore
      have hshorter : more.length < n := by
        rw [← hlength, List.length_append, List.length_cons]
        omega
      intro h
      rw [List.append_assoc, List.append_assoc, List.cons_append, List.cons_append,
        read_append_separator, read_append_separator] at h
      exact ih _ hshorter more rfl (List.append_cancel_left h)
    · -- the slash stands in the first pair
      have hpair : ∀ part, '&' ∉ part →
          read (before ++ '/' :: '?' :: part) ≠ read (before ++ '?' :: part) := by
        intro part hpart h
        have hslash : '&' ∉ before ++ '/' :: '?' :: part := by simp [hbefore, hpart]
        have hmark : '&' ∉ before ++ '?' :: part := by simp [hbefore, hpart]
        rw [read_of_not_mem hslash (by simp), read_of_not_mem hmark (by simp)] at h
        exact decodePair_ne_of_slash before part (List.cons.inj h).1
      by_cases hafter : '&' ∈ after
      · obtain ⟨part, more, rfl, hpart⟩ := List.eq_append_cons_of_mem hafter
        intro h
        have hslash : before ++ '/' :: '?' :: (part ++ '&' :: more) =
            (before ++ '/' :: '?' :: part) ++ '&' :: more := by simp
        have hmark : before ++ '?' :: (part ++ '&' :: more) =
            (before ++ '?' :: part) ++ '&' :: more := by simp
        rw [hslash, hmark, read_append_separator, read_append_separator] at h
        exact hpair part hpart (List.append_cancel_right h)
      · exact hpair after hafter

/-- Written pairs have no other characters than those of written pairs. -/
theorem isWritten_of_mem_write {c : Char} {ps : List Pair} (h : c ∈ write ps) :
    isWritten c = true := by
  have hencode : ∀ cs, c ∈ encode cs → isWritten c = true := by
    intro cs hc
    rw [isWritten, isEncoded_of_mem_encode hc]
    rfl
  have hpair : ∀ p, c ∈ encodePair p → isWritten c = true := by
    intro p hc
    rcases List.mem_append.1 hc with hc | hc
    · exact hencode _ hc
    · rcases List.mem_cons.1 hc with rfl | hc
      · rfl
      · exact hencode _ hc
  induction ps with
  | nil => cases h
  | cons p ps ih =>
    cases ps with
    | nil => exact hpair p h
    | cons q ps =>
      rcases List.mem_append.1 h with hc | hc
      · exact hpair p hc
      · rcases List.mem_cons.1 hc with rfl | hc
        · rfl
        · exact ih hc

/-- The characters of written pairs are ASCII. -/
theorem isWritten_lt {c : Char} (h : isWritten c = true) : c.toNat < 0x80 := by
  simp only [isWritten, isEncoded, isPlain, Bool.or_eq_true, decide_eq_true_eq] at h
  rcases h with (((((((h | rfl) | rfl) | rfl) | rfl) | rfl) | rfl) | rfl) | rfl
  · exact isAlphanum_lt h
  all_goals decide

/-- What holds of the ASCII characters of escapes holds of all of them. -/
theorem forall_isEncoded {P : Char → Prop}
    (h : ∀ n < 0x80, isEncoded (Char.ofNat n) = true → P (Char.ofNat n)) {c : Char}
    (hc : isEncoded c = true) : P c := by
  have hwritten : isWritten c = true := by
    rw [isWritten, hc]
    rfl
  exact forall_ascii (P := fun c => isEncoded c = true → P c) h (isWritten_lt hwritten) hc

end PayLink.Url.Form

namespace PayLink.Url

/-- Appended pairs leave the scheme and the path. -/
theorem appendPairs_eq (u : Url) (ps : List Form.Pair) :
    (u.appendPairs ps).scheme = u.scheme ∧ (u.appendPairs ps).path = u.path := by
  rw [appendPairs]
  split
  · exact ⟨rfl, rfl⟩
  · exact ⟨rfl, rfl⟩

/-- Appended pairs are read after the pairs that were there. -/
@[simp] theorem pairs_appendPairs (u : Url) (ps : List Form.Pair) :
    (u.appendPairs ps).pairs = u.pairs ++ ps := by
  by_cases hps : ps = []
  · rw [hps, List.append_nil]
    rfl
  · have happend : (u.appendPairs ps).query = some (extend u.query (Form.write ps)) := by
      rw [appendPairs, if_neg (by rwa [List.isEmpty_iff])]
    rw [pairs, pairs, happend, Option.getD_some]
    cases hq : u.query with
    | none => exact Form.read_write ps
    | some q =>
      by_cases hq0 : q = []
      · rw [extend, hq0]
        exact Form.read_write ps
      · rw [extend, if_neg (by rwa [List.isEmpty_iff]), Form.read_append_separator,
          Form.read_write, Option.getD_some]

end PayLink.Url
