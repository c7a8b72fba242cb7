import Mathlib.Algebra.Group.Nat.Defs
import PayLink.Proofs.Text.Cut
import PayLink.Url.Ipv6
/-!
# Written IPv6 addresses

An address has eight groups below 65536, and its text writes the same groups again: the run of zero
groups that is left out is the only place with two colons, and its length is what the other groups
leave of eight.
-/

namespace PayLink.Url.Ipv6

open PayLink.Text

/-- Eight groups of sixteen bits. -/
structure IsAddress (gs : List Nat) : Prop where
  /-- There are eight. -/
  length_eq : gs.length = 8
  /-- Each has sixteen bits. -/
  lt : ∀ g ∈ gs, g < 65536

/-- A hexadecimal digit is below sixteen. -/
theorem lt_of_digit? {c : Char} {d : Nat} (h : Hex.digit? c = some d) : d < 16 := by
  have hle : ∀ {a b : Char}, a ≤ b → a.toNat ≤ b.toNat := fun h => UInt32.le_iff_toNat_le.1 h
  unfold Hex.digit? at h
  split at h
  · rename_i hc
    have hhigh : c.toNat ≤ 57 := hle hc.2
    have hd := Option.some.inj h
    omega
  split at h
  · rename_i hc
    have hhigh : c.toNat ≤ 102 := hle hc.2
    have hd := Option.some.inj h
    omega
  split at h
  · rename_i hc
    have hhigh : c.toNat ≤ 70 := hle hc.2
    have hd := Option.some.inj h
    omega
  · cases h

/-- Digits behind a number give a number below the next one with as many zeros behind it. -/
theorem lt_of_foldlM {cs : List Char} {n g : Nat}
    (h : cs.foldlM (fun n c => (Hex.digit? c).map (n * 16 + ·)) n = some g) :
    g < (n + 1) * 16 ^ cs.length := by
  induction cs generalizing n with
  | nil =>
    have hg : n = g := Option.some.inj h
    rw [List.length_nil]
    omega
  | cons c cs ih =>
    rw [List.foldlM_cons] at h
    obtain ⟨m, hm, h⟩ := Option.bind_eq_some_iff.1 h
    obtain ⟨d, hd, hm⟩ := Option.map_eq_some_iff.1 hm
    have hdigit := lt_of_digit? hd
    have hstep : m + 1 ≤ (n + 1) * 16 := by omega
    calc g < (m + 1) * 16 ^ cs.length := ih h
      _ ≤ (n + 1) * 16 * 16 ^ cs.length := Nat.mul_le_mul_right _ hstep
      _ = (n + 1) * 16 ^ (cs.length + 1) := by rw [Nat.mul_assoc, ← Nat.pow_succ']

/-- A group has sixteen bits. -/
theorem lt_of_group? {cs : List Char} {g : Nat} (h : group? cs = some g) : g < 65536 := by
  unfold group? at h
  split at h
  · cases h
  · rename_i hno
    have hlength : cs.length ≤ 4 := Nat.le_of_not_lt fun hlt => hno (.inr hlt)
    have hpow : 16 ^ cs.length ≤ 16 ^ 4 := Nat.pow_le_pow_right (by decide) hlength
    have hbound := lt_of_foldlM h
    have hvalue : 16 ^ 4 = 65536 := rfl
    omega

/-- A byte in decimal is below 256. -/
theorem lt_of_byte? {cs : List Char} {n : Nat} (h : byte? cs = some n) : n < 256 := by
  unfold byte? at h
  split at h
  · cases h
  · dsimp only at h
    split at h
    · rename_i hlt
      rwa [← Option.some.inj h]
    · cases h

/-- Two groups that are written like an IPv4 address have sixteen bits each. -/
theorem lt_of_dotted? {cs : List Char} {gs : List Nat} (h : dotted? cs = some gs) :
    ∀ g ∈ gs, g < 65536 := by
  unfold dotted? at h
  split at h
  · rename_i a b c d hbytes
    have hall : ∀ n ∈ [a, b, c, d], n < 256 := by
      intro n hn
      have hmem : some n ∈ (cs.splitOn '.').map byte? := by
        rw [hbytes]
        exact List.mem_map.2 ⟨n, hn, rfl⟩
      obtain ⟨part, -, hpart⟩ := List.mem_map.1 hmem
      exact lt_of_byte? hpart
    simp only [List.mem_cons, List.not_mem_nil, or_false, forall_eq_or_imp, forall_eq] at hall
    intro g hg
    rw [← Option.some.inj h] at hg
    simp only [List.mem_cons, List.not_mem_nil, or_false] at hg
    omega
  · cases h

/-- The groups of pieces have sixteen bits each. -/
theorem lt_of_groups? {mayEndDotted : Bool} {ps : List (List Char)} {gs : List Nat}
    (h : groups? mayEndDotted ps = some gs) : ∀ g ∈ gs, g < 65536 := by
  induction ps generalizing gs with
  | nil =>
    intro g hg
    rw [← Option.some.inj h] at hg
    cases hg
  | cons p ps ih =>
    cases ps with
    | nil =>
      rw [groups?] at h
      split at h
      · exact lt_of_dotted? h
      · obtain ⟨g', hg', hgs⟩ := Option.map_eq_some_iff.1 h
        intro g hg
        rw [← hgs] at hg
        rw [List.mem_singleton.1 hg]
        exact lt_of_group? hg'
    | cons q ps =>
      rw [groups?] at h
      · obtain ⟨first, hfirst, h⟩ := Option.bind_eq_some_iff.1 h
        obtain ⟨rest, hrest, h⟩ := Option.bind_eq_some_iff.1 h
        intro g hg
        rw [← Option.some.inj h] at hg
        rcases List.mem_cons.1 hg with hg | hg
        · rw [hg]
          exact lt_of_group? hfirst
        · exact ih hrest g hg
      · exact List.cons_ne_nil q ps

/-- The groups of a side of two colons have sixteen bits each. -/
theorem lt_of_side? {mayEndDotted : Bool} {cs : List Char} {gs : List Nat}
    (h : side? mayEndDotted cs = some gs) : ∀ g ∈ gs, g < 65536 := by
  unfold side? at h
  split at h
  · intro g hg
    rw [← Option.some.inj h] at hg
    cases hg
  · exact lt_of_groups? h

/-- What a text between brackets writes is an address. -/
theorem isAddress_of_ofText? {cs : List Char} {gs : List Nat} (h : ofText? cs = some gs) :
    IsAddress gs := by
  unfold ofText? at h
  split at h
  · obtain ⟨gs', hgs', h⟩ := Option.bind_eq_some_iff.1 h
    split at h
    · rename_i hlength
      rw [← Option.some.inj h]
      exact ⟨hlength, lt_of_groups? hgs'⟩
    · cases h
  · obtain ⟨left, hleft, h⟩ := Option.bind_eq_some_iff.1 h
    obtain ⟨right, hright, h⟩ := Option.bind_eq_some_iff.1 h
    split at h
    · rename_i hlength
      rw [← Option.some.inj h]
      constructor
      · simp only [List.length_append, List.length_replicate]
        omega
      · intro g hg
        rcases List.mem_append.1 hg with hg | hg
        · rcases List.mem_append.1 hg with hg | hg
          · exact lt_of_side? hleft g hg
          · rw [(List.mem_replicate.1 hg).2]
            decide
        · exact lt_of_side? hright g hg
    · cases h

/-- The digits of a group are hexadecimal. -/
theorem isSome_of_mem_toDigits {g : Nat} {c : Char} (h : c ∈ Nat.toDigits 16 g) :
    (Hex.digit? c).isSome = true := by
  induction g using Nat.strongRecOn with
  | ind g ih =>
    have hdigit : ∀ d < 16, (Hex.digit? (Nat.digitChar d)).isSome = true := by decide
    rw [Nat.toDigits_eq_if (by decide)] at h
    split at h
    · rename_i hg
      rw [List.mem_singleton.1 h]
      exact hdigit g hg
    · rename_i hg
      rcases List.mem_append.1 h with h | h
      · exact ih (g / 16) (by omega) h
      · rw [List.mem_singleton.1 h]
        exact hdigit (g % 16) (by omega)

/-- No mark is a hexadecimal digit. -/
theorem not_mem_toDigits {c : Char} (h : Hex.digit? c = none) (g : Nat) :
    c ∉ Nat.toDigits 16 g := by
  intro hc
  have hsome := isSome_of_mem_toDigits hc
  rw [h] at hsome
  cases hsome

/-- The digits of a group are read back. -/
theorem foldlM_toDigits (g : Nat) :
    (Nat.toDigits 16 g).foldlM (fun n c => (Hex.digit? c).map (n * 16 + ·)) 0 = some g := by
  induction g using Nat.strongRecOn with
  | ind g ih =>
    rw [Nat.toDigits_eq_if (by decide)]
    split
    · rename_i hg
      have hdigit := Hex.digit?_lower g hg
      rw [Hex.lower] at hdigit
      simp [hdigit]
    · rename_i hg
      have hdigit := Hex.digit?_lower (g % 16) (by omega)
      rw [Hex.lower] at hdigit
      have hvalue : g / 16 * 16 + g % 16 = g := by omega
      rw [List.foldlM_append, ih (g / 16) (by omega)]
      simp [hdigit, hvalue]

/-- A group is read back. -/
theorem group?_toDigits {g : Nat} (h : g < 65536) : group? (Nat.toDigits 16 g) = some g := by
  have hlength : (Nat.toDigits 16 g).length ≤ 4 :=
    (Nat.length_toDigits_le_iff (by decide) (by decide)).2 h
  have hno : ¬((Nat.toDigits 16 g).isEmpty = true ∨ 4 < (Nat.toDigits 16 g).length) := by
    rintro (hempty | hlong)
    · exact Nat.toDigits_ne_nil (List.isEmpty_iff.1 hempty)
    · omega
  rw [group?, if_neg hno, foldlM_toDigits]

/-- Groups are read back, wherever they stand. -/
theorem groups?_map_toDigits {gs : List Nat} (h : ∀ g ∈ gs, g < 65536) (mayEndDotted : Bool) :
    groups? mayEndDotted (gs.map (Nat.toDigits 16)) = some gs := by
  have hpoint : ∀ g, (Nat.toDigits 16 g).contains '.' = false := by
    intro g
    refine eq_false_of_ne_true fun hc => ?_
    exact not_mem_toDigits (by decide) g (List.contains_iff_mem.1 hc)
  induction gs with
  | nil => rfl
  | cons g gs ih =>
    have hhead := group?_toDigits (h g List.mem_cons_self)
    have htail := ih fun m hm => h m (List.mem_cons_of_mem _ hm)
    cases gs with
    | nil =>
      rw [List.map_singleton, groups?, hpoint, Bool.and_false, hhead]
      rfl
    | cons next gs =>
      rw [List.map_cons, groups?, hhead, htail]
      · rfl
      · exact List.cons_ne_nil _ _

/-- Joined groups are cut into the groups again. -/
theorem splitOn_joined {gs : List Nat} (h : gs ≠ []) :
    (joined gs).splitOn ':' = gs.map (Nat.toDigits 16) := by
  rw [joined, List.splitOn_intercalate]
  · intro part hpart
    obtain ⟨g, -, hg⟩ := List.mem_map.1 hpart
    rw [← hg]
    exact not_mem_toDigits (by decide) g
  · exact fun hnil => h (List.map_eq_nil_iff.1 hnil)

/-- A side of two colons is read back. -/
theorem side?_joined {gs : List Nat} (h : ∀ g ∈ gs, g < 65536) (mayEndDotted : Bool) :
    side? mayEndDotted (joined gs) = some gs := by
  cases gs with
  | nil => rfl
  | cons g gs =>
    have hne : (joined (g :: gs)).isEmpty = false := by
      refine eq_false_of_ne_true fun hempty => ?_
      obtain ⟨c, hc⟩ := List.exists_mem_of_ne_nil _ (Nat.toDigits_ne_nil (b := 16) (n := g))
      have hmem : c ∈ joined (g :: gs) :=
        mem_intercalate (List.mem_map_of_mem List.mem_cons_self) hc
      rw [List.isEmpty_iff.1 hempty] at hmem
      cases hmem
    rw [side?, hne, splitOn_joined (List.cons_ne_nil g gs), groups?_map_toDigits h]
    rfl

/-- Characters without a colon stand before the first two colons as they are. -/
theorem gap?_append {cs : List Char} (h : ':' ∉ cs) (rest : List Char) :
    gap? (cs ++ rest) = (gap? rest).map fun sides => (cs ++ sides.1, sides.2) := by
  induction cs with
  | nil => simp
  | cons c cs ih =>
    have hc : c ≠ ':' := fun he => h (he ▸ List.mem_cons_self)
    have hcs := ih fun hm => h (List.mem_cons_of_mem _ hm)
    rw [List.cons_append, gap?, hcs, Option.map_map]
    · rfl
    · intro more hcolon
      exact absurd hcolon hc

/-- A colon in front of another character stands before the first two colons. -/
theorem gap?_colon {c : Char} (hc : c ≠ ':') (rest : List Char) :
    gap? (':' :: c :: rest) =
      (gap? (c :: rest)).map fun sides => (':' :: sides.1, sides.2) := by
  rw [gap?]
  intro more hcolon hmore
  exact hc (List.cons.inj hmore).1

/-- Joined groups begin with a digit. -/
theorem exists_joined_append_eq_cons (g : Nat) (gs : List Nat) (rest : List Char) :
    ∃ c more, joined (g :: gs) ++ rest = c :: more ∧ c ≠ ':' := by
  obtain ⟨c, ds, hdigits⟩ := List.exists_cons_of_ne_nil (Nat.toDigits_ne_nil (b := 16) (n := g))
  have hc : c ≠ ':' := by
    intro hcolon
    have hmem : c ∈ Nat.toDigits 16 g := hdigits ▸ List.mem_cons_self
    exact not_mem_toDigits (by decide) g (hcolon ▸ hmem)
  cases gs with
  | nil =>
    refine ⟨c, ds ++ rest, ?_, hc⟩
    rw [joined, List.map_singleton, List.intercalate_singleton, hdigits]
    rfl
  | cons next gs =>
    refine ⟨c, ds ++ ':' :: joined (next :: gs) ++ rest, ?_, hc⟩
    rw [joined, List.map_cons, List.map_cons, List.intercalate_cons_cons, hdigits, joined,
      List.map_cons]
    simp

/-- Joined groups hold no two colons that follow each other, so what stands behind them decides
where the first ones are. -/
theorem gap?_joined_append {gs : List Nat} (hne : gs ≠ []) (rest : List Char) :
    gap? (joined gs ++ rest) = (gap? rest).map fun sides => (joined gs ++ sides.1, sides.2) := by
  induction gs with
  | nil => exact absurd rfl hne
  | cons g gs ih =>
    have hcolon : ':' ∉ Nat.toDigits 16 g := not_mem_toDigits (by decide) g
    cases gs with
    | nil =>
      have hone : joined [g] = Nat.toDigits 16 g := List.intercalate_singleton
      rw [hone, gap?_append hcolon]
    | cons next gs =>
      have hjoin : joined (g :: next :: gs) = Nat.toDigits 16 g ++ ':' :: joined (next :: gs) := by
        rw [joined, List.map_cons, List.map_cons, List.intercalate_cons_cons, List.append_assoc]
        rfl
      obtain ⟨c, more, hmore, hc⟩ := exists_joined_append_eq_cons next gs rest
      have hrest := ih (List.cons_ne_nil next gs)
      rw [hmore] at hrest
      rw [hjoin, List.append_assoc, List.cons_append, gap?_append hcolon, hmore, gap?_colon hc,
        hrest, Option.map_map, Option.map_map]
      congr 1
      funext sides
      simp

/-- Where a longest run of zero groups is found, there are as many. -/
theorem longestZeros_spec (index : Nat) (gs : List Nat) :
    ∃ place, (longestZeros index gs).1 = index + place ∧
      place + (longestZeros index gs).2 ≤ gs.length ∧
      (gs.drop place).take (longestZeros index gs).2 =
        List.replicate (longestZeros index gs).2 0 := by
  induction gs generalizing index with
  | nil => exact ⟨0, rfl, Nat.le_refl _, rfl⟩
  | cons g gs ih =>
    by_cases hlonger : (longestZeros (index + 1) gs).2 ≤ zeros (g :: gs)
    · have hhere : longestZeros index (g :: gs) = (index, zeros (g :: gs)) := if_pos hlonger
      have hprefix : (g :: gs).take (zeros (g :: gs)) = (g :: gs).takeWhile (· = 0) :=
        (List.prefix_iff_eq_take.1 (List.takeWhile_prefix _)).symm
      have hzero : ∀ m ∈ (g :: gs).takeWhile (· = 0), m = 0 := fun m hm =>
        of_decide_eq_true (List.all_eq_true.1 List.all_takeWhile m hm)
      rw [hhere]
      refine ⟨0, rfl, ?_, ?_⟩
      · rw [Nat.zero_add]
        exact (List.takeWhile_prefix _).length_le
      · rw [List.drop_zero, hprefix]
        exact List.eq_replicate_of_mem hzero
    · have hlater : longestZeros index (g :: gs) = longestZeros (index + 1) gs := if_neg hlonger
      obtain ⟨place, hplace, hlength, hzeros⟩ := ih (index + 1)
      rw [hlater]
      refine ⟨place + 1, ?_, ?_, ?_⟩
      · rw [hplace]
        omega
      · rw [List.length_cons]
        omega
      · rw [List.drop_succ_cons, hzeros]

/-- Groups are those before, within and behind a run of zeros. -/
theorem take_append_replicate_append_drop {gs : List Nat} {place count : Nat}
    (hzeros : (gs.drop place).take count = List.replicate count 0) :
    gs.take place ++ List.replicate count 0 ++ gs.drop (place + count) = gs := by
  have hrun : List.replicate count 0 ++ gs.drop (place + count) = gs.drop place := by
    rw [← hzeros, ← List.drop_drop, List.take_append_drop]
  rw [List.append_assoc, hrun, List.take_append_drop]

/-- The text of an address writes the address. -/
theorem ofText?_text {gs : List Nat} (h : IsAddress gs) : ofText? (text gs) = some gs := by
  obtain ⟨place, hplace, hlength, hzeros⟩ := longestZeros_spec 0 gs
  rw [Nat.zero_add] at hplace
  have hne : gs ≠ [] := by
    intro hnil
    have hlen := h.length_eq
    rw [hnil] at hlen
    cases hlen
  by_cases hshort : (longestZeros 0 gs).2 < 2
  · have htext : text gs = joined gs := if_pos hshort
    have hgap : gap? (joined gs) = none := by
      have hempty := gap?_joined_append hne []
      rw [List.append_nil] at hempty
      rw [hempty]
      rfl
    rw [htext, ofText?, hgap]
    dsimp only
    rw [splitOn_joined hne, groups?_map_toDigits h.lt]
    exact if_pos h.length_eq
  · have htext : text gs = joined (gs.take place) ++
        ':' :: ':' :: joined (gs.drop (place + (longestZeros 0 gs).2)) := by
      rw [← hplace]
      exact if_neg hshort
    generalize (longestZeros 0 gs).2 = count at hlength hzeros hshort htext
    have hgap : gap? (text gs) =
        some (joined (gs.take place), joined (gs.drop (place + count))) := by
      have hfirst : ∀ rest, gap? (':' :: ':' :: rest) = some ([], rest) := fun rest => rfl
      rw [htext]
      cases hbefore : gs.take place with
      | nil => exact hfirst _
      | cons g before =>
        rw [gap?_joined_append (List.cons_ne_nil g before), hfirst, Option.map_some,
          List.append_nil]
    have hleft : side? false (joined (gs.take place)) = some (gs.take place) :=
      side?_joined (fun g hg => h.lt g (List.mem_of_mem_take hg)) false
    have hright : side? true (joined (gs.drop (place + count))) = some (gs.drop (place + count)) :=
      side?_joined (fun g hg => h.lt g (List.mem_of_mem_drop hg)) true
    rw [h.length_eq] at hlength
    have hroom : (gs.take place).length + (gs.drop (place + count)).length ≤ 7 := by
      rw [List.length_take, List.length_drop, h.length_eq]
      omega
    have hcount : 8 - (gs.take place).length - (gs.drop (place + count)).length = count := by
      rw [List.length_take, List.length_drop, h.length_eq]
      omega
    rw [ofText?, hgap]
    dsimp only
    rw [hleft, hright]
    refine (if_pos hroom).trans ?_
    rw [hcount, take_append_replicate_append_drop hzeros]

/-- The characters of an address are colons and hexadecimal digits. -/
theorem mem_text {gs : List Nat} {c : Char} (h : c ∈ text gs) :
    c = ':' ∨ (Hex.digit? c).isSome = true := by
  have hjoined : ∀ ms, c ∈ joined ms → c = ':' ∨ (Hex.digit? c).isSome = true := by
    intro ms hc
    rcases mem_or_mem_of_mem_intercalate hc with hcolon | ⟨part, hpart, hc⟩
    · exact .inl hcolon
    · obtain ⟨g, -, hg⟩ := List.mem_map.1 hpart
      rw [← hg] at hc
      exact .inr (isSome_of_mem_toDigits hc)
  rw [text] at h
  dsimp only at h
  split at h
  · exact hjoined _ h
  · rcases List.mem_append.1 h with hc | hc
    · exact hjoined _ hc
    · rcases List.mem_cons.1 hc with hc | hc
      · exact .inl hc
      · rcases List.mem_cons.1 hc with hc | hc
        · exact .inl hc
        · exact hjoined _ hc

end PayLink.Url.Ipv6
