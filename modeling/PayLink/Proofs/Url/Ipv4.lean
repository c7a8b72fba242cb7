import Mathlib.Algebra.Group.Nat.Defs
import PayLink.Proofs.Outcome
import PayLink.Proofs.Text.Cut
import PayLink.Url.Ipv4
/-!
# Written IPv4 addresses

An address that a host writes is below 2^32, and its text of four decimal bytes writes the same
address again.
-/

namespace PayLink.Url.Ipv4

open PayLink.Text

/-- Numbers below 256 in front of a number and its weight give a number below their weight. -/
theorem foldr_lt {ns : List Nat} (hns : ∀ n ∈ ns, n < 256) {last weight : Nat}
    (hlast : last < weight) :
    let acc := ns.foldr (fun n (acc : Nat × Nat) => (acc.1 + n * acc.2, acc.2 * 256)) (last, weight)
    acc.1 < acc.2 ∧ acc.2 = weight * 256 ^ ns.length := by
  induction ns with
  | nil =>
    constructor
    · exact hlast
    · simp
  | cons n ns ih =>
    obtain ⟨hlt, hweight⟩ := ih fun m hm => hns m (List.mem_cons_of_mem _ hm)
    have hn : n ≤ 255 := Nat.le_of_lt_succ (hns n List.mem_cons_self)
    rw [List.foldr_cons]
    generalize ns.foldr (fun n (acc : Nat × Nat) => (acc.1 + n * acc.2, acc.2 * 256))
      (last, weight) = acc at hlt hweight
    constructor
    · have hmul : n * acc.2 ≤ 255 * acc.2 := Nat.mul_le_mul_right _ hn
      dsimp only
      omega
    · dsimp only
      rw [hweight, List.length_cons, Nat.pow_succ, Nat.mul_assoc]

/-- The address of numbers is below 2^32. -/
theorem lt_of_ofNumbers? {ns : List Nat} {n : Nat} (h : ofNumbers? ns = some n) :
    n < 2 ^ 32 := by
  unfold ofNumbers? at h
  split at h
  · cases h
  · rename_i last hlast
    dsimp only at h
    split at h
    · cases h
    · rename_i hno
      obtain ⟨hlength, hno⟩ := not_or.1 hno
      obtain ⟨hweight, hbytes⟩ := not_or.1 hno
      have hall : ∀ m ∈ ns.dropLast, m < 256 := by
        intro m hm
        have hle : ¬255 < m := fun hlt =>
          hbytes (List.any_eq_true.2 ⟨m, hm, decide_eq_true hlt⟩)
        omega
      have hbound := foldr_lt hall (Nat.lt_of_not_le hweight)
      obtain ⟨hlt, htotal⟩ := hbound
      have hpow : Nat.pow 256 (4 - ns.dropLast.length) * 256 ^ ns.dropLast.length = 2 ^ 32 := by
        calc 256 ^ (4 - ns.dropLast.length) * 256 ^ ns.dropLast.length
            = 256 ^ (4 - ns.dropLast.length + ns.dropLast.length) := (Nat.pow_add _ _ _).symm
          _ = 256 ^ 4 := by rw [Nat.sub_add_cancel (by omega)]
          _ = 2 ^ 32 := rfl
      rw [hpow] at htotal
      rw [htotal, Option.some.inj h] at hlt
      exact hlt

/-- The address that a host writes is below 2^32. -/
theorem lt_of_ofHost? {host : List Char} {n : Nat} (h : ofHost? host = some n) : n < 2 ^ 32 := by
  obtain ⟨ns, -, hns⟩ := Option.bind_eq_some_iff.1 h
  exact lt_of_ofNumbers? hns

/-- The bytes of an address, from the highest. -/
def bytes (n : Nat) : List Nat :=
  [n / 2 ^ 24, n / 2 ^ 16 % 256, n / 2 ^ 8 % 256, n % 256]

/-- The text of an address is that of its bytes with points between them. -/
theorem text_eq_intercalate (n : Nat) :
    text n = ['.'].intercalate ((bytes n).map (Nat.toDigits 10)) := by
  simp [text, bytes, List.intercalate]

/-- A point is no decimal digit. -/
theorem point_not_mem_toDigits (n : Nat) : '.' ∉ Nat.toDigits 10 n := by
  intro h
  have hdigit := Nat.isDigit_of_mem_toDigits (by decide) (by decide) h
  exact absurd hdigit (by decide)

/-- The characters of an address are points and digits. -/
theorem mem_text {n : Nat} {c : Char} (h : c ∈ text n) : c = '.' ∨ c.isDigit = true := by
  rw [text_eq_intercalate] at h
  rcases mem_or_mem_of_mem_intercalate h with hpoint | ⟨part, hpart, hc⟩
  · exact .inl hpoint
  · obtain ⟨byte, -, hbyte⟩ := List.mem_map.1 hpart
    rw [← hbyte] at hc
    exact .inr (Nat.isDigit_of_mem_toDigits (by decide) (by decide) hc)

/-- An address has a text. -/
theorem text_ne_nil (n : Nat) : text n ≠ [] :=
  List.append_ne_nil_of_right_ne_nil _ (List.cons_ne_nil _ _)

/-- The parts of an address are its bytes in decimal. -/
theorem parts_text (n : Nat) : parts (text n) = (bytes n).map (Nat.toDigits 10) := by
  have hsplit : (text n).splitOn '.' = (bytes n).map (Nat.toDigits 10) := by
    rw [text_eq_intercalate, List.splitOn_intercalate]
    · intro part hpart
      obtain ⟨byte, -, hbyte⟩ := List.mem_map.1 hpart
      rw [← hbyte]
      exact point_not_mem_toDigits byte
    · exact List.cons_ne_nil _ _
  have hlast : ((bytes n).map (Nat.toDigits 10)).getLast? = some (Nat.toDigits 10 (n % 256)) := rfl
  have hne : ¬(some (Nat.toDigits 10 (n % 256)) = some []) := fun he =>
    Nat.toDigits_ne_nil (Option.some.inj he)
  rw [parts, hsplit, hlast, if_neg hne]

/-- A byte in decimal is read back. -/
theorem part?_toDigits {n : Nat} (h : n < 256) :
    (part? (Nat.toDigits 10 n)).bind small? = some n := by
  have hall : ∀ m < 256, (part? (Nat.toDigits 10 m)).bind small? = some m := by decide +kernel
  exact hall n h

/-- Four bytes are an address. -/
theorem ofNumbers?_four {a b c d : Nat} (ha : a < 256) (hb : b < 256) (hc : c < 256)
    (hd : d < 256) :
    ofNumbers? [a, b, c, d] = some (d + c * 256 + b * (256 * 256) + a * (256 * 256 * 256)) := by
  have hno : ¬(3 < [a, b, c].length ∨ Nat.pow 256 (4 - [a, b, c].length) ≤ d ∨
      [a, b, c].any (255 < ·) = true) := by
    have hweight : Nat.pow 256 (4 - [a, b, c].length) = 256 := rfl
    have hlength : [a, b, c].length = 3 := rfl
    rw [hweight, hlength]
    simp only [List.any_cons, List.any_nil, Bool.or_false, Bool.or_eq_true, decide_eq_true_eq]
    omega
  exact if_neg hno

/-- The bytes of an address make the address. -/
theorem ofNumbers?_bytes {n : Nat} (h : n < 2 ^ 32) : ofNumbers? (bytes n) = some n := by
  have hvalue : n % 256 + n / 2 ^ 8 % 256 * 256 + n / 2 ^ 16 % 256 * (256 * 256) +
      n / 2 ^ 24 * (256 * 256 * 256) = n := by
    omega
  have hfour := ofNumbers?_four (show n / 2 ^ 24 < 256 by omega)
    (show n / 2 ^ 16 % 256 < 256 by omega) (show n / 2 ^ 8 % 256 < 256 by omega)
    (show n % 256 < 256 by omega)
  rwa [hvalue] at hfour

/-- The text of an address writes the address. -/
theorem ofHost?_text {n : Nat} (h : n < 2 ^ 32) : ofHost? (text n) = some n := by
  have hbytes : ∀ byte ∈ bytes n, byte < 256 := by
    intro byte hbyte
    simp only [bytes, List.mem_cons, List.not_mem_nil, or_false] at hbyte
    omega
  rw [ofHost?, parts_text, mapM_map_eq_some fun n hn => part?_toDigits (hbytes n hn)]
  exact ofNumbers?_bytes h

end PayLink.Url.Ipv4
