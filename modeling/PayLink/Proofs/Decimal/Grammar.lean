import Mathlib.Algebra.Group.Nat.Defs
import Mathlib.Data.List.Basic
import PayLink.Decimal.Exact
/-!
# The grammar of decimal text

A plain decimal number is a text of digits with at most one point and at least one digit. Exactly
the plain decimal numbers that are short enough are read, each as its digits and the length of its
fraction.
-/

namespace PayLink.Decimal

/-- What stands in front of the first point of a text. -/
def wholeOf (cs : List Char) : List Char :=
  cs.takeWhile (· ≠ '.')

/-- What stands behind the first point of a text. -/
def fractionOf (cs : List Char) : List Char :=
  (cs.dropWhile (· ≠ '.')).drop 1

/-- A text without its points. -/
def digitsOf (cs : List Char) : List Char :=
  cs.filter (· ≠ '.')

/-- A plain decimal number: digits, of which there is at least one, and at most one point. -/
structure IsPlain (cs : List Char) : Prop where
  /-- There are only digits and points. -/
  digit_or_point : ∀ c ∈ cs, c.isDigit = true ∨ c = '.'
  /-- There is at most one point. -/
  count_point : cs.count '.' ≤ 1
  /-- There is a digit. -/
  exists_digit : ∃ c ∈ cs, c.isDigit = true

/-- A plain decimal number that is short enough to be read: with the zeros at its end it has at most
28 fractional digits, and its digits are a number below 2^96. -/
structure IsReadable (cs : List Char) : Prop extends IsPlain cs where
  /-- The fraction is not too long. -/
  fraction_length : (fractionOf cs).length ≤ 28
  /-- The digits are not too many. -/
  digits_lt : Nat.ofDigitChars 10 (digitsOf cs) 0 < 2 ^ 96

instance (cs : List Char) : Decidable (IsReadable cs) :=
  decidable_of_iff
    ((cs.all (fun c => c.isDigit || c == '.') = true ∧ cs.count '.' ≤ 1 ∧
        cs.any Char.isDigit = true) ∧
      (fractionOf cs).length ≤ 28 ∧ Nat.ofDigitChars 10 (digitsOf cs) 0 < 2 ^ 96) <| by
    simp only [List.all_eq_true, List.any_eq_true, Bool.or_eq_true, beq_iff_eq]
    constructor
    · rintro ⟨⟨hchars, hcount, hdigit⟩, hfraction, hdigits⟩
      exact ⟨⟨hchars, hcount, hdigit⟩, hfraction, hdigits⟩
    · rintro ⟨⟨hchars, hcount, hdigit⟩, hfraction, hdigits⟩
      exact ⟨⟨hchars, hcount, hdigit⟩, hfraction, hdigits⟩

/-- The decimal that a text writes, with all the fractional digits that it has. -/
def writtenExact (cs : List Char) : Exact :=
  ⟨Nat.ofDigitChars 10 (digitsOf cs) 0, (fractionOf cs).length⟩

/-- The point is no digit. -/
theorem point_not_mem {cs : List Char} (h : ∀ c ∈ cs, c.isDigit = true) : '.' ∉ cs := by
  intro hm
  exact absurd (h _ hm) (by decide)

/-- No point stands in front of the first one. -/
theorem point_not_mem_wholeOf (cs : List Char) : '.' ∉ wholeOf cs := by
  intro hm
  exact absurd (List.all_eq_true.1 List.all_takeWhile '.' hm) (by decide)

/-- The bound of the digits of a decimal. -/
theorem mantissaBound_eq : mantissaBound = 2 ^ 96 :=
  Nat.pow_eq

/-- The parts of a text are what stands in front of its first point and behind it. -/
theorem parts_eq (cs : List Char) : Exact.parts cs = (wholeOf cs, fractionOf cs) := by
  refine Prod.ext rfl ?_
  change cs.drop ((cs.takeWhile (· ≠ '.')).length + 1) = (cs.dropWhile (· ≠ '.')).drop 1
  induction cs with
  | nil => rfl
  | cons c cs ih =>
    by_cases hc : c = '.'
    · subst hc
      rfl
    · have hp : decide (c ≠ '.') = true := decide_eq_true hc
      rw [List.takeWhile_cons, List.dropWhile_cons, if_pos hp, if_pos hp, List.length_cons,
        List.drop_succ_cons, ih]

/-- A text is its whole part and, if there is a point, the point and the fraction. -/
theorem eq_whole_append (cs : List Char) :
    cs = wholeOf cs ∧ fractionOf cs = [] ∨
      cs = wholeOf cs ++ '.' :: fractionOf cs := by
  have hsplit : wholeOf cs ++ cs.dropWhile (· ≠ '.') = cs := List.takeWhile_append_dropWhile
  cases hd : cs.dropWhile (· ≠ '.') with
  | nil =>
    rw [hd, List.append_nil] at hsplit
    exact .inl ⟨hsplit.symm, by rw [fractionOf, hd]; rfl⟩
  | cons c rest =>
    have hhead := List.head?_dropWhile_not (· ≠ '.') cs
    rw [hd] at hhead
    have hc : c = '.' := by simpa using hhead
    rw [hd, hc] at hsplit
    exact .inr (by rw [fractionOf, hd]; exact hsplit.symm)

/-- Without its points, a text of digits and at most one point is its whole part and its
fraction. -/
theorem digitsOf_eq {cs : List Char} (h : '.' ∉ fractionOf cs) :
    digitsOf cs = wholeOf cs ++ fractionOf cs := by
  have hwhole : (wholeOf cs).filter (· ≠ '.') = wholeOf cs :=
    List.filter_eq_self.2 fun c hc =>
      decide_eq_true fun he => point_not_mem_wholeOf cs (he ▸ hc)
  have hfraction : (fractionOf cs).filter (· ≠ '.') = fractionOf cs :=
    List.filter_eq_self.2 fun c hc => decide_eq_true fun he => h (he ▸ hc)
  rcases eq_whole_append cs with ⟨hcs, hnone⟩ | hcs
  · rw [digitsOf, hnone, List.append_nil]
    conv => lhs; rw [hcs]
    exact hwhole
  · rw [digitsOf]
    conv => lhs; rw [hcs]
    rw [List.filter_append, hwhole, List.filter_cons_of_neg (by decide), hfraction]

/-- A text is a plain decimal number exactly if the parts around its first point are digits and one
of them has some. -/
theorem isPlain_iff {cs : List Char} :
    IsPlain cs ↔
      (∀ c ∈ wholeOf cs ++ fractionOf cs, c.isDigit = true) ∧ digitsOf cs ≠ [] := by
  have hwhole := point_not_mem_wholeOf cs
  constructor
  · rintro ⟨hchars, hcount, c, hc, hdigit⟩
    have hpoint : c ≠ '.' := fun he => absurd (he ▸ hdigit) (by decide)
    refine ⟨?_, List.ne_nil_of_mem (List.mem_filter.2 ⟨hc, decide_eq_true hpoint⟩)⟩
    -- A point behind the first one would be a second one.
    have hfraction : '.' ∉ fractionOf cs := by
      rcases eq_whole_append cs with ⟨-, hnil⟩ | hcs
      · rw [hnil]
        exact List.not_mem_nil
      · rw [hcs, List.count_append, List.count_cons_self] at hcount
        exact List.count_eq_zero.1 (by omega)
    have hmem : ∀ d ∈ wholeOf cs ++ fractionOf cs, d ∈ cs := by
      intro d hd
      rcases List.mem_append.1 hd with hd | hd
      · exact (List.takeWhile_sublist _).subset hd
      · exact (List.dropWhile_sublist _).subset (List.mem_of_mem_drop hd)
    intro d hd
    rcases hchars d (hmem d hd) with h | h
    · exact h
    · rw [h] at hd
      exact absurd hd (List.not_mem_append hwhole hfraction)
  · rintro ⟨hdigits, hne⟩
    have hfraction : '.' ∉ fractionOf cs :=
      point_not_mem fun c hc => hdigits c (List.mem_append_right _ hc)
    have hchars : ∀ c ∈ cs, c.isDigit = true ∨ c = '.' := by
      intro c hc
      by_cases hpoint : c = '.'
      · exact .inr hpoint
      · have hmem : c ∈ digitsOf cs := List.mem_filter.2 ⟨hc, decide_eq_true hpoint⟩
        rw [digitsOf_eq hfraction] at hmem
        exact .inl (hdigits c hmem)
    refine ⟨hchars, ?_, ?_⟩
    · rcases eq_whole_append cs with ⟨hcs, -⟩ | hcs
      · have hcount : cs.count '.' = 0 := by
          rw [hcs, List.count_eq_zero.2 hwhole]
        omega
      · have hcount : cs.count '.' = 0 + (0 + 1) := by
          rw [hcs, List.count_append, List.count_cons_self, List.count_eq_zero.2 hwhole,
            List.count_eq_zero.2 hfraction]
        omega
    · obtain ⟨c, hc⟩ := List.exists_mem_of_ne_nil _ hne
      obtain ⟨hmem, hpoint⟩ := List.mem_filter.1 hc
      exact ⟨c, hmem, (hchars c hmem).resolve_right (of_decide_eq_true hpoint)⟩

/-- A text is read exactly if it is a plain decimal number that is short enough, and then as the
decimal that it writes. -/
theorem ofText?_eq (cs : List Char) :
    Exact.ofText? cs = if IsReadable cs then some (writtenExact cs) else none := by
  by_cases hdigits : ∀ c ∈ wholeOf cs ++ fractionOf cs, c.isDigit = true
  · have hparts : digitsOf cs = wholeOf cs ++ fractionOf cs :=
      digitsOf_eq (point_not_mem fun c hc => hdigits c (List.mem_append_right _ hc))
    have hall : (digitsOf cs).all Char.isDigit = true := by
      rw [hparts]
      exact List.all_eq_true.2 hdigits
    simp only [Exact.ofText?, parts_eq, ← hparts]
    refine if_congr ?_ rfl rfl
    constructor
    · rintro ⟨-, hne, hfraction, hlt⟩
      exact ⟨isPlain_iff.2 ⟨hdigits, hne⟩, hfraction, mantissaBound_eq ▸ hlt⟩
    · intro h
      have hne := (isPlain_iff.1 h.toIsPlain).2
      exact ⟨hall, hne, h.fraction_length, mantissaBound_eq ▸ h.digits_lt⟩
  · have hnot : ¬IsReadable cs := fun h => hdigits (isPlain_iff.1 h.toIsPlain).1
    simp only [Exact.ofText?, parts_eq]
    rw [if_neg hnot]
    exact if_neg fun h => hdigits (List.all_eq_true.1 h.1)

/-- What is read from a text is the decimal that it writes. -/
theorem ofText?_eq_some_iff {cs : List Char} {d : Exact} :
    Exact.ofText? cs = some d ↔ IsReadable cs ∧ d = writtenExact cs := by
  rw [ofText?_eq]
  split
  · rename_i h
    rw [Option.some.injEq, and_iff_right h]
    exact eq_comm
  · rename_i h
    exact iff_of_false (by simp only [reduceCtorEq, not_false_eq_true]) fun hd => h hd.1

end PayLink.Decimal
