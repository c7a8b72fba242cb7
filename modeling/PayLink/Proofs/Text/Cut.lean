import Mathlib.Data.List.Basic
import PayLink.Text.Cut
/-!
# Cutting text at its end and at every separator

The longest end of a text whose characters all pass a test, and the parts of a text between
separators. Nothing is lost either way: a text is its end and what stands before it, and it is its
parts with the separator between them.
-/

namespace PayLink.Text

/-- A separator is looked for behind what holds none. -/
theorem cut_append_of_not_mem {sep : Char} {before : List Char} (h : sep ∉ before)
    (rest : List Char) :
    cut sep (before ++ rest) = (before ++ (cut sep rest).1, (cut sep rest).2) := by
  induction before with
  | nil => rfl
  | cons c cs ih =>
    have hc : c ≠ sep := fun he => h (he ▸ List.mem_cons_self)
    have hcs : sep ∉ cs := fun hm => h (List.mem_cons_of_mem _ hm)
    rw [List.cons_append, cut, if_neg hc, ih hcs]
    rfl

/-- A text is its two sides and the separator between them. -/
theorem eq_of_cut {sep : Char} {cs before after : List Char}
    (h : cut sep cs = (before, some after)) : cs = before ++ sep :: after := by
  induction cs generalizing before with
  | nil => cases h
  | cons c cs ih =>
    unfold cut at h
    split at h
    · rename_i hc
      cases h
      rw [hc]
      rfl
    · obtain ⟨rfl, hafter⟩ := Prod.mk.inj h
      rw [List.cons_append, ← ih (Prod.ext rfl hafter)]

/-- A text in which nothing is cut off is its own first side. -/
theorem eq_of_cut_none {sep : Char} {cs before : List Char} (h : cut sep cs = (before, none)) :
    cs = before := by
  induction cs generalizing before with
  | nil => exact (Prod.mk.inj h).1
  | cons c cs ih =>
    unfold cut at h
    split at h
    · cases h
    · obtain ⟨rfl, hafter⟩ := Prod.mk.inj h
      exact congrArg (c :: ·) (ih (Prod.ext rfl hafter))

/-- The longest end of a text whose characters pass a test. -/
def endWhile (p : Char → Bool) (cs : List Char) : List Char :=
  (cs.reverse.takeWhile p).reverse

/-- What stands before the longest end of a text whose characters pass a test. -/
def beforeEnd (p : Char → Bool) (cs : List Char) : List Char :=
  (cs.reverse.dropWhile p).reverse

section End

variable {p : Char → Bool} {cs : List Char}

/-- A text is its end and what stands before it. -/
theorem beforeEnd_append_endWhile (p : Char → Bool) (cs : List Char) :
    beforeEnd p cs ++ endWhile p cs = cs := by
  have hjoin := List.takeWhile_append_dropWhile (p := p) (l := cs.reverse)
  rw [beforeEnd, endWhile, ← List.reverse_append, hjoin, List.reverse_reverse]

/-- What stands before the end is as long as the end leaves room for. -/
theorem take_length_sub_endWhile (p : Char → Bool) (cs : List Char) :
    cs.take (cs.length - (endWhile p cs).length) = beforeEnd p cs := by
  have hjoin := beforeEnd_append_endWhile p cs
  have hlength : cs.length = (beforeEnd p cs).length + (endWhile p cs).length := by
    rw [← List.length_append, hjoin]
  have htake : (beforeEnd p cs ++ endWhile p cs).take (beforeEnd p cs).length = beforeEnd p cs :=
    List.take_left
  rw [hjoin] at htake
  rw [hlength, Nat.add_sub_cancel, htake]

/-- What stands before the end does not end with a character that passes. -/
theorem getLast?_beforeEnd {c : Char} (h : (beforeEnd p cs).getLast? = some c) : p c = false := by
  have hhead := List.head?_dropWhile_not p cs.reverse
  rw [beforeEnd, List.getLast?_reverse] at h
  rw [h] at hhead
  simpa using hhead

/-- A text of characters that pass, behind one that does not, is the end. -/
theorem endWhile_append {before ending : List Char} (hends : ∀ c ∈ ending, p c = true)
    (hbefore : ∀ c, before.getLast? = some c → p c = false) :
    endWhile p (before ++ ending) = ending := by
  have hall : ending.reverse.all p = true :=
    List.all_eq_true.2 fun c hc => hends c (List.mem_reverse.1 hc)
  have hstop : before.reverse.takeWhile p = [] := by
    cases hb : before.reverse with
    | nil => rfl
    | cons c more =>
      have hlast : before.getLast? = some c := by
        rw [← List.head?_reverse, hb]
        rfl
      rw [List.takeWhile_cons, hbefore c hlast]
      rfl
  rw [endWhile, List.reverse_append,
    List.takeWhile_append_of_pos fun c hc => hends c (List.mem_reverse.1 hc), hstop,
    List.append_nil, List.reverse_reverse]

end End


/-- A character of joined parts is a separator or stands in a part. -/
theorem mem_or_mem_of_mem_intercalate {sep c : Char} {parts : List (List Char)}
    (h : c ∈ [sep].intercalate parts) : c = sep ∨ ∃ part ∈ parts, c ∈ part := by
  induction parts with
  | nil => cases h
  | cons part parts ih =>
    cases parts with
    | nil =>
      rw [List.intercalate_singleton] at h
      exact .inr ⟨part, List.mem_cons_self, h⟩
    | cons next parts =>
      rw [List.intercalate_cons_cons] at h
      rcases List.mem_append.1 h with h | h
      · rcases List.mem_append.1 h with h | h
        · exact .inr ⟨part, List.mem_cons_self, h⟩
        · exact .inl (List.mem_singleton.1 h)
      · rcases ih h with h | ⟨other, hother, h⟩
        · exact .inl h
        · exact .inr ⟨other, List.mem_cons_of_mem _ hother, h⟩

/-- A character of a part stands in the joined parts. -/
theorem mem_intercalate {sep c : Char} {parts : List (List Char)} {part : List Char}
    (hpart : part ∈ parts) (hc : c ∈ part) : c ∈ [sep].intercalate parts := by
  induction parts with
  | nil => cases hpart
  | cons first parts ih =>
    cases parts with
    | nil =>
      rw [List.intercalate_singleton]
      rwa [← List.mem_singleton.1 hpart]
    | cons next parts =>
      rw [List.intercalate_cons_cons]
      rcases List.mem_cons.1 hpart with hfirst | hrest
      · rw [← hfirst]
        exact List.mem_append_left _ (List.mem_append_left _ hc)
      · exact List.mem_append_right _ (ih hrest)

/-- A character of a part between separators stands in the text. -/
theorem mem_of_mem_splitOn {sep c : Char} {cs part : List Char} (hpart : part ∈ cs.splitOn sep)
    (hc : c ∈ part) : c ∈ cs := by
  have hmem : c ∈ [sep].intercalate (cs.splitOn sep) := mem_intercalate hpart hc
  rwa [List.intercalate_splitOn] at hmem

end PayLink.Text
