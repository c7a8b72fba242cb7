import Mathlib.Data.List.TakeWhile
import PayLink.Proofs.Text.Ascii
import PayLink.Url.Parser
/-!
# What stands behind a scheme

A scheme has no blanks and no colon, so reading a text that begins with a scheme and a colon finds
both, and what is left to read is the rest without blanks at its end and without line breaks.
-/

namespace PayLink.Url

open PayLink.Text

/-- A text without blanks at its end and without line breaks. -/
def cleanedEnd (cs : List Char) : List Char :=
  ((cs.reverse.dropWhile isEdge).reverse).filter fun c => !isBreak c

/-- A text without blanks at its beginning and without line breaks. -/
def cleanedStart (cs : List Char) : List Char :=
  (cs.dropWhile isEdge).filter fun c => !isBreak c

/-- Line breaks are blanks. -/
theorem isEdge_of_isBreak {c : Char} (h : isBreak c = true) : isEdge c = true := by
  simp only [isBreak, Bool.or_eq_true, decide_eq_true_eq] at h
  rcases h with (rfl | rfl) | rfl
  all_goals rfl

/-- Characters that count stay, and what counts behind them is what counts without them. -/
theorem cleanedEnd_append {before : List Char} (h : ∀ c ∈ before, isEdge c = false)
    (rest : List Char) : cleanedEnd (before ++ rest) = before ++ cleanedEnd rest := by
  have hback : before.reverse.dropWhile isEdge = before.reverse := by
    cases hc : before.reverse with
    | nil => rfl
    | cons c cs =>
      have hmem : c ∈ before := List.mem_reverse.1 (hc ▸ List.mem_cons_self)
      rw [List.dropWhile_cons, h c hmem]
      rfl
  have hdrop : (before ++ rest).reverse.dropWhile isEdge =
      rest.reverse.dropWhile isEdge ++ before.reverse := by
    rw [List.reverse_append, List.dropWhile_append]
    split
    · rename_i hall
      rw [hback, List.isEmpty_iff.1 hall, List.nil_append]
    · rfl
  have hkeep : before.filter (fun c => !isBreak c) = before := by
    refine List.filter_eq_self.2 fun c hc => ?_
    cases hb : isBreak c with
    | false => rfl
    | true =>
      have hedge := isEdge_of_isBreak hb
      rw [h c hc] at hedge
      cases hedge
  rw [cleanedEnd, hdrop, List.reverse_append, List.reverse_reverse, List.filter_append, hkeep,
    cleanedEnd]

/-- A character that counts stays before what counts behind it. -/
theorem cleanedEnd_cons {c : Char} (hc : isEdge c = false) (rest : List Char) :
    cleanedEnd (c :: rest) = c :: cleanedEnd rest := by
  have hone : ∀ d ∈ [c], isEdge d = false := fun d hd => by rwa [List.mem_singleton.1 hd]
  exact cleanedEnd_append hone rest

/-- Nothing is dropped before and among characters that count. -/
theorem cleaned_append {before : List Char} (hne : before ≠ [])
    (h : ∀ c ∈ before, isEdge c = false) (rest : List Char) :
    cleaned (before ++ rest) = before ++ cleanedEnd rest := by
  have hfront : (before ++ rest).dropWhile isEdge = before ++ rest := by
    obtain ⟨c, cs, rfl⟩ := List.exists_cons_of_ne_nil hne
    rw [List.cons_append, List.dropWhile_cons, h c List.mem_cons_self]
    rfl
  rw [cleaned, hfront]
  exact cleanedEnd_append h rest

/-- A character that is no blank stays in a text whose beginning is cleaned. -/
theorem mem_cleanedStart_iff {c : Char} (hc : isEdge c = false) {cs : List Char} :
    c ∈ cleanedStart cs ↔ c ∈ cs := by
  have hbreak : (!isBreak c) = true := by
    cases hb : isBreak c with
    | false => rfl
    | true =>
      rw [isEdge_of_isBreak hb] at hc
      cases hc
  rw [cleanedStart, List.mem_filter, and_iff_left hbreak]
  induction cs with
  | nil => rfl
  | cons d ds ih =>
    rw [List.dropWhile_cons]
    split
    · rename_i hd
      have hne : c ≠ d := by
        rintro rfl
        rw [hd] at hc
        cases hc
      exact ih.trans (by rw [List.mem_cons, or_iff_right hne])
    · rfl

/-- What stands before and behind a character that counts is cleaned apart. -/
theorem cleaned_append_cons {c : Char} (hc : isEdge c = false) (before after : List Char) :
    cleaned (before ++ c :: after) = cleanedStart before ++ c :: cleanedEnd after := by
  have hstart : (before ++ c :: after).dropWhile isEdge =
      before.dropWhile isEdge ++ c :: after := by
    rw [List.dropWhile_append]
    split
    · rename_i hall
      rw [List.isEmpty_iff.1 hall, List.nil_append, List.dropWhile_cons_of_neg (by rw [hc]; decide)]
    · rfl
  have hend : ∀ cs : List Char, (cs ++ c :: after).reverse.dropWhile isEdge =
      (c :: after).reverse.dropWhile isEdge ++ cs.reverse := by
    intro cs
    have hone : (c :: after).reverse.dropWhile isEdge ≠ [] := by
      intro hnil
      have hall := List.dropWhile_eq_nil_iff.1 hnil c (List.mem_reverse.2 List.mem_cons_self)
      rw [hc] at hall
      cases hall
    rw [List.reverse_append, List.dropWhile_append, if_neg (by rwa [List.isEmpty_iff])]
  rw [cleaned, hstart, hend, List.reverse_append, List.reverse_reverse, List.filter_append]
  exact congrArg (cleanedStart before ++ ·) (cleanedEnd_cons hc after)

/-- A text without line breaks that ends with no blank stays as it is. -/
theorem cleanedEnd_eq_self {cs : List Char} (hbreak : ∀ c ∈ cs, isBreak c = false)
    (hlast : ∀ c, cs.getLast? = some c → isEdge c = false) : cleanedEnd cs = cs := by
  have hdrop : cs.reverse.dropWhile isEdge = cs.reverse := by
    cases hc : cs.reverse with
    | nil => rfl
    | cons c more =>
      have hhead : cs.getLast? = some c := by rw [← List.head?_reverse, hc]; rfl
      rw [List.dropWhile_cons, hlast c hhead]
      rfl
  rw [cleanedEnd, hdrop, List.reverse_reverse]
  refine List.filter_eq_self.2 fun c hc => ?_
  rw [hbreak c hc]
  rfl

/-- No blank is left at the end. -/
theorem isEdge_getLast?_cleanedEnd {cs : List Char} {c : Char}
    (h : (cleanedEnd cs).getLast? = some c) : isEdge c = false := by
  have hhead := List.head?_dropWhile_not isEdge cs.reverse
  cases hd : cs.reverse.dropWhile isEdge with
  | nil =>
    rw [cleanedEnd, hd] at h
    cases h
  | cons d more =>
    rw [hd] at hhead
    have hedge : isEdge d = false := by simpa using hhead
    have hbreak : isBreak d = false := by
      cases hb : isBreak d with
      | false => rfl
      | true =>
        rw [isEdge_of_isBreak hb] at hedge
        cases hedge
    have hkept : [d].filter (fun c => !isBreak c) = [d] := by simp [hbreak]
    rw [cleanedEnd, hd, List.reverse_cons, List.filter_append, hkept, List.getLast?_append,
      List.getLast?_singleton, Option.some_or] at h
    rw [← Option.some.inj h, hedge]

/-- The characters of a scheme. -/
theorem isSchemeChar_of_mem {scheme : List Char} (h : isScheme scheme = true) {c : Char}
    (hc : c ∈ scheme) : isSchemeChar c = true := by
  cases scheme with
  | nil => cases hc
  | cons d ds =>
    rw [isScheme, Bool.and_eq_true] at h
    rcases List.mem_cons.1 hc with rfl | hc
    · simp [isSchemeChar, Char.isAlphanum, h.1]
    · exact List.all_eq_true.1 h.2 c hc

/-- The characters of a scheme are ASCII. -/
theorem isSchemeChar_lt {c : Char} (h : isSchemeChar c = true) : c.toNat < 0x80 := by
  simp only [isSchemeChar, Bool.or_eq_true, decide_eq_true_eq] at h
  rcases h with ((h | rfl) | rfl) | rfl
  · exact isAlphanum_lt h
  all_goals decide

/-- A character of a scheme counts. -/
theorem isEdge_of_isSchemeChar {c : Char} (h : isSchemeChar c = true) : isEdge c = false :=
  forall_ascii (P := fun c => isSchemeChar c = true → isEdge c = false) (by decide)
    (isSchemeChar_lt h) h

/-- No colon stands in a scheme. -/
theorem colon_not_mem_scheme {scheme : List Char} (h : isScheme scheme = true) :
    ':' ∉ scheme := by
  intro hc
  exact absurd (isSchemeChar_of_mem h hc) (by decide)

/-- A scheme in lower case is a scheme. -/
theorem isScheme_map_toLower {scheme : List Char} (h : isScheme scheme = true) :
    isScheme (scheme.map Char.toLower) = true := by
  have hchar : ∀ c, isSchemeChar c = true → isSchemeChar c.toLower = true := fun c hc =>
    forall_ascii (P := fun c => isSchemeChar c = true → isSchemeChar c.toLower = true)
      (by decide) (isSchemeChar_lt hc) hc
  have hletter : ∀ c : Char, c.isAlpha = true → c.toLower.isAlpha = true := fun c hc =>
    forall_ascii (P := fun c => c.isAlpha = true → c.toLower.isAlpha = true)
      (by decide) (isAlpha_lt hc) hc
  cases scheme with
  | nil => cases h
  | cons c cs =>
    rw [isScheme, Bool.and_eq_true] at h
    rw [List.map_cons, isScheme, hletter c h.1, Bool.true_and, List.all_map]
    exact List.all_eq_true.2 fun d hd => hchar d (List.all_eq_true.1 h.2 d hd)

/-- A text that is a scheme once it is in lower case is a scheme. -/
theorem isScheme_of_map_toLower {scheme : List Char}
    (h : isScheme (scheme.map Char.toLower) = true) : isScheme scheme = true := by
  have hascii : ∀ c : Char, c.toLower.toNat < 0x80 → c.toNat < 0x80 := by
    intro c hc
    unfold Char.toLower at hc
    split at hc
    · rename_i hupper
      have hle : c.toNat ≤ 90 := UInt32.le_iff_toNat_le.1 hupper.2
      omega
    · exact hc
  have hchar : ∀ c : Char, isSchemeChar c.toLower = true → isSchemeChar c = true := fun c hc =>
    forall_ascii (P := fun c => isSchemeChar c.toLower = true → isSchemeChar c = true)
      (by decide) (hascii c (isSchemeChar_lt hc)) hc
  have hletter : ∀ c : Char, c.toLower.isAlpha = true → c.isAlpha = true := fun c hc =>
    forall_ascii (P := fun c => c.toLower.isAlpha = true → c.isAlpha = true)
      (by decide) (hascii c (isAlpha_lt hc)) hc
  cases scheme with
  | nil => cases h
  | cons c cs =>
    rw [List.map_cons, isScheme, Bool.and_eq_true, List.all_map] at h
    rw [isScheme, hletter c h.1, Bool.true_and]
    exact List.all_eq_true.2 fun d hd => hchar d (List.all_eq_true.1 h.2 d hd)

/-- A scheme in lower case stays as it is when it is put in lower case. -/
theorem map_toLower_map_toLower {scheme : List Char} (h : isScheme scheme = true) :
    (scheme.map Char.toLower).map Char.toLower = scheme.map Char.toLower := by
  rw [List.map_map]
  refine List.map_congr_left fun c hc => ?_
  exact forall_ascii (P := fun c => c.toLower.toLower = c.toLower) (by decide)
    (isSchemeChar_lt (isSchemeChar_of_mem h hc))

/-- A scheme and what stands behind its colon are found. -/
theorem splitScheme?_append {scheme : List Char} (h : isScheme scheme = true) (rest : List Char) :
    splitScheme? (scheme ++ ':' :: rest) = some (scheme.map Char.toLower, rest) := by
  rw [splitScheme?, cut_append (colon_not_mem_scheme h)]
  exact if_pos h

/-- A scheme and what stands behind it are found in a text that begins with them. -/
theorem splitScheme?_cleaned {scheme : List Char} (h : isScheme scheme = true)
    (rest : List Char) :
    splitScheme? (cleaned (scheme ++ ':' :: rest)) =
      some (scheme.map Char.toLower, cleanedEnd rest) := by
  have hsplit : scheme ++ ':' :: rest = (scheme ++ [':']) ++ rest := by
    rw [List.append_assoc, List.singleton_append]
  have hkeep : ∀ c ∈ scheme ++ [':'], isEdge c = false := by
    intro c hc
    rcases List.mem_append.1 hc with hc | hc
    · exact isEdge_of_isSchemeChar (isSchemeChar_of_mem h hc)
    · rw [List.mem_singleton.1 hc]
      rfl
  have hne : scheme ++ [':'] ≠ [] := List.append_ne_nil_of_right_ne_nil _ (List.cons_ne_nil _ _)
  rw [hsplit, cleaned_append hne hkeep, List.append_assoc, List.singleton_append,
    splitScheme?_append h]

end PayLink.Url
