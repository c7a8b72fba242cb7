import Mathlib.Data.List.Induction
import PayLink.Proofs.Url.Pairs
import PayLink.Proofs.Url.Parts
/-!
# Legible links

The text of a link can be cut into the parts of the link again if no part holds a mark that ends it
and nothing in a part would be escaped or dropped. What is then left to read again is the front of
the link: its authority and path. Appending pairs keeps a link legible.
-/

namespace PayLink.Url

open PayLink.Text

/-- What is no control is no line break. -/
theorem isBreak_of_isControl {c : Char} (h : Percent.isControl c = false) : isBreak c = false := by
  cases hb : isBreak c with
  | false => rfl
  | true =>
    simp only [isBreak, Bool.or_eq_true, decide_eq_true_eq] at hb
    rcases hb with (rfl | rfl) | rfl
    all_goals cases h

/-- The only blank that is no control is the space. -/
theorem isEdge_of_isControl {c : Char} (h : Percent.isControl c = false) (hc : c ≠ ' ') :
    isEdge c = false := by
  simp only [Percent.isControl, Bool.or_eq_false_iff, decide_eq_false_iff_not] at h
  have hne : c.toNat ≠ 0x20 := fun he => hc (Char.toNat_inj.1 he)
  simp only [isEdge, decide_eq_false_iff_not]
  omega

/-- What is not escaped in a query is no control, no space and no number sign. -/
theorem inQuery_false {c : Char} (h : Percent.inQuery c = false) :
    Percent.isControl c = false ∧ c ≠ ' ' ∧ c ≠ '#' := by
  rw [Percent.inQuery, Bool.or_eq_false_iff] at h
  refine ⟨h.1, ?_, ?_⟩
  · rintro rfl
    exact absurd h.2 (by decide)
  · rintro rfl
    exact absurd h.2 (by decide)

/-- What is not escaped in a fragment is no control and no space. -/
theorem inFragment_false {c : Char} (h : Percent.inFragment c = false) :
    Percent.isControl c = false ∧ c ≠ ' ' := by
  rw [Percent.inFragment, Bool.or_eq_false_iff] at h
  refine ⟨h.1, ?_⟩
  rintro rfl
  exact absurd h.2 (by decide)

/-- A character of a part behind its mark is the mark or stands in the part. -/
theorem mem_marked {mark c : Char} {part : Option (List Char)} (h : c ∈ marked mark part) :
    c = mark ∨ ∃ t, part = some t ∧ c ∈ t := by
  cases part with
  | none => cases h
  | some t =>
    rcases List.mem_cons.1 h with h | h
    · exact .inl h
    · exact .inr ⟨t, rfl, h⟩

/-- The last character of a text with a part behind its mark is the mark or stands in the part. -/
theorem mem_marked_of_getLast? {mark c : Char} {cs t : List Char}
    (h : (cs ++ marked mark (some t)).getLast? = some c) : c ∈ marked mark (some t) := by
  rw [marked, List.getLast?_append, List.getLast?_cons, Option.some_or, ← List.getLast?_cons] at h
  exact List.mem_of_getLast? h

/-- Written pairs stay as they are in a query. -/
theorem inQuery_of_isWritten {c : Char} (h : Form.isWritten c = true) :
    Percent.inQuery c = false :=
  forall_ascii (P := fun c => Form.isWritten c = true → Percent.inQuery c = false) (by decide)
    (Form.isWritten_lt h) h

/-- A character of an escaped text is one of the text that is not escaped, or one of an escape. -/
theorem mem_encode {p : Char → Bool} {c : Char} {cs : List Char}
    (h : c ∈ Percent.encode p cs) : (c ∈ cs ∧ p c = false) ∨ Form.isEncoded c = true := by
  obtain ⟨d, hd, hc⟩ := List.mem_flatMap.1 h
  split at hc
  · exact .inr (Form.isEncoded_of_mem_escapeChar hc).1
  · rename_i hp
    rw [List.mem_singleton.1 hc]
    exact .inl ⟨hd, eq_false_of_ne_true hp⟩

/-- If no escape ends with it, the last character of an escaped text is that of the text. -/
theorem getLast?_of_encode {p : Char → Bool} {c : Char} (hc : Form.isEncoded c = false)
    {cs : List Char} (h : (Percent.encode p cs).getLast? = some c) : cs.getLast? = some c := by
  induction cs using List.reverseRecOn with
  | nil => exact h
  | append_singleton cs d =>
    rw [List.getLast?_append, List.getLast?_singleton, Option.some_or]
    have hone : Percent.encode p [d] ≠ [] := by
      rcases Percent.encode_cons_eq p d [] with hd | ⟨more, hd⟩
      · rw [hd]
        exact List.cons_ne_nil _ _
      · rw [hd]
        exact List.cons_ne_nil _ _
    rw [Percent.encode_append, List.getLast?_append, List.getLast?_eq_some_getLast hone,
      Option.some_or] at h
    have hmem : c ∈ Percent.encode p [d] := Option.some.inj h ▸ List.getLast_mem hone
    rcases mem_encode hmem with ⟨hd, -⟩ | hd
    · rw [List.mem_singleton.1 hd]
    · rw [hc] at hd
      cases hd

/-- A text under an escape rule has no character that the rule selects, if the rule selects nothing
that an escape is made of. -/
theorem not_selected_of_mem_encode {p : Char → Bool}
    (hp : ∀ c, Form.isEncoded c = true → p c = false) {c : Char} {cs : List Char}
    (h : c ∈ Percent.encode p cs) : p c = false := by
  rcases mem_encode h with h | h
  · exact h.2
  · exact hp c h

/-- No part of an escape is escaped in a path, a query or a fragment. -/
theorem not_selected_of_isEncoded {c : Char} (h : Form.isEncoded c = true) :
    Percent.isControl c = false ∧ Percent.inQuery c = false ∧ Percent.inFragment c = false := by
  exact Form.forall_isEncoded (P := fun c =>
    Percent.isControl c = false ∧ Percent.inQuery c = false ∧ Percent.inFragment c = false)
    (by decide) h

/-- What stands behind the scheme of a link and its colon. -/
def behind (u : Url) : List Char :=
  u.lead ++ u.path.text ++ marked '?' u.query ++ marked '#' u.fragment

/-- A link is its scheme, a colon and what stands behind it. -/
theorem chars_eq_behind (u : Url) : u.chars = u.scheme ++ ':' :: u.behind := by
  rw [chars, behind]
  simp only [List.append_assoc, List.cons_append]

section Text

variable {u : Url} (hscheme : isScheme u.scheme = true)
  (hlower : u.scheme.map Char.toLower = u.scheme)

include hscheme hlower

/-- The scheme of a link, and what stands behind it, are found in the text of the link. -/
theorem splitScheme?_text :
    splitScheme? (cleaned u.text.toList) = some (u.scheme, cleanedEnd u.behind) := by
  rw [text, String.toList_ofList, chars_eq_behind, splitScheme?_cleaned hscheme, hlower]

/-- A link that is read from the text of a link has its scheme. -/
theorem scheme_of_parse_text {v : Url} (h : parse u.text = .ok v) : v.scheme = u.scheme :=
  ((ofCleaned_eq_ok_iff (splitScheme?_text hscheme hlower)).1 h).2.1

end Text

/-- The authority and path of a link as they are written. -/
def front (u : Url) : List Char :=
  u.lead ++ u.path.text

/-- What is not escaped in a query is not escaped in the query of any link. -/
theorem inQuery_of_queryRule {scheme : List Char} {c : Char} (h : queryRule scheme c = false) :
    Percent.inQuery c = false := by
  unfold queryRule at h
  split at h
  · rw [Percent.inSpecialQuery, Bool.or_eq_false_iff] at h
    exact h.1
  · exact h

/-- No part of an escape is escaped in a query. -/
theorem queryRule_of_isEncoded {scheme : List Char} {c : Char} (h : Form.isEncoded c = true) :
    queryRule scheme c = false := by
  unfold queryRule
  split
  · exact Form.forall_isEncoded (P := fun c => Percent.inSpecialQuery c = false) (by decide) h
  · exact (not_selected_of_isEncoded h).2.1

/-- Written pairs stay as they are in the query of any link. -/
theorem queryRule_of_isWritten {scheme : List Char} {c : Char} (h : Form.isWritten c = true) :
    queryRule scheme c = false := by
  unfold queryRule
  split
  · exact forall_ascii (P := fun c => Form.isWritten c = true → Percent.inSpecialQuery c = false)
      (by decide) (Form.isWritten_lt h) h
  · exact inQuery_of_isWritten h

/-- A link that is written so that its text is cut into its parts again. -/
structure Legible (u : Url) : Prop where
  /-- The scheme is one. -/
  isScheme : isScheme u.scheme = true
  /-- It is in lower case. -/
  lower : u.scheme.map Char.toLower = u.scheme
  /-- Nothing in the front is a control, and nothing in it begins a query or a fragment. -/
  front : ∀ c ∈ u.front, Percent.isControl c = false ∧ c ≠ '?' ∧ c ≠ '#'
  /-- The front does not end the link with a space. -/
  noSpace : u.query = none → u.fragment = none → u.front.getLast? ≠ some ' '
  /-- Nothing in the query is escaped. -/
  query : ∀ q, u.query = some q → ∀ c ∈ q, queryRule u.scheme c = false
  /-- Nothing in the fragment is escaped. -/
  fragment : ∀ f, u.fragment = some f → ∀ c ∈ f, Percent.inFragment c = false

namespace Legible

variable {u : Url} (h : u.Legible)

include h

/-- Nothing behind the scheme is a line break. -/
theorem isBreak_of_mem {c : Char} (hc : c ∈ u.behind) : isBreak c = false := by
  rcases List.mem_append.1 hc with hc | hc
  · rcases List.mem_append.1 hc with hc | hc
    · exact isBreak_of_isControl (h.front c hc).1
    · rcases mem_marked hc with rfl | ⟨q, hq, hc⟩
      · rfl
      · exact isBreak_of_isControl (inQuery_false (inQuery_of_queryRule (h.query q hq c hc))).1
  · rcases mem_marked hc with rfl | ⟨f, hf, hc⟩
    · rfl
    · exact isBreak_of_isControl (inFragment_false (h.fragment f hf c hc)).1

/-- No blank ends the link. -/
theorem isEdge_last {c : Char} (hc : u.behind.getLast? = some c) : isEdge c = false := by
  unfold behind at hc
  cases hf : u.fragment with
  | some f =>
    rw [hf] at hc
    rcases mem_marked (mem_marked_of_getLast? hc) with rfl | ⟨t, ht, hm⟩
    · rfl
    · have hplain := inFragment_false (h.fragment t (hf.trans ht) c hm)
      exact isEdge_of_isControl hplain.1 hplain.2
  | none =>
    rw [hf, marked, List.append_nil] at hc
    cases hq : u.query with
    | some q =>
      rw [hq] at hc
      rcases mem_marked (mem_marked_of_getLast? hc) with rfl | ⟨t, ht, hm⟩
      · rfl
      · have hplain := inQuery_false (inQuery_of_queryRule (h.query t (hq.trans ht) c hm))
        exact isEdge_of_isControl hplain.1 hplain.2.1
    | none =>
      rw [hq, marked, List.append_nil] at hc
      refine isEdge_of_isControl (h.front c (List.mem_of_getLast? hc)).1 ?_
      rintro rfl
      exact h.noSpace hq hf hc

/-- Reading the text of the link is reading its front. -/
theorem parse_text_eq_ok_iff {v : Url} :
    parse u.text = .ok v ↔
      readFront u.scheme u.front (u.query.isSome || u.fragment.isSome) =
          .ok (v.authority, v.path) ∧
        v.scheme = u.scheme ∧ v.query = u.query ∧ v.fragment = u.fragment := by
  have hquestion : '?' ∉ u.front := fun hm => (h.front _ hm).2.1 rfl
  have hsign : '#' ∉ u.front := fun hm => (h.front _ hm).2.2 rfl
  have hnosign : ∀ q, u.query = some q → '#' ∉ q := fun q hq hm =>
    (inQuery_false (inQuery_of_queryRule (h.query q hq _ hm))).2.2 rfl
  have htail : Tail.of u.behind = ⟨u.front, u.query, u.fragment⟩ :=
    tail_of_marked hquestion hsign hnosign u.fragment
  have hs := splitScheme?_text h.isScheme h.lower
  rw [cleanedEnd_eq_self (fun c hc => h.isBreak_of_mem hc) fun c hc => h.isEdge_last hc] at hs
  have hquery : u.query.map (Percent.encode (queryRule u.scheme)) = u.query := by
    cases hq : u.query with
    | none => rfl
    | some q => rw [Option.map_some, Percent.encode_eq_self (h.query q hq)]
  have hfragment : u.fragment.map (Percent.encode Percent.inFragment) = u.fragment := by
    cases hf : u.fragment with
    | none => rfl
    | some f => rw [Option.map_some, Percent.encode_eq_self (h.fragment f hf)]
  rw [parse, ofCleaned_eq_ok_iff hs, htail, hquery, hfragment]
  rfl

/-- Appended pairs are written so that nothing in them changes. -/
theorem appendPairs (ps : List Form.Pair) : (u.appendPairs ps).Legible := by
  by_cases hps : ps = []
  · rw [hps]
    exact h
  · have hne : ¬ps.isEmpty = true := by rwa [List.isEmpty_iff]
    have hwritten : ∀ c ∈ Form.write ps, queryRule u.scheme c = false := fun c hc =>
      queryRule_of_isWritten (Form.isWritten_of_mem_write hc)
    rw [Url.appendPairs, if_neg hne]
    refine { h with query := fun q hq c hc => ?_, noSpace := fun hq => by cases hq }
    rw [← Option.some.inj hq] at hc
    unfold extend at hc
    split at hc
    · exact hwritten c hc
    · rename_i old hold
      split at hc
      · exact hwritten c hc
      · rcases List.mem_append.1 hc with hc | hc
        · exact h.query old hold c hc
        · rcases List.mem_cons.1 hc with hand | hc
          · rw [hand]
            exact queryRule_of_isWritten rfl
          · exact hwritten c hc

end Legible

/-- A link that is read is legible if its front is: nothing is escaped twice in its query and
fragment, and no space ends a text that is read. -/
theorem legible_of_plain_front {s : String} {u : Url} {rest : List Char}
    (hs : splitScheme? (cleaned s.toList) = some (u.scheme, rest)) (h : parse s = .ok u)
    (hfront : ∀ c ∈ u.front, Percent.isControl c = false ∧ c ≠ '?' ∧ c ≠ '#')
    (hlast : u.front.getLast? = some ' ' → (Tail.of rest).front.getLast? = some ' ') :
    u.Legible := by
  obtain ⟨raw, hraw, hscheme, htext⟩ := eq_of_splitScheme? hs
  obtain ⟨-, -, hquery, hfragment⟩ := (ofCleaned_eq_ok_iff hs).1 h
  refine
    { isScheme := hscheme ▸ isScheme_map_toLower hraw
      lower := by rw [hscheme, map_toLower_map_toLower hraw]
      front := hfront
      noSpace := fun hq hf hspace => ?_
      query := fun q hq c hc => ?_
      fragment := fun f hf c hc => ?_ }
  · rw [hquery, Option.map_eq_none_iff] at hq
    rw [hfragment, Option.map_eq_none_iff] at hf
    have hend := hlast hspace
    rw [← eq_front hq hf] at hend
    have hcleaned : (cleanedEnd (s.toList.dropWhile isEdge)).getLast? = some ' ' := by
      change (cleaned s.toList).getLast? = some ' '
      rw [htext, List.getLast?_append, List.getLast?_cons, hend]
      rfl
    exact absurd (isEdge_getLast?_cleanedEnd hcleaned) (by decide)
  · rw [hquery] at hq
    obtain ⟨given, -, rfl⟩ := Option.map_eq_some_iff.1 hq
    exact not_selected_of_mem_encode (fun _ => queryRule_of_isEncoded) hc
  · rw [hfragment] at hf
    obtain ⟨given, -, rfl⟩ := Option.map_eq_some_iff.1 hf
    exact not_selected_of_mem_encode (fun d hd => (not_selected_of_isEncoded hd).2.2) hc

end PayLink.Url
