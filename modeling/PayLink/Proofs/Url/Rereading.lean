import PayLink.Proofs.Url.Legible
/-!
# Reading a link again

Under a scheme that does not lead to a host, a link whose path no slash begins has a path that is a
plain text. Such a link is written so that reading it again gives the same link, also once pairs
have been appended to it.
-/

namespace PayLink.Url

open PayLink.Text

/-- A link whose path is a plain text, written so that no part of it changes or is lost when it is
read again. -/
structure Rootless (u : Url) (path : List Char) : Prop where
  /-- The scheme is one. -/
  isScheme : isScheme u.scheme = true
  /-- It is in lower case. -/
  lower : u.scheme.map Char.toLower = u.scheme
  /-- It does not lead to a host. -/
  ordinary : SchemeKind.of u.scheme = .ordinary
  /-- There is no authority. -/
  authority : u.authority = none
  /-- The path is a text. -/
  path_eq : u.path = .rootless path
  /-- Nothing in the path is escaped, and nothing in it begins a query or a fragment. -/
  plain : ∀ c ∈ path, Percent.isControl c = false ∧ c ≠ '?' ∧ c ≠ '#'
  /-- No slash begins the path. -/
  noSlash : path.head? ≠ some '/'
  /-- The path does not end the link with a space. -/
  noSpace : u.query = none → u.fragment = none → path.getLast? ≠ some ' '
  /-- Nothing in the query is escaped. -/
  query : ∀ q, u.query = some q → ∀ c ∈ q, Percent.inQuery c = false
  /-- Nothing in the fragment is escaped. -/
  fragment : ∀ f, u.fragment = some f → ∀ c ∈ f, Percent.inFragment c = false

/-- Nothing stands before a plain text that no slash begins. -/
theorem front_of_rootless {u : Url} {path : List Char} (hauthority : u.authority = none)
    (hpath : u.path = .rootless path) (hslash : path.head? ≠ some '/') : u.front = path := by
  have hlead : u.lead = [] := by
    rw [lead, hauthority, hpath]
    refine if_neg fun hp => hslash ?_
    cases path with
    | nil => cases hp
    | cons c cs =>
      rw [LinkPath.text, List.isPrefixOf_cons_cons, Bool.and_eq_true] at hp
      rw [← eq_of_beq hp.1]
      rfl
  rw [front, hlead, hpath, LinkPath.text, List.nil_append]

namespace Rootless

variable {u : Url} {path : List Char} (h : u.Rootless path)

include h

/-- The path is the front of the link. -/
theorem front_eq : u.front = path :=
  front_of_rootless h.authority h.path_eq h.noSlash

/-- What is escaped in the query of the link. -/
theorem queryRule_eq : queryRule u.scheme = Percent.inQuery := by
  rw [queryRule, h.ordinary]
  rfl

/-- The text of the link is cut into its parts again. -/
theorem legible : u.Legible where
  isScheme := h.isScheme
  lower := h.lower
  front := by
    rw [h.front_eq]
    exact h.plain
  noSpace := by
    rw [h.front_eq]
    exact h.noSpace
  query := by
    rw [h.queryRule_eq]
    exact h.query
  fragment := h.fragment

/-- A link with a plain text for its path is read again as it is. -/
theorem parse_text : parse u.text = .ok u := by
  refine h.legible.parse_text_eq_ok_iff.2 ⟨?_, rfl, rfl, rfl⟩
  rw [h.front_eq, readFront_rootless h.ordinary h.noSlash, h.authority, h.path_eq,
    Percent.encode_eq_self fun c hc => (h.plain c hc).1]

/-- Appended pairs leave a plain text for the path. -/
theorem appendPairs (ps : List Form.Pair) : (u.appendPairs ps).Rootless path := by
  by_cases hps : ps = []
  · rw [hps]
    exact h
  · have hne : ¬ps.isEmpty = true := by rwa [List.isEmpty_iff]
    have hquery := (h.legible.appendPairs ps).query
    rw [Url.appendPairs, if_neg hne] at hquery ⊢
    rw [h.queryRule_eq] at hquery
    exact { h with query := hquery, noSpace := fun hq => by cases hq }

end Rootless

/-- Nothing in an escaped text is a control, and nothing in it is a mark that the text does not
have. -/
theorem plain_of_mem_encode {cs : List Char} (hquestion : '?' ∉ cs) (hsign : '#' ∉ cs) {c : Char}
    (hc : c ∈ Percent.encode Percent.isControl cs) :
    Percent.isControl c = false ∧ c ≠ '?' ∧ c ≠ '#' := by
  refine ⟨not_selected_of_mem_encode (fun d hd => (not_selected_of_isEncoded hd).1) hc, ?_, ?_⟩
  · rintro rfl
    rcases mem_encode hc with hm | hm
    · exact hquestion hm.1
    · exact absurd hm (by decide)
  · rintro rfl
    rcases mem_encode hc with hm | hm
    · exact hsign hm.1
    · exact absurd hm (by decide)

/-- No slash begins an escaped text if none begins the text. -/
theorem head?_encode_ne_slash {p : Char → Bool} {cs : List Char} (h : cs.head? ≠ some '/') :
    (Percent.encode p cs).head? ≠ some '/' := by
  cases cs with
  | nil => exact h
  | cons c cs =>
    rcases Percent.encode_cons_eq p c cs with hc | ⟨more, hc⟩
    · rw [hc]
      exact h
    · rw [hc]
      exact fun hslash => absurd (Option.some.inj hslash) (by decide)

/-- A link under an ordinary scheme whose front no slash begins is written so that it can be read
again. -/
theorem rootless_of_parse {s : String} {u : Url} {rest : List Char}
    (hs : splitScheme? (cleaned s.toList) = some (u.scheme, rest))
    (ho : SchemeKind.of u.scheme = .ordinary) (hfront : (Tail.of rest).front.head? ≠ some '/')
    (h : parse s = .ok u) :
    u.Rootless (Percent.encode Percent.isControl (Tail.of rest).front) := by
  obtain ⟨hread, -⟩ := (ofCleaned_eq_ok_iff hs).1 h
  rw [readFront_rootless ho hfront] at hread
  obtain ⟨hauthority, hpath⟩ := Prod.mk.inj (Except.ok.inj hread)
  obtain ⟨hquestion, hsign⟩ := not_mem_front rest
  have hplain : ∀ c ∈ Percent.encode Percent.isControl (Tail.of rest).front,
      Percent.isControl c = false ∧ c ≠ '?' ∧ c ≠ '#' := fun c hc =>
    plain_of_mem_encode hquestion hsign hc
  have hslash := head?_encode_ne_slash (p := Percent.isControl) hfront
  have hbefore : u.front = Percent.encode Percent.isControl (Tail.of rest).front :=
    front_of_rootless hauthority.symm hpath.symm hslash
  have hlegible : u.Legible := legible_of_plain_front hs h (by rwa [hbefore]) fun hlast => by
    rw [hbefore] at hlast
    exact getLast?_of_encode (by decide) hlast
  have hrule : queryRule u.scheme = Percent.inQuery := by
    rw [queryRule, ho]
    rfl
  exact
    { isScheme := hlegible.isScheme
      lower := hlegible.lower
      ordinary := ho
      authority := hauthority.symm
      path_eq := hpath.symm
      plain := hplain
      noSlash := hslash
      noSpace := hbefore ▸ hlegible.noSpace
      query := hrule ▸ hlegible.query
      fragment := hlegible.fragment }

end PayLink.Url
