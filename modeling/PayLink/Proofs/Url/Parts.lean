import PayLink.Proofs.Outcome
import PayLink.Proofs.Text.Cut
import PayLink.Proofs.Url.Scheme
/-!
# The parts of a text that is read as a link

A text is cut at its marks, and joined by them again. A link is read from the scheme, the front, the
query and the fragment of a text. Under a scheme that leads to a host or to a file the path always
has segments; under any other scheme the first character of the front decides whether it has or is a
plain text.
-/

namespace PayLink.Url

open PayLink.Text

/-- A part behind its mark is cut off again. -/
theorem cut_append_marked {mark : Char} {cs : List Char} (h : mark ∉ cs)
    (part : Option (List Char)) : cut mark (cs ++ marked mark part) = (cs, part) := by
  cases part with
  | none => rw [marked, List.append_nil, cut_of_not_mem h]
  | some t => rw [marked, cut_append h]

/-- A query and a fragment are cut off again. -/
theorem tail_of_marked {front : List Char} {query : Option (List Char)}
    (hquestion : '?' ∉ front) (hsign : '#' ∉ front) (hquery : ∀ q, query = some q → '#' ∉ q)
    (fragment : Option (List Char)) :
    Tail.of (front ++ marked '?' query ++ marked '#' fragment) = ⟨front, query, fragment⟩ := by
  have hbefore : '#' ∉ front ++ marked '?' query := by
    intro h
    rcases List.mem_append.1 h with h | h
    · exact hsign h
    · cases hq : query with
      | none =>
        rw [hq] at h
        cases h
      | some q =>
        rw [hq] at h
        rcases List.mem_cons.1 h with h | h
        · exact absurd h (by decide)
        · exact hquery q hq h
  simp only [Tail.of, cut_append_marked hbefore, cut_append_marked hquestion]

/-- What holds neither mark stays at the front of what follows it. -/
theorem tail_append {before : List Char} (hquestion : '?' ∉ before) (hsign : '#' ∉ before)
    (rest : List Char) :
    Tail.of (before ++ rest) =
      ⟨before ++ (Tail.of rest).front, (Tail.of rest).query, (Tail.of rest).fragment⟩ := by
  simp only [Tail.of, cut_append_of_not_mem hsign, cut_append_of_not_mem hquestion]

/-- Behind the mark of a query a text goes on as the query, until the mark of a fragment comes. -/
theorem exists_tail_append_query {before : List Char} (hquestion : '?' ∈ before)
    (hsign : '#' ∉ before) :
    ∃ front query, ∀ rest, Tail.of (before ++ rest) =
      ⟨front, some (query ++ (cut '#' rest).1), (cut '#' rest).2⟩ := by
  obtain ⟨front, query, rfl, hfront⟩ := List.eq_append_cons_of_mem hquestion
  refine ⟨front, query, fun rest => ?_⟩
  simp only [Tail.of, cut_append_of_not_mem hsign]
  rw [List.append_assoc, List.cons_append, cut_append hfront]

/-- Behind the mark of a fragment a text goes on as the fragment. -/
theorem exists_tail_append_fragment {before : List Char} (hsign : '#' ∈ before) :
    ∃ front query fragment, ∀ rest, Tail.of (before ++ rest) =
      ⟨front, query, some (fragment ++ rest)⟩ := by
  obtain ⟨parts, fragment, rfl, hparts⟩ := List.eq_append_cons_of_mem hsign
  refine ⟨(cut '?' parts).1, (cut '?' parts).2, fragment, fun rest => ?_⟩
  rw [List.append_assoc, List.cons_append, Tail.of, cut_append hparts]

/-- What stands before a separator stands in the text. -/
theorem mem_of_mem_cut {sep c : Char} {cs : List Char} (h : c ∈ (cut sep cs).1) : c ∈ cs := by
  induction cs with
  | nil => cases h
  | cons d ds ih =>
    unfold cut at h
    split at h
    · cases h
    · rcases List.mem_cons.1 h with rfl | h
      · exact List.mem_cons_self
      · exact List.mem_cons_of_mem d (ih h)

/-- The front of a text holds neither mark. -/
theorem not_mem_front (cs : List Char) : '?' ∉ (Tail.of cs).front ∧ '#' ∉ (Tail.of cs).front :=
  ⟨not_mem_cut '?' _, fun h => not_mem_cut '#' cs (mem_of_mem_cut h)⟩

/-- The front of a text goes on until a mark comes. -/
theorem front_cons (c : Char) (cs : List Char) :
    (Tail.of (c :: cs)).front = if c = '?' ∨ c = '#' then [] else c :: (Tail.of cs).front := by
  by_cases hsign : c = '#'
  · rw [if_pos (.inr hsign), hsign]
    rfl
  · by_cases hquestion : c = '?'
    · rw [if_pos (.inl hquestion), hquestion]
      simp [Tail.of, Text.cut]
    · rw [if_neg (not_or.2 ⟨hquestion, hsign⟩)]
      simp [Tail.of, Text.cut, hsign, hquestion]

/-- A text without query and fragment is its front. -/
theorem eq_front {cs : List Char} (hq : (Tail.of cs).query = none)
    (hf : (Tail.of cs).fragment = none) : cs = (Tail.of cs).front := by
  have hbefore : cs = (cut '#' cs).1 := eq_of_cut_none (Prod.ext rfl hf)
  have hfront : (cut '#' cs).1 = (Tail.of cs).front := eq_of_cut_none (Prod.ext rfl hq)
  exact hbefore.trans hfront

/-- A text with a scheme begins with the scheme and a colon. -/
theorem eq_of_splitScheme? {cs scheme rest : List Char}
    (h : splitScheme? cs = some (scheme, rest)) :
    ∃ raw, isScheme raw = true ∧ scheme = raw.map Char.toLower ∧ cs = raw ++ ':' :: rest := by
  unfold splitScheme? at h
  split at h
  · rename_i raw after hcut
    split at h
    · rename_i hraw
      cases h
      exact ⟨raw, hraw, rfl, eq_of_cut hcut⟩
    · cases h
  · cases h

/-- A scheme ends before the first slash, so what stands from there on has no part in it. -/
theorem exists_splitScheme?_append {before rest scheme cs : List Char}
    (h : splitScheme? (before ++ '/' :: cs) = some (scheme, rest)) :
    ∃ more, rest = more ++ '/' :: cs ∧
      (∀ c, isSchemeChar c = false → c ≠ ':' → (c ∈ more ↔ c ∈ before)) ∧
      ∀ other, splitScheme? (before ++ other) = some (scheme, more ++ other) := by
  obtain ⟨raw, hraw, rfl, htext⟩ := eq_of_splitScheme? h
  rcases List.append_eq_append_iff.1 htext with ⟨as, hraw', has⟩ | ⟨bs, rfl, hbs⟩
  · -- the slash would stand in the scheme
    cases as with
    | nil => exact absurd (List.cons.inj has).1 (by decide)
    | cons d ds =>
      have hd := (List.cons.inj has).1
      have hslash : '/' ∈ raw := by
        rw [hraw', hd]
        exact List.mem_append_right _ List.mem_cons_self
      exact absurd (isSchemeChar_of_mem hraw hslash) (by decide)
  · cases bs with
    | nil => exact absurd (List.cons.inj hbs).1 (by decide)
    | cons d more =>
      obtain ⟨rfl, rfl⟩ := List.cons.inj hbs
      refine ⟨more, rfl, fun c hc hcolon => ?_, fun other => ?_⟩
      · have hno : c ∉ raw := fun hm => by
          rw [isSchemeChar_of_mem hraw hm] at hc
          cases hc
        rw [List.mem_append, or_iff_right hno, List.mem_cons, or_iff_right hcolon]
      · rw [List.append_assoc, List.cons_append, splitScheme?_append hraw]

/-- What is escaped in the query of a link under a scheme. -/
def queryRule (scheme : List Char) : Char → Bool :=
  if (SchemeKind.of scheme).isSpecial then Percent.inSpecialQuery else Percent.inQuery

/-- The parts of a link that is read: its scheme, what is read of its front, and its escaped query
and fragment. -/
theorem ofCleaned_eq_ok_iff {cs scheme rest : List Char} {u : Url}
    (hs : splitScheme? cs = some (scheme, rest)) :
    ofCleaned cs = .ok u ↔
      readFront scheme (Tail.of rest).front (Tail.of rest).hasMore = .ok (u.authority, u.path) ∧
        u.scheme = scheme ∧
        u.query = (Tail.of rest).query.map (Percent.encode (queryRule scheme)) ∧
        u.fragment = (Tail.of rest).fragment.map (Percent.encode Percent.inFragment) := by
  simp only [ofCleaned, hs]
  cases readFront scheme (Tail.of rest).front (Tail.of rest).hasMore with
  | error flaw =>
    constructor
    · intro h
      cases h
    · intro h
      cases h.1
  | ok front =>
    constructor
    · intro h
      cases h
      exact ⟨rfl, rfl, rfl, rfl⟩
    · rintro ⟨hfront, rfl, hquery, hfragment⟩
      obtain rfl := Except.ok.inj hfront
      rw [queryRule] at hquery
      simp only [← hquery, ← hfragment]

/-- The scheme of a link is the one that its text begins with. -/
theorem splitScheme?_of_ofCleaned {cs : List Char} {u : Url} (h : ofCleaned cs = .ok u) :
    ∃ rest, splitScheme? cs = some (u.scheme, rest) := by
  cases hs : splitScheme? cs with
  | none =>
    rw [ofCleaned, hs] at h
    cases h
  | some parts =>
    obtain ⟨scheme, rest⟩ := parts
    obtain ⟨-, hscheme, -⟩ := (ofCleaned_eq_ok_iff hs).1 h
    exact ⟨rest, by rw [hscheme]⟩

/-- What is read behind two slashes is an authority, and the segments behind it. -/
theorem readAfterSlashes_eq_ok_iff {scheme cs : List Char} {more : Bool} {a : Authority}
    {path : LinkPath} :
    readAfterSlashes scheme cs more = .ok (a, path) ↔
      ∃ rest, readAuthority scheme (splitAuthority (SchemeKind.of scheme) cs).1
          ((splitAuthority (SchemeKind.of scheme) cs).2.isEmpty && !more) = .ok (a, rest) ∧
        path = .rooted (Path.afterAuthority (SchemeKind.of scheme)
          (rest ++ (splitAuthority (SchemeKind.of scheme) cs).2)) := by
  constructor
  · intro h
    obtain ⟨⟨a', rest⟩, hauthority, hpath⟩ := bind_eq_ok_iff.1 h
    cases hpath
    exact ⟨rest, hauthority, rfl⟩
  · rintro ⟨rest, hauthority, rfl⟩
    exact bind_eq_ok_iff.2 ⟨(a, rest), hauthority, rfl⟩

/-- Behind an authority there are segments. -/
theorem rooted_of_readAfterSlashes {scheme cs : List Char} {more : Bool} {authority : Authority}
    {path : LinkPath} (h : readAfterSlashes scheme cs more = .ok (authority, path)) :
    ∃ segments, path = .rooted segments := by
  obtain ⟨rest, -, hpath⟩ := readAfterSlashes_eq_ok_iff.1 h
  exact ⟨_, hpath⟩

/-- A link to a file has segments. -/
theorem rooted_of_readFile {cs : List Char} {authority : Authority} {path : LinkPath}
    (h : readFile cs = .ok (authority, path)) : ∃ segments, path = .rooted segments := by
  unfold readFile at h
  split at h
  · split at h
    · obtain ⟨host, -, h⟩ := bind_eq_ok_iff.1 h
      cases h
      exact ⟨_, rfl⟩
    · cases h
      exact ⟨_, rfl⟩
  · cases h
    exact ⟨_, rfl⟩

/-- Under a scheme that leads to a host or to a file there are segments. -/
theorem readFront_special {scheme front : List Char} {authority : Option Authority}
    {path : LinkPath} {more : Bool} (hk : SchemeKind.of scheme ≠ .ordinary)
    (h : readFront scheme front more = .ok (authority, path)) :
    ∃ segments, path = .rooted segments := by
  unfold readFront at h
  split at h
  · obtain ⟨⟨a, p⟩, hfile, h⟩ := map_eq_ok_iff.1 h
    cases h
    exact rooted_of_readFile hfile
  · obtain ⟨⟨a, p⟩, hhost, h⟩ := map_eq_ok_iff.1 h
    cases h
    exact rooted_of_readAfterSlashes hhost
  · rename_i hordinary
    exact absurd hordinary hk

section Ordinary

variable {scheme front : List Char} {authority : Option Authority} {path : LinkPath} {more : Bool}
  (ho : SchemeKind.of scheme = .ordinary)

include ho

/-- A front that no slash begins is a plain text. -/
theorem readFront_rootless (hfront : front.head? ≠ some '/') :
    readFront scheme front more =
      .ok (none, .rootless (Percent.encode Percent.isControl front)) := by
  unfold readFront
  rw [ho]
  cases front with
  | nil => rfl
  | cons c cs =>
    have hc : c ≠ '/' := by
      rintro rfl
      exact hfront rfl
    simp only
    split
    · rename_i heq
      exact absurd (List.cons.inj heq).1 hc
    · rename_i heq
      exact absurd (List.cons.inj heq).1 hc
    · rfl

/-- A front that a slash begins has segments. -/
theorem readFront_rooted (hfront : front.head? = some '/')
    (h : readFront scheme front more = .ok (authority, path)) :
    ∃ segments, path = .rooted segments := by
  unfold readFront at h
  rw [ho] at h
  simp only at h
  split at h
  · obtain ⟨⟨a, p⟩, hhost, h⟩ := map_eq_ok_iff.1 h
    cases h
    exact rooted_of_readAfterSlashes hhost
  · cases h
    exact ⟨_, rfl⟩
  · rename_i hone
    cases front with
    | nil => cases hfront
    | cons c cs =>
      obtain rfl := Option.some.inj hfront
      exact absurd rfl (hone cs)

end Ordinary

/-- The scheme of a link that is read is a scheme in lower case. -/
theorem scheme_of_parse {s : String} {u : Url} (h : parse s = .ok u) :
    isScheme u.scheme = true ∧ u.scheme.map Char.toLower = u.scheme := by
  obtain ⟨rest, hs⟩ := splitScheme?_of_ofCleaned h
  obtain ⟨raw, hraw, hscheme, -⟩ := eq_of_splitScheme? hs
  rw [hscheme]
  exact ⟨isScheme_map_toLower hraw, map_toLower_map_toLower hraw⟩

end PayLink.Url
