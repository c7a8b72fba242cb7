import PayLink.Link.Transaction
import PayLink.Proofs.Url.Legible
/-!
# Links without their slashes

A slash before the query of a link and one at its end are left out before the link is read. In a
text that is put together from the parts of a link this changes the front and the fragment only, and
if there is no fragment, it takes a slash from the end of the front and does nothing else.
-/

namespace PayLink.Link.Transaction

open Url (marked)

/-- Only a slash before a question mark is dropped. -/
theorem dropSlashBeforeQuery_cons {c : Char} {cs : List Char}
    (h : c ≠ '/' ∨ cs.head? ≠ some '?') :
    dropSlashBeforeQuery (c :: cs) = c :: dropSlashBeforeQuery cs := by
  rw [dropSlashBeforeQuery]
  rintro rest rfl rfl
  rcases h with h | h
  · exact h rfl
  · exact h rfl

/-- No slash is dropped before the first question mark, unless it stands just before it. -/
theorem dropSlashBeforeQuery_append {cs rest : List Char} (h : '?' ∉ cs)
    (hrest : cs.getLast? ≠ some '/' ∨ rest.head? ≠ some '?') :
    dropSlashBeforeQuery (cs ++ rest) = cs ++ dropSlashBeforeQuery rest := by
  induction cs with
  | nil => rfl
  | cons c cs ih =>
    cases cs with
    | nil =>
      have hc : c ≠ '/' ∨ rest.head? ≠ some '?' := by
        rcases hrest with hrest | hrest
        · exact .inl fun he => hrest (congrArg some he)
        · exact .inr hrest
      exact dropSlashBeforeQuery_cons hc
    | cons d cs =>
      have hd : d ≠ '?' := fun he =>
        h (he ▸ List.mem_cons_of_mem _ List.mem_cons_self)
      have hnext : ((d :: cs) ++ rest).head? ≠ some '?' := fun he => hd (Option.some.inj he)
      have hmore := ih (fun hm => h (List.mem_cons_of_mem _ hm)) (by
        rwa [List.getLast?_cons_cons] at hrest)
      rw [List.cons_append, dropSlashBeforeQuery_cons (.inr hnext), hmore]
      rfl

/-- Nothing is dropped from a text without question marks. -/
theorem dropSlashBeforeQuery_of_not_mem {cs : List Char} (h : '?' ∉ cs) :
    dropSlashBeforeQuery cs = cs := by
  have hwhole : dropSlashBeforeQuery (cs ++ []) = cs ++ dropSlashBeforeQuery [] :=
    dropSlashBeforeQuery_append h (.inr (by decide))
  rwa [List.append_nil, dropSlashBeforeQuery, List.append_nil] at hwhole

/-- The slash before the first question mark is dropped. -/
theorem dropSlashBeforeQuery_of_getLast? {cs rest : List Char} (h : '?' ∉ cs)
    (hlast : cs.getLast? = some '/') :
    dropSlashBeforeQuery (cs ++ '?' :: rest) = dropLastSlash cs ++ '?' :: rest := by
  obtain ⟨before, rfl⟩ := List.getLast?_eq_some_iff.1 hlast
  have hbefore : '?' ∉ before := fun hm => h (List.mem_append_left _ hm)
  have hslash : dropSlashBeforeQuery ('/' :: '?' :: rest) = '?' :: rest := by
    rw [dropSlashBeforeQuery]
  have hhead : ('/' :: '?' :: rest).head? ≠ some '?' := fun he =>
    absurd (Option.some.inj he) (by decide)
  rw [List.append_assoc, List.singleton_append, dropSlashBeforeQuery_append hbefore (.inr hhead),
    hslash, dropLastSlash, if_pos hlast, List.dropLast_concat]

/-- Only the end of a text loses its last slash. -/
theorem dropLastSlash_append_of_ne_nil (cs : List Char) {rest : List Char} (h : rest ≠ []) :
    dropLastSlash (cs ++ rest) = cs ++ dropLastSlash rest := by
  obtain ⟨c, more, hcons⟩ := List.exists_cons_of_ne_nil h
  have hlast : (cs ++ rest).getLast? = rest.getLast? := by
    rw [hcons, List.getLast?_append, List.getLast?_cons, Option.some_or]
  rw [dropLastSlash, dropLastSlash, hlast]
  split
  · rw [List.dropLast_append_of_ne_nil h]
  · rfl

/-- Only the part behind a mark loses its last slash. -/
theorem dropLastSlash_append {c : Char} (hc : c ≠ '/') (cs rest : List Char) :
    dropLastSlash (cs ++ c :: rest) = cs ++ c :: dropLastSlash rest := by
  cases rest with
  | nil =>
    have hlast : ¬[c].getLast? = some '/' := fun he => hc (Option.some.inj he)
    rw [dropLastSlash_append_of_ne_nil cs (List.cons_ne_nil _ _), dropLastSlash, if_neg hlast]
    rfl
  | cons d rest =>
    have hsplit : cs ++ c :: d :: rest = (cs ++ [c]) ++ d :: rest := by
      rw [List.append_assoc, List.singleton_append]
    rw [hsplit, dropLastSlash_append_of_ne_nil _ (List.cons_ne_nil _ _), List.append_assoc,
      List.singleton_append]

/-- A text without slashes loses none at its end. -/
theorem dropLastSlash_of_not_mem {cs : List Char} (h : '/' ∉ cs) : dropLastSlash cs = cs :=
  if_neg fun hlast => h (List.mem_of_getLast? hlast)

/-- A text stays as it is exactly if no slash ends it. -/
theorem dropLastSlash_eq_self_iff {cs : List Char} :
    dropLastSlash cs = cs ↔ cs.getLast? ≠ some '/' := by
  constructor
  · intro h hlast
    obtain ⟨before, rfl⟩ := List.getLast?_eq_some_iff.1 hlast
    rw [dropLastSlash, if_pos hlast, List.dropLast_concat] at h
    exact List.cons_ne_nil _ _ (List.append_right_eq_self.1 h.symm)
  · intro h
    exact if_neg h

/-- Dropping slashes adds nothing. -/
theorem mem_of_mem_dropLastSlash {c : Char} {cs : List Char} (h : c ∈ dropLastSlash cs) :
    c ∈ cs := by
  unfold dropLastSlash at h
  split at h
  · exact List.dropLast_subset _ h
  · exact h

/-- Dropping slashes adds nothing. -/
theorem mem_of_mem_dropSlashBeforeQuery {c : Char} {cs : List Char}
    (h : c ∈ dropSlashBeforeQuery cs) : c ∈ cs := by
  fun_induction dropSlashBeforeQuery cs with
  | case1 rest => exact List.mem_cons_of_mem _ h
  | case2 d rest _ ih =>
    rcases List.mem_cons.1 h with h | h
    · exact h ▸ List.mem_cons_self
    · exact List.mem_cons_of_mem _ (ih h)
  | case3 => exact h

/-- What is left of a front and of a fragment once slashes are dropped. -/
structure Trimmed (front : List Char) (fragment : Option (List Char)) (front' : List Char)
    (fragment' : Option (List Char)) : Prop where
  /-- The front may have lost a slash at its end. -/
  front_eq : front' = front ∨ front' = dropLastSlash front
  /-- Without a fragment it has. -/
  without : fragment = none → fragment' = none ∧ front' = dropLastSlash front
  /-- The fragment has no other characters than before. -/
  subset : ∀ f', fragment' = some f' → ∃ f, fragment = some f ∧ ∀ c ∈ f', c ∈ f

/-- What stands before a front that is not empty stays. -/
theorem Trimmed.exists_append {before front front' : List Char}
    {fragment fragment' : Option (List Char)} (hne : front ≠ [])
    (h : Trimmed (before ++ front) fragment front' fragment') :
    ∃ rest, front' = before ++ rest ∧ Trimmed front fragment rest fragment' := by
  have hdrop := dropLastSlash_append_of_ne_nil before hne
  obtain ⟨hfront, hwithout, hsubset⟩ := h
  rw [hdrop] at hfront hwithout
  rcases hfront with hfront | hfront
  · refine ⟨front, hfront, .inl rfl, fun hnone => ?_, hsubset⟩
    obtain ⟨hnone', hsame⟩ := hwithout hnone
    exact ⟨hnone', List.append_cancel_left (hfront.symm.trans hsame)⟩
  · exact ⟨dropLastSlash front, hfront, .inr rfl, fun hnone => ⟨(hwithout hnone).1, rfl⟩, hsubset⟩

section Parts

variable {front : List Char} {query : Option (List Char)} (hfront : '?' ∉ front)
  (hquery : ∀ q, query = some q → '?' ∉ q ∧ '/' ∉ q)

include hfront hquery

/-- Without a fragment a slash is dropped from the end of the front and nowhere else. -/
theorem trimmed_without_fragment :
    trimmed (String.ofList (front ++ marked '?' query)) =
      String.ofList (dropLastSlash front ++ marked '?' query) := by
  have hmark : '?' ≠ '/' := by decide
  rw [trimmed, String.toList_ofList]
  cases query with
  | none => simp only [marked, List.append_nil, dropSlashBeforeQuery_of_not_mem hfront]
  | some q =>
    obtain ⟨hquestion, hslash⟩ := hquery q rfl
    by_cases hlast : front.getLast? = some '/'
    · rw [marked, dropSlashBeforeQuery_of_getLast? hfront hlast, dropLastSlash_append hmark,
        dropLastSlash_of_not_mem hslash]
    · have hkeep : dropLastSlash front = front := if_neg hlast
      rw [marked, dropSlashBeforeQuery_append hfront (.inl hlast),
        dropSlashBeforeQuery_cons (.inl hmark), dropSlashBeforeQuery_of_not_mem hquestion,
        dropLastSlash_append hmark, dropLastSlash_of_not_mem hslash, hkeep]

/-- A slash before the first question mark stands at the end of the front or in the fragment. -/
theorem dropSlashBeforeQuery_parts (f : List Char) :
    ∃ front' f', (front' = front ∨ front' = dropLastSlash front) ∧ (∀ c ∈ f', c ∈ f) ∧
      dropSlashBeforeQuery (front ++ marked '?' query ++ '#' :: f) =
        front' ++ marked '?' query ++ '#' :: f' := by
  have hmark : '?' ≠ '/' ∧ '#' ≠ '/' := by decide
  have hsign : ('#' :: f).head? ≠ some '?' := fun he =>
    absurd (Option.some.inj he) (by decide)
  have hsub : ∀ c ∈ dropSlashBeforeQuery f, c ∈ f := fun c hc => mem_of_mem_dropSlashBeforeQuery hc
  cases query with
  | none =>
    refine ⟨front, dropSlashBeforeQuery f, .inl rfl, hsub, ?_⟩
    rw [marked, List.append_nil, dropSlashBeforeQuery_append hfront (.inr hsign),
      dropSlashBeforeQuery_cons (.inl hmark.2)]
  | some q =>
    obtain ⟨hquestion, -⟩ := hquery q rfl
    simp only [marked, List.append_assoc, List.cons_append]
    by_cases hlast : front.getLast? = some '/'
    · refine ⟨dropLastSlash front, f, .inr rfl, fun c hc => hc, ?_⟩
      rw [dropSlashBeforeQuery_of_getLast? hfront hlast]
    · refine ⟨front, dropSlashBeforeQuery f, .inl rfl, hsub, ?_⟩
      rw [dropSlashBeforeQuery_append hfront (.inl hlast),
        dropSlashBeforeQuery_cons (.inl hmark.1),
        dropSlashBeforeQuery_append hquestion (.inr hsign),
        dropSlashBeforeQuery_cons (.inl hmark.2)]

/-- Slashes are dropped from the front and the fragment of a text, and not from a query that has
none. -/
theorem trimmed_parts (fragment : Option (List Char)) :
    ∃ front' fragment', Trimmed front fragment front' fragment' ∧
      trimmed (String.ofList (front ++ marked '?' query ++ marked '#' fragment)) =
        String.ofList (front' ++ marked '?' query ++ marked '#' fragment') := by
  cases fragment with
  | none =>
    refine ⟨dropLastSlash front, none, ⟨.inr rfl, fun _ => ⟨rfl, rfl⟩, fun f hf => by cases hf⟩, ?_⟩
    rw [marked, List.append_nil, List.append_nil]
    exact trimmed_without_fragment hfront hquery
  | some f =>
    have hmark : '#' ≠ '/' := by decide
    obtain ⟨front', f', hkept, hsub, hdrop⟩ := dropSlashBeforeQuery_parts hfront hquery f
    have hleft : Trimmed front (some f) front' (some (dropLastSlash f')) :=
      { front_eq := hkept
        without := fun hnone => absurd hnone (Option.some_ne_none f)
        subset := fun g hg => by
          cases hg
          exact ⟨f, rfl, fun c hc => hsub c (mem_of_mem_dropLastSlash hc)⟩ }
    refine ⟨front', some (dropLastSlash f'), hleft, ?_⟩
    rw [trimmed, String.toList_ofList, marked, hdrop, dropLastSlash_append hmark, marked]

end Parts

end PayLink.Link.Transaction
