import PayLink.Proofs.Url.Rereading
/-!
# Reading the text of a link

The text of a link that was read has the scheme of the link. Under a scheme that does not lead to a
host, what was read as segments is not read as a plain text again, unless there is nothing to read.
-/

namespace PayLink.Url

/-- Segments begin with a slash. -/
theorem head?_text_rooted (segments : List (List Char)) :
    (LinkPath.rooted segments).text = [] ∨ (LinkPath.rooted segments).text.head? = some '/' := by
  cases segments with
  | nil => exact .inl rfl
  | cons s segments => exact .inr rfl

/-- Behind the scheme of a link with segments there is nothing, or a slash or a mark. -/
theorem behind_of_rooted {u : Url} {segments : List (List Char)} (h : u.path = .rooted segments) :
    u.behind = [] ∨ ∃ c rest, u.behind = c :: rest ∧ (c = '/' ∨ c = '?' ∨ c = '#') := by
  have hlead : u.lead = [] ∨ u.lead.head? = some '/' := by
    rw [lead]
    split
    · exact .inr rfl
    · split
      · exact .inr rfl
      · exact .inl rfl
  have hcons : ∀ {c : Char} {cs : List Char} (more : List Char), cs.head? = some c →
      ∃ rest, cs ++ more = c :: rest := by
    intro c cs more hc
    cases cs with
    | nil => cases hc
    | cons d ds =>
      cases hc
      exact ⟨ds ++ more, rfl⟩
  rw [behind, List.append_assoc, List.append_assoc]
  rcases hlead with hlead | hlead
  · rw [hlead, List.nil_append, h]
    rcases head?_text_rooted segments with htext | htext
    · rw [htext, List.nil_append]
      cases u.query with
      | some q => exact .inr ⟨'?', _, rfl, .inr (.inl rfl)⟩
      | none =>
        cases u.fragment with
        | some f => exact .inr ⟨'#', _, rfl, .inr (.inr rfl)⟩
        | none => exact .inl rfl
    · obtain ⟨rest, hrest⟩ := hcons _ htext
      exact .inr ⟨'/', rest, hrest, .inl rfl⟩
  · obtain ⟨rest, hrest⟩ := hcons _ hlead
    exact .inr ⟨'/', rest, hrest, .inl rfl⟩

/-- What is read from the text of a link with segments has segments again, or an empty path. -/
theorem path_of_parse_text {u v : Url} {segments : List (List Char)}
    (hscheme : isScheme u.scheme = true) (hlower : u.scheme.map Char.toLower = u.scheme)
    (ho : SchemeKind.of u.scheme = .ordinary) (hpath : u.path = .rooted segments)
    (h : parse u.text = .ok v) : v.path.text = [] ∨ v.path.text.head? = some '/' := by
  obtain ⟨hread, -⟩ := (ofCleaned_eq_ok_iff (splitScheme?_text hscheme hlower)).1 h
  have hfront : (Tail.of (cleanedEnd u.behind)).front = [] ∨
      (Tail.of (cleanedEnd u.behind)).front.head? = some '/' := by
    rcases behind_of_rooted hpath with hb | ⟨c, rest, hb, hc⟩
    · rw [hb]
      exact .inl rfl
    · have hedge : isEdge c = false := by
        rcases hc with rfl | rfl | rfl
        all_goals rfl
      rw [hb, cleanedEnd_cons hedge, front_cons]
      rcases hc with rfl | hc
      · exact .inr rfl
      · rw [if_pos hc]
        exact .inl rfl
  rcases hfront with hfront | hfront
  · rw [hfront, readFront_rootless ho (by decide)] at hread
    have hempty : v.path = .rootless [] := (Prod.mk.inj (Except.ok.inj hread)).2.symm
    rw [hempty]
    exact .inl rfl
  · obtain ⟨segments', hsegments⟩ := readFront_rooted ho hfront hread
    rw [hsegments]
    exact head?_text_rooted segments'

end PayLink.Url
