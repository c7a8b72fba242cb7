import PayLink.Proofs.Url.Written
/-!
# A slash at the end of a path

The front of a link that leads to a host may end with a slash. Before a query the front is read
without that slash too: its authority is the same, and its path is the same or has one slash less at
its end. The path is the same where the slash is that of the root, and where dots stand before it.
-/

namespace PayLink.Url

namespace Path

/-- An empty segment behind other raw segments makes no difference or is one more segment: if dots
stand before it, they have left it already. -/
theorem resolve_append_nil {raws : List (List Char)} (hne : raws ≠ []) (done : List (List Char)) :
    resolve done (raws ++ [[]]) = resolve done raws ∨
      resolve done (raws ++ [[]]) = resolve done raws ++ [[]] := by
  induction raws generalizing done with
  | nil => exact absurd rfl hne
  | cons s raws ih =>
    cases raws with
    | nil =>
      have hlast : ∀ segments, step segments [] true = segments ++ [[]] := fun segments => by
        simp [step, isDoubleDot, isSingleDot]
      have htwo : resolve done ([s] ++ [[]]) = step done s false ++ [[]] := hlast _
      have hone : resolve done [s] = step done s true := rfl
      rw [htwo, hone, step, step]
      split
      · exact .inl (by simp)
      · split
        · exact .inl (by simp)
        · exact .inr rfl
    | cons t raws => exact ih (List.cons_ne_nil _ _) (step done s false)

/-- A slash at the end of a path makes no difference, or an empty segment. -/
theorem segments_append_slash (kind : SchemeKind) (cs : List Char) :
    segments kind (cs ++ ['/']) = segments kind cs ∨
      segments kind (cs ++ ['/']) = segments kind cs ++ [[]] := by
  have hsplit : split kind (cs ++ ['/']) = split kind cs ++ [[]] := by
    rw [split_eq, split_eq, List.splitOnP_append_cons _ _ (by simp [separates]), List.splitOnP_nil]
  have hne : (split kind cs).map (Percent.encode Percent.inPath) ≠ [] := by
    rw [Ne, List.map_eq_nil_iff, split_eq]
    exact List.splitOnP_ne_nil _ _
  rw [segments, segments, hsplit, List.map_append]
  exact resolve_append_nil hne []

/-- Without the slash at its end the path of a link that leads to a host is read as before, or
without a slash at its end. -/
theorem afterAuthority_append_slash (cs : List Char) :
    (LinkPath.rooted (afterAuthority .special cs)).text =
        (LinkPath.rooted (afterAuthority .special (cs ++ ['/']))).text ∨
      (LinkPath.rooted (afterAuthority .special (cs ++ ['/']))).text =
        (LinkPath.rooted (afterAuthority .special cs)).text ++ ['/'] := by
  have htext : ∀ ss : List (List Char), (LinkPath.rooted (ss ++ [[]])).text =
      (LinkPath.rooted ss).text ++ ['/'] := by
    intro ss
    rw [LinkPath.text, List.flatMap_append]
    rfl
  have hsegments : ∀ ds, (LinkPath.rooted (segments .special ds)).text =
        (LinkPath.rooted (segments .special (ds ++ ['/']))).text ∨
      (LinkPath.rooted (segments .special (ds ++ ['/']))).text =
        (LinkPath.rooted (segments .special ds)).text ++ ['/'] := by
    intro ds
    rcases segments_append_slash .special ds with hsame | hmore
    · exact .inl (by rw [hsame])
    · exact .inr (by rw [hmore, htext])
  cases cs with
  | nil => exact .inl (by decide)
  | cons c cs =>
    rw [List.cons_append, afterAuthority, afterAuthority]
    split
    · exact hsegments cs
    · exact hsegments (c :: cs)

end Path

/-- A slash at the end of an authority and path is one of the path. -/
theorem splitAuthority_append_slash (kind : SchemeKind) (cs : List Char) :
    splitAuthority kind (cs ++ ['/']) =
      ((splitAuthority kind cs).1, (splitAuthority kind cs).2 ++ ['/']) := by
  have hstep : ∀ c ds, splitAuthority kind (c :: ds) =
      if !(c = '/' || (kind.isSpecial && c = '\\')) then
        (c :: (splitAuthority kind ds).1, (splitAuthority kind ds).2)
      else ([], c :: ds) := by
    intro c ds
    simp only [splitAuthority, List.span_eq_takeWhile_dropWhile, List.takeWhile_cons,
      List.dropWhile_cons]
    split
    · rfl
    · rfl
  induction cs with
  | nil => rfl
  | cons c cs ih =>
    rw [List.cons_append, hstep, hstep, ih]
    split
    · rfl
    · rfl

/-- Before a query, an authority and path that end with a slash are read without it: the authority
stays, and the path stays or loses a slash at its end. -/
theorem readAfterSlashes_append_slash {scheme cs : List Char} {a : Authority} {path : LinkPath}
    (hspecial : SchemeKind.of scheme = .special)
    (h : readAfterSlashes scheme (cs ++ ['/']) true = .ok (a, path)) :
    ∃ path', readAfterSlashes scheme cs true = .ok (a, path') ∧
      (path'.text = path.text ∨ path.text = path'.text ++ ['/']) := by
  obtain ⟨rest, hauthority, rfl⟩ := readAfterSlashes_eq_ok_iff.1 h
  rw [splitAuthority_append_slash, Bool.not_true, Bool.and_false] at hauthority
  refine ⟨_, readAfterSlashes_eq_ok_iff.2 ⟨rest, ?_, rfl⟩, ?_⟩
  · rwa [Bool.not_true, Bool.and_false]
  · rw [splitAuthority_append_slash, hspecial, ← List.append_assoc]
    exact Path.afterAuthority_append_slash _

/-- Where nothing but slashes stands before a path there is no host. -/
theorem readAfterSlashes_nil {scheme : List Char} (hspecial : SchemeKind.of scheme = .special)
    {more : Bool} {a : Authority} {path : LinkPath} :
    readAfterSlashes scheme [] more ≠ .ok (a, path) := by
  intro h
  obtain ⟨rest, hauthority, -⟩ := readAfterSlashes_eq_ok_iff.1 h
  have hread : readHost scheme [] [] = .ok (a, rest) := hauthority
  have hempty := (readHost_eq_ok_iff.1 hread).1 rfl
  rw [hspecial] at hempty
  cases hempty

/-- Before a query, the front of a link that leads to a host is read without the slash at its end:
the authority stays, and the path stays or loses a slash at its end. -/
theorem readFront_append_slash {scheme front : List Char} {authority : Option Authority}
    {path : LinkPath} (hspecial : SchemeKind.of scheme = .special)
    (h : readFront scheme (front ++ ['/']) true = .ok (authority, path)) :
    ∃ path', readFront scheme front true = .ok (authority, path') ∧
      (path'.text = path.text ∨ path.text = path'.text ++ ['/']) := by
  have hread : ∀ cs, readFront scheme cs true =
      (readAfterSlashes scheme (cs.dropWhile isSlash) true).map fun p => (some p.1, p.2) := by
    intro cs
    simp only [readFront, hspecial]
  rw [hread] at h ⊢
  obtain ⟨⟨a, p⟩, hafter, hpair⟩ := map_eq_ok_iff.1 h
  obtain ⟨rfl, rfl⟩ := Prod.mk.inj hpair
  rw [List.dropWhile_append] at hafter
  split at hafter
  · exact absurd hafter (readAfterSlashes_nil hspecial)
  · obtain ⟨path', hread', hpath⟩ := readAfterSlashes_append_slash hspecial hafter
    exact ⟨path', map_eq_ok_iff.2 ⟨(a, path'), hread', rfl⟩, hpath⟩

end PayLink.Url
