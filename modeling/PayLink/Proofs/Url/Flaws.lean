import PayLink.Proofs.Url.Authority
/-!
# Links without a scheme

A text is refused as relative exactly if it has no scheme. Behind a scheme something else may be
wrong with a text, its host or its port, but it is never taken for a relative one.
-/

namespace PayLink.Url

namespace Host

/-- A host in brackets is not refused as relative. -/
theorem bracketed_ne_relative (inner : List Char) : bracketed inner ≠ .error .relative := by
  intro h
  unfold bracketed at h
  split at h
  · split at h
    · cases h
    · cases h
  · cases h

/-- A host under an ordinary scheme is not refused as relative. -/
theorem ordinary_ne_relative (cs : List Char) : ordinary cs ≠ .error .relative := by
  intro h
  unfold ordinary at h
  split at h
  · exact bracketed_ne_relative _ h
  · split at h
    · cases h
    · cases h

/-- A domain name or an address is not refused as relative. -/
theorem ofDomain_ne_relative (name : List Char) : ofDomain name ≠ .error .relative := by
  intro h
  unfold ofDomain at h
  split at h
  · cases h
  · split at h
    · split at h
      · cases h
      · cases h
    · cases h

/-- A host under a special scheme is not refused as relative. -/
theorem special_ne_relative (cs : List Char) : special cs ≠ .error .relative := by
  intro h
  unfold special at h
  split at h
  · exact bracketed_ne_relative _ h
  · split at h
    · cases h
    · exact ofDomain_ne_relative _ h

end Host

/-- A host is not refused as relative. -/
theorem hostOf_ne_relative (kind : SchemeKind) (cs : List Char) :
    hostOf kind cs ≠ .error .relative := by
  unfold hostOf
  split
  · exact Host.special_ne_relative cs
  · exact Host.ordinary_ne_relative cs

/-- A port is not refused as relative. -/
theorem portOf_ne_relative (scheme : List Char) (portText : Option (List Char)) :
    portOf scheme portText ≠ .error .relative := by
  intro h
  unfold portOf at h
  split at h
  · cases h
  · unfold readPort at h
    dsimp only at h
    split at h
    · cases h
    · split at h
      · cases h
      · cases h
      · cases h

/-- A host and a port are not refused as relative. -/
theorem readHost_ne_relative (scheme user cs : List Char) :
    readHost scheme user cs ≠ .error .relative := by
  intro h
  rw [readHost_eq] at h
  split at h
  · cases h
  · rcases bind_eq_error_iff.1 h with h | ⟨host, -, h⟩
    · exact hostOf_ne_relative _ _ h
    · unfold joinHost at h
      split at h
      · cases h
      · rcases bind_eq_error_iff.1 h with h | ⟨port, -, h⟩
        · exact portOf_ne_relative _ _ h
        · split at h
          · cases h
          · cases h

/-- An authority is not refused as relative. -/
theorem readAuthority_ne_relative (scheme cs : List Char) (endsText : Bool) :
    readAuthority scheme cs endsText ≠ .error .relative := by
  intro h
  unfold readAuthority at h
  split at h
  · exact readHost_ne_relative _ _ _ h
  · split at h
    · exact readHost_ne_relative _ _ _ h
    · cases h
  · exact readHost_ne_relative _ _ _ h

/-- What stands behind two slashes is not refused as relative. -/
theorem readAfterSlashes_ne_relative (scheme cs : List Char) (hasMore : Bool) :
    readAfterSlashes scheme cs hasMore ≠ .error .relative := by
  intro h
  rcases bind_eq_error_iff.1 h with h | ⟨read, -, h⟩
  · exact readAuthority_ne_relative _ _ _ h
  · cases h

/-- What a link to a file names is not refused as relative. -/
theorem readFile_ne_relative (cs : List Char) : readFile cs ≠ .error .relative := by
  intro h
  unfold readFile at h
  split at h
  · split at h
    · rcases bind_eq_error_iff.1 h with h | ⟨host, -, h⟩
      · unfold readFileHost at h
        split at h
        · cases h
        · rcases bind_eq_error_iff.1 h with h | ⟨host, -, h⟩
          · exact Host.special_ne_relative _ h
          · cases h
      · cases h
    · cases h
  · cases h

/-- What stands behind a scheme is not refused as relative. -/
theorem readFront_ne_relative (scheme front : List Char) (hasMore : Bool) :
    readFront scheme front hasMore ≠ .error .relative := by
  have hmap : ∀ {α β : Type} {x : Except Flaw α} {f : α → β}, x.map f = .error .relative →
      x = .error .relative := by
    intro α β x f h
    cases x with
    | error flaw => exact congrArg _ (Except.error.inj h)
    | ok a => cases h
  intro h
  unfold readFront at h
  split at h
  · exact readFile_ne_relative _ (hmap h)
  · exact readAfterSlashes_ne_relative _ _ _ (hmap h)
  · split at h
    · exact readAfterSlashes_ne_relative _ _ _ (hmap h)
    · cases h
    · cases h

/-- Exactly a text without a scheme is refused as relative. -/
theorem parse_eq_relative_iff {s : String} :
    parse s = .error .relative ↔ splitScheme? (cleaned s.toList) = none := by
  unfold parse ofCleaned
  constructor
  · intro h
    split at h
    · assumption
    · dsimp only at h
      split at h
      · rename_i hfront
        cases h
        exact absurd hfront (readFront_ne_relative _ _ _)
      · cases h
  · intro h
    rw [h]

/-- A text that a slash begins has no scheme. -/
theorem parse_eq_relative_of_slash {link : String} (h : link.toList.head? = some '/') :
    parse link = .error .relative := by
  obtain ⟨rest, hlink⟩ := List.head?_eq_some_iff.1 h
  have hclean : cleaned link.toList = '/' :: cleanedEnd rest := by
    rw [hlink]
    exact cleaned_append_cons (by decide) [] rest
  rw [parse_eq_relative_iff, hclean]
  unfold splitScheme?
  split
  · rename_i raw after hcut
    obtain ⟨rfl, -⟩ := Prod.mk.inj hcut
    exact if_neg Bool.false_ne_true
  · rfl

end PayLink.Url
