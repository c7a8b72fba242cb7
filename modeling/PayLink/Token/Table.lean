import PayLink.Token
/-!
# Tables of known tokens

The decimal places of tokens by their mint. A table keeps its entries in the order of the mints'
bytes with one entry for each mint, so two tables that answer alike are equal.
-/

namespace PayLink

/-- Decimal places by mint. -/
structure TokenTable where
  /-- The entries, in the order of their mints. -/
  entries : List (Address × UInt8)
  /-- Mints increase from entry to entry. -/
  increasing : entries.Pairwise fun a b => a.1.bytes < b.1.bytes
  deriving DecidableEq

namespace TokenTable

/-- Sets the places of a mint in a list of entries. -/
def insertEntry (mint : Address) (places : UInt8) :
    List (Address × UInt8) → List (Address × UInt8)
  | [] => [(mint, places)]
  | e :: es =>
    if mint.bytes < e.1.bytes then (mint, places) :: e :: es
    else if e.1.bytes < mint.bytes then e :: insertEntry mint places es
    else (e.1, places) :: es

/-- What an insertion holds: mints of the old entries and the new one. -/
theorem mint_of_mem_insertEntry {mint : Address} {places : UInt8} {es : List (Address × UInt8)}
    {e : Address × UInt8} (h : e ∈ insertEntry mint places es) :
    e.1 = mint ∨ ∃ o ∈ es, o.1 = e.1 := by
  induction es with
  | nil =>
    simp only [insertEntry, List.mem_singleton] at h
    exact .inl (by rw [h])
  | cons o os ih =>
    simp only [insertEntry] at h
    split at h
    · rcases List.mem_cons.1 h with rfl | h
      · exact .inl rfl
      · exact .inr ⟨e, h, rfl⟩
    · split at h
      · rcases List.mem_cons.1 h with rfl | h
        · exact .inr ⟨e, by simp, rfl⟩
        · rcases ih h with h | ⟨p, hp, he⟩
          · exact .inl h
          · exact .inr ⟨p, by simp [hp], he⟩
      · rcases List.mem_cons.1 h with rfl | h
        · exact .inr ⟨o, by simp, rfl⟩
        · exact .inr ⟨e, by simp [h], rfl⟩

/-- An insertion keeps the order. -/
theorem increasing_insertEntry (mint : Address) (places : UInt8)
    {es : List (Address × UInt8)} (h : es.Pairwise fun a b => a.1.bytes < b.1.bytes) :
    (insertEntry mint places es).Pairwise fun a b => a.1.bytes < b.1.bytes := by
  induction es with
  | nil => simp [insertEntry]
  | cons o os ih =>
    obtain ⟨ho, hos⟩ := List.pairwise_cons.1 h
    simp only [insertEntry]
    split
    · rename_i hlt
      refine List.pairwise_cons.2 ⟨fun e he => ?_, h⟩
      rcases List.mem_cons.1 he with rfl | he
      · exact hlt
      · exact List.lt_trans hlt (ho e he)
    · split
      · rename_i hgt
        refine List.pairwise_cons.2 ⟨fun e he => ?_, ih hos⟩
        rcases mint_of_mem_insertEntry he with h | ⟨p, hp, hpe⟩
        · rw [h]; exact hgt
        · rw [← hpe]; exact ho p hp
      · exact List.pairwise_cons.2 ⟨ho, hos⟩

/-- The table without entries. -/
def empty : TokenTable :=
  ⟨[], .nil⟩

/-- Sets the places of a mint. -/
def insert (t : TokenTable) (mint : Address) (places : UInt8) : TokenTable :=
  ⟨insertEntry mint places t.entries, increasing_insertEntry mint places t.increasing⟩

/-- The table of entries in any order, of which a later one replaces an earlier one. -/
def ofList (es : List (Address × UInt8)) : TokenTable :=
  es.foldl (fun t e => t.insert e.1 e.2) empty

/-- The places of a mint. -/
def find? (t : TokenTable) (mint : Address) : Option UInt8 :=
  t.entries.lookup mint

end TokenTable

end PayLink
