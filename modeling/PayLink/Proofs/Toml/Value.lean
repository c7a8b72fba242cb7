import PayLink.Proofs.Toml.Text
import PayLink.Toml.Reader
/-!
# Keys and values that end before a quote

What one step reads of a key, of a value, of the items of an array and of the members of a table is
said once. From it follows that more steps make no difference, and that what ends before a quote is
read whatever stands behind that quote.
-/

namespace PayLink.Toml

open PayLink.Json

section Keys

variable {n : ℕ} {c : Char} {cs rest : List Char} {k : String} {ks : List String}

/-- A part of a key between quotes. -/
theorem keyPart?_quoted (hc : IsQuote c) (cs : List Char) :
    keyPart? (c :: cs) = (inLine? c cs).map fun p => (String.ofList p.1, p.2) := by
  rcases hc with rfl | rfl
  all_goals rfl

/-- A part of a key without quotes. -/
theorem keyPart?_bare (h : ∀ c ∈ cs.head?, ¬IsQuote c) :
    keyPart? cs = some (k, rest) ↔ cs.takeWhile isKeyChar ≠ [] ∧
      String.ofList (cs.takeWhile isKeyChar) = k ∧
      cs.drop (cs.takeWhile isKeyChar).length = rest := by
  have hkey : keyPart? cs = if (cs.takeWhile isKeyChar).isEmpty then none
      else some (String.ofList (cs.takeWhile isKeyChar),
        cs.drop (cs.takeWhile isKeyChar).length) := by
    unfold keyPart?
    split
    · exact absurd (.inl rfl) (h _ rfl)
    · exact absurd (.inr rfl) (h _ rfl)
    · rfl
  rw [hkey]
  by_cases hnil : cs.takeWhile isKeyChar = []
  · simp [hnil]
  · simp [hnil]

/-- A part of a key takes something from the text. -/
theorem keyPart?_shortens (h : keyPart? cs = some (k, rest)) : Shortens cs rest := by
  by_cases hquote : ∃ c cs', IsQuote c ∧ cs = c :: cs'
  · obtain ⟨c, cs', hc, rfl⟩ := hquote
    rw [keyPart?_quoted hc] at h
    obtain ⟨p, hp, hrest⟩ := Option.map_eq_some_iff.1 h
    obtain ⟨-, rfl⟩ := Prod.mk.inj hrest
    exact .of_suffix (inLine?_shortens hp).1
  · have hbare : ∀ c ∈ cs.head?, ¬IsQuote c := by
      intro c hc hquote'
      obtain ⟨cs', rfl⟩ := List.head?_eq_some_iff.1 hc
      exact hquote ⟨c, cs', hquote', rfl⟩
    obtain ⟨hne, -, rfl⟩ := (keyPart?_bare hbare).1 h
    have hpos := List.length_pos_iff.2 hne
    have hlength : (cs.takeWhile isKeyChar).length ≤ cs.length :=
      (List.takeWhile_prefix _).length_le
    exact ⟨List.drop_suffix _ _, by rw [List.length_drop]; omega⟩

/-- One part of a key, and the parts behind a point. -/
theorem key?_succ_eq_some_iff :
    key? (n + 1) cs = some (ks, rest) ↔ ∃ k mid, keyPart? (skipBlanks cs) = some (k, mid) ∧
      ((∃ more ks', skipBlanks mid = '.' :: more ∧ key? n more = some (ks', rest) ∧
          k :: ks' = ks) ∨
        ((skipBlanks mid).head? ≠ some '.' ∧ [k] = ks ∧ skipBlanks mid = rest)) := by
  rw [key?]
  simp only [Option.bind_eq_bind, Option.bind_eq_some_iff, Prod.exists]
  refine exists_congr fun k => exists_congr fun mid => and_congr_right fun _ => ?_
  by_cases hpoint : ∃ more, skipBlanks mid = '.' :: more
  · obtain ⟨more, hmore⟩ := hpoint
    simp [hmore, Option.bind_eq_some_iff]
  · have hhead : (skipBlanks mid).head? ≠ some '.' := fun hhead =>
      hpoint (List.head?_eq_some_iff.1 hhead)
    split
    · rename_i more hmore
      exact absurd ⟨more, hmore⟩ hpoint
    · rw [Option.some.injEq, Prod.mk.injEq]
      refine ⟨fun h => .inr ⟨hhead, h⟩, ?_⟩
      rintro (⟨more, -, hmore, -⟩ | ⟨-, h⟩)
      · exact absurd ⟨more, hmore⟩ hpoint
      · exact h

/-- Behind a key is an end of the text. -/
theorem key?_suffix (h : key? n cs = some (ks, rest)) : rest <:+ cs := by
  induction n generalizing cs ks with
  | zero => cases h
  | succ n ih =>
    obtain ⟨k, mid, hk, ⟨more, ks', hmore, hks, -⟩ | ⟨-, -, rfl⟩⟩ := key?_succ_eq_some_iff.1 h
    · have hblanks := skipBlanks_suffix mid
      rw [hmore] at hblanks
      exact (ih hks).trans ((List.suffix_cons _ _).trans (hblanks.trans
        ((keyPart?_shortens hk).1.trans (skipBlanks_suffix cs))))
    · exact (skipBlanks_suffix mid).trans
        ((keyPart?_shortens hk).1.trans (skipBlanks_suffix cs))

end Keys

/-- A part of a key is read whatever stands behind a quote that is left. -/
theorem local_keyPart? : Local fun _ cs k rest => keyPart? cs = some (k, rest) where
  suffix h := (keyPart?_shortens h).1
  behind := by
    rintro q hq u w x n k h m - y
    rcases u with - | ⟨c, u⟩
    · exact absurd (keyPart?_shortens h) Shortens.not_append
    by_cases hc : IsQuote c
    · rw [List.cons_append, keyPart?_quoted hc] at h ⊢
      obtain ⟨p, hp, hrest⟩ := Option.map_eq_some_iff.1 h
      obtain ⟨hk, hw⟩ := Prod.mk.inj hrest
      have hp' : inLine? c (u ++ q :: x) = some (p.1, w ++ q :: x) := by rw [hp, ← hw]
      have hother := (local_inLine? c).behind (n := n) hq hp' (Nat.lt_succ_self _) y
      exact Option.map_eq_some_iff.2 ⟨_, hother, by rw [← hk]⟩
    · have hbare : ∀ t, ∀ d ∈ (c :: u ++ q :: t).head?, ¬IsQuote d := by
        intro t d hd
        rwa [← Option.some.inj hd]
      have hkey : isKeyChar q = false := by
        rcases hq with rfl | rfl
        all_goals decide
      have hlength : ((c :: u).takeWhile isKeyChar).length ≤ (c :: u).length :=
        (List.takeWhile_prefix _).length_le
      rw [keyPart?_bare (hbare _), takeWhile_append_stop hkey,
        List.drop_append_of_le_length hlength] at h ⊢
      exact ⟨h.1, h.2.1, by rw [List.append_cancel_right h.2.2]⟩

/-- A key is read whatever stands behind a quote that is left. -/
theorem local_key? : Local fun n cs ks rest => key? n cs = some (ks, rest) where
  suffix := key?_suffix
  behind := by
    rintro q hq u w x n ks h m hm y
    induction n generalizing u m ks with
    | zero => cases h
    | succ n ih =>
      obtain ⟨m, rfl⟩ : ∃ k, m = k + 1 := ⟨m - 1, by omega⟩
      have hlength : (skipBlanks u).length ≤ u.length := (skipBlanks_suffix u).length_le
      obtain ⟨k, mid, hk, hmid⟩ := key?_succ_eq_some_iff.1 h
      have hleft : w ++ q :: x <:+ skipBlanks mid := by
        obtain ⟨more, ks', hmore, hks, -⟩ | ⟨-, -, hrest⟩ := hmid
        · rw [hmore]
          exact (key?_suffix hks).trans (List.suffix_cons _ _)
        · exact hrest ▸ List.suffix_rfl
      have hshorter := keyPart?_shortens hk
      rw [skipBlanks_append hq] at hk hshorter
      obtain ⟨v, rfl, hv⟩ := exists_of_suffix (hleft.trans (skipBlanks_suffix mid)) hshorter.1
      have hv' : (skipBlanks v).length ≤ v.length := (skipBlanks_suffix v).length_le
      have hk' := local_keyPart?.behind (n := n) hq hk (Nat.lt_succ_self _) y
      rw [skipBlanks_append hq] at hmid
      rw [key?_succ_eq_some_iff, skipBlanks_append hq]
      refine ⟨k, v ++ q :: y, hk', ?_⟩
      rw [skipBlanks_append hq]
      cases hpoint : skipBlanks v with
      | nil =>
        rw [hpoint] at hmid
        have hdot : q ≠ '.' := hq.ne (by decide)
        obtain ⟨more, ks', hmore, -⟩ | ⟨-, hks, hw⟩ := hmid
        · exact absurd (List.cons.inj hmore).1 hdot
        · refine .inr ⟨fun he => hdot (Option.some.inj he), hks, ?_⟩
          rw [List.append_cancel_right hw]
      | cons d v' =>
        rw [hpoint] at hmid
        rw [hpoint, List.length_cons] at hv'
        refine hmid.imp ?_ ?_
        · rintro ⟨more, ks', hmore, hks, hcons⟩
          obtain ⟨rfl, rfl⟩ := List.cons.inj hmore
          have hshort := hshorter.2
          simp only [List.length_append, List.length_cons] at hshort
          exact ⟨v' ++ q :: y, ks', rfl, ih hks (by omega), hcons⟩
        · rintro ⟨hhead, hks, hw⟩
          exact ⟨hhead, hks, by rw [List.append_cancel_right hw]⟩

/-- A character that must begin a text. -/
theorem expect?_eq_some_iff {c : Char} {cs rest : List Char} :
    expect? c cs = some rest ↔ cs = c :: rest := by
  cases cs with
  | nil => exact iff_of_false (fun h => by cases h) fun h => by cases h
  | cons d cs =>
    rw [expect?]
    by_cases hd : d = c
    · simp [hd]
    · simp [hd]

section Steps

variable {levels n : ℕ} {cs rest : List Char} {v : Value} {vs : List Value} {ms ms' : Members}

/-- A text begins with none of the marks of an array, a table and a string. -/
def BeginsWord (cs : List Char) : Prop :=
  ∀ c ∈ cs.head?, c ≠ '[' ∧ c ≠ '{' ∧ ¬IsQuote c

/-- The four kinds of values are told apart by their first character. -/
theorem value_cases (cs : List Char) :
    (∃ rest, cs = '[' :: rest) ∨ (∃ rest, cs = '{' :: rest) ∨
      (∃ c rest, IsQuote c ∧ cs = c :: rest) ∨ BeginsWord cs := by
  rcases cs with - | ⟨c, rest⟩
  · exact .inr (.inr (.inr fun c hc => by cases hc))
  by_cases hbracket : c = '['
  · exact .inl ⟨rest, by rw [hbracket]⟩
  by_cases hbrace : c = '{'
  · exact .inr (.inl ⟨rest, by rw [hbrace]⟩)
  by_cases hquote : IsQuote c
  · exact .inr (.inr (.inl ⟨c, rest, hquote, rfl⟩))
  · refine .inr (.inr (.inr fun d hd => ?_))
    rw [← Option.some.inj hd]
    exact ⟨hbracket, hbrace, hquote⟩

/-- The items of an array behind its bracket. -/
theorem value?_array_eq_some_iff :
    value? levels (n + 1) ('[' :: cs) = some (v, rest) ↔ levels ≠ 0 ∧
      ∃ vs, items? (levels - 1) n cs = some (vs, rest) ∧ .array vs = v := by
  rw [value?]
  split
  · rename_i hzero
    exact iff_of_false (fun h => by cases h) fun h => h.1 hzero
  · rename_i hzero
    simp [hzero]

/-- The members of a table behind its brace. -/
theorem value?_table_eq_some_iff :
    value? levels (n + 1) ('{' :: cs) = some (v, rest) ↔ levels ≠ 0 ∧
      ∃ ms, pairs? (levels - 1) n [] cs = some (ms, rest) ∧ .object (membersToValue ms) = v := by
  rw [value?]
  split
  · rename_i hzero
    exact iff_of_false (fun h => by cases h) fun h => h.1 hzero
  · rename_i hzero
    simp [hzero]

/-- A string. -/
theorem value?_string_eq_some_iff {c : Char} (hc : IsQuote c) :
    value? levels (n + 1) (c :: cs) = some (v, rest) ↔
      ∃ s, string? (c :: cs) = some (s, rest) ∧ .text (String.ofList s) = v := by
  have hstring : value? levels (n + 1) (c :: cs) =
      (string? (c :: cs)).map fun p => (.text (String.ofList p.1), p.2) := by
    rcases hc with rfl | rfl
    all_goals rw [value?]
  simp [hstring]

/-- A single word. -/
theorem value?_word_eq_some_iff (h : BeginsWord cs) :
    value? levels (n + 1) cs = some (v, rest) ↔
      scalar? (splitWord cs).1 = some v ∧ (splitWord cs).2 = rest := by
  have hmark : ∀ {c : Char}, c = '[' ∨ c = '{' ∨ IsQuote c → ∀ rest, cs = c :: rest → False := by
    rintro c hc rest rfl
    obtain ⟨hbracket, hbrace, hquote⟩ := h c rfl
    rcases hc with hc | hc | hc
    · exact hbracket hc
    · exact hbrace hc
    · exact hquote hc
  rw [value?, Option.map_eq_some_iff]
  · constructor
    · rintro ⟨v', hv, hrest⟩
      obtain ⟨rfl, hleft⟩ := Prod.mk.inj hrest
      exact ⟨hv, hleft⟩
    · rintro ⟨hv, hleft⟩
      exact ⟨v, hv, by rw [← hleft]⟩
  · exact hmark (.inl rfl)
  · exact hmark (.inr (.inl rfl))
  · exact hmark (.inr (.inr (.inl rfl)))
  · exact hmark (.inr (.inr (.inr rfl)))

/-- One item of an array, and the items behind a comma. -/
theorem items?_succ_eq_some_iff :
    items? levels (n + 1) cs = some (vs, rest) ↔ ∃ cs', skipSpace? cs = some cs' ∧
      (cs' = ']' :: rest ∧ [] = vs ∨
        cs'.head? ≠ some ']' ∧ ∃ v mid mid', value? levels n cs' = some (v, mid) ∧
          skipSpace? mid = some mid' ∧
            ((∃ more vs', mid' = ',' :: more ∧ items? levels n more = some (vs', rest) ∧
                v :: vs' = vs) ∨
              mid' = ']' :: rest ∧ [v] = vs)) := by
  rw [items?]
  simp only [Option.bind_eq_bind, Option.bind_eq_some_iff]
  refine exists_congr fun cs' => and_congr_right fun _ => ?_
  by_cases hend : ∃ rest', cs' = ']' :: rest'
  · obtain ⟨rest', rfl⟩ := hend
    simp [and_comm]
  · have hhead : cs'.head? ≠ some ']' := fun hhead => hend (List.head?_eq_some_iff.1 hhead)
    split
    · rename_i rest' _
      exact absurd ⟨rest', rfl⟩ hend
    · simp only [Option.bind_eq_some_iff, Prod.exists]
      constructor
      · rintro ⟨v, mid, hv, mid', hmid, hnext⟩
        refine .inr ⟨hhead, v, mid, mid', hv, hmid, ?_⟩
        split at hnext
        · rename_i more
          obtain ⟨p, hp, hrest⟩ := Option.bind_eq_some_iff.1 hnext
          obtain ⟨hvs, rfl⟩ := Prod.mk.inj (Option.some.inj hrest)
          exact .inl ⟨more, p.1, rfl, hp, hvs⟩
        · obtain ⟨hvs, rfl⟩ := Prod.mk.inj (Option.some.inj hnext)
          exact .inr ⟨rfl, hvs⟩
        · cases hnext
      · rintro (⟨hclosing, -⟩ | ⟨-, v, mid, mid', hv, hmid, hnext⟩)
        · exact absurd ⟨rest, hclosing⟩ hend
        refine ⟨v, mid, hv, mid', hmid, ?_⟩
        obtain ⟨more, vs', rfl, hvs, rfl⟩ | ⟨rfl, rfl⟩ := hnext
        · exact Option.bind_eq_some_iff.2 ⟨_, hvs, rfl⟩
        · rfl

/-- One member of a table, and the members behind a comma. -/
theorem pairs?_succ_eq_some_iff :
    pairs? levels (n + 1) ms cs = some (ms', rest) ↔ ∃ cs', skipSpace? cs = some cs' ∧
      (cs' = '}' :: rest ∧ ms = ms' ∨
        cs'.head? ≠ some '}' ∧ ∃ k after v mid next mid',
          key? (cs'.length + 1) cs' = some (k, '=' :: after) ∧
            value? levels n (skipBlanks after) = some (v, mid) ∧ ms.define v k = some next ∧
              skipSpace? mid = some mid' ∧
                ((∃ more, mid' = ',' :: more ∧
                    pairs? levels n next more = some (ms', rest)) ∨
                  mid' = '}' :: rest ∧ next = ms')) := by
  rw [pairs?]
  simp only [Option.bind_eq_bind, Option.bind_eq_some_iff]
  refine exists_congr fun cs' => and_congr_right fun _ => ?_
  by_cases hend : ∃ rest', cs' = '}' :: rest'
  · obtain ⟨rest', rfl⟩ := hend
    simp [and_comm]
  · have hhead : cs'.head? ≠ some '}' := fun hhead => hend (List.head?_eq_some_iff.1 hhead)
    split
    · rename_i rest' _
      exact absurd ⟨rest', rfl⟩ hend
    · simp only [Option.bind_eq_some_iff, Prod.exists, expect?_eq_some_iff]
      constructor
      · rintro ⟨k, b, hk, after, rfl, v, mid, hv, next, hnext, mid', hmid, hmore⟩
        refine .inr ⟨hhead, k, after, v, mid, next, mid', hk, hv, hnext, hmid, ?_⟩
        split at hmore
        · rename_i more
          exact .inl ⟨more, rfl, hmore⟩
        · obtain ⟨hms, rfl⟩ := Prod.mk.inj (Option.some.inj hmore)
          exact .inr ⟨rfl, hms⟩
        · cases hmore
      · rintro (⟨hclosing, -⟩ | ⟨-, k, after, v, mid, next, mid', hk, hv, hnext, hmid, hmore⟩)
        · exact absurd ⟨rest, hclosing⟩ hend
        refine ⟨k, _, hk, after, rfl, v, mid, hv, next, hnext, mid', hmid, ?_⟩
        obtain ⟨more, rfl, hms⟩ | ⟨rfl, rfl⟩ := hmore
        · exact hms
        · rfl

end Steps

/-- Behind a word is an end of the text. -/
theorem splitWord_suffix (cs : List Char) : (splitWord cs).2 <:+ cs := by
  have hrest : cs.drop (cs.takeWhile isWordChar).length <:+ cs := List.drop_suffix _ _
  unfold splitWord
  dsimp only
  split
  · split
    · exact (List.drop_suffix _ _).trans hrest
    · exact hrest
  · exact hrest

/-- What is left of a value, of items and of members is an end of the text. -/
theorem suffix_of_reads (n : ℕ) :
    (∀ {levels cs v rest}, value? levels n cs = some (v, rest) → rest <:+ cs) ∧
    (∀ {levels cs vs rest}, items? levels n cs = some (vs, rest) → rest <:+ cs) ∧
    (∀ {levels ms cs ms' rest}, pairs? levels n ms cs = some (ms', rest) → rest <:+ cs) := by
  induction n with
  | zero =>
    refine ⟨fun h => ?_, fun h => ?_, fun h => ?_⟩
    · rw [value?] at h
      cases h
    · rw [items?] at h
      cases h
    · rw [pairs?] at h
      cases h
  | succ n ih =>
    obtain ⟨hvalue, hitems, hpairs⟩ := ih
    refine ⟨fun {levels cs v rest} h => ?_, fun {levels cs vs rest} h => ?_,
      fun {levels ms cs ms' rest} h => ?_⟩
    · obtain ⟨cs, rfl⟩ | ⟨cs, rfl⟩ | ⟨c, cs, hc, rfl⟩ | hword := value_cases cs
      · obtain ⟨-, vs, hvs, -⟩ := value?_array_eq_some_iff.1 h
        exact (hitems hvs).trans (List.suffix_cons _ _)
      · obtain ⟨-, ms, hms, -⟩ := value?_table_eq_some_iff.1 h
        exact (hpairs hms).trans (List.suffix_cons _ _)
      · obtain ⟨s, hs, -⟩ := (value?_string_eq_some_iff hc).1 h
        exact (string?_shortens hs).1.trans (List.suffix_cons _ _)
      · obtain ⟨-, rfl⟩ := (value?_word_eq_some_iff hword).1 h
        exact splitWord_suffix cs
    · obtain ⟨cs', hcs, ⟨rfl, -⟩ | ⟨-, v, mid, mid', hv, hmid, hnext⟩⟩ := items?_succ_eq_some_iff.1 h
      · exact (List.suffix_cons _ _).trans (skipLines?_suffix hcs)
      have hmid' : mid' <:+ cs :=
        (skipLines?_suffix hmid).trans ((hvalue hv).trans (skipLines?_suffix hcs))
      obtain ⟨more, vs', rfl, hvs, -⟩ | ⟨rfl, -⟩ := hnext
      · exact (hitems hvs).trans ((List.suffix_cons _ _).trans hmid')
      · exact (List.suffix_cons _ _).trans hmid'
    · obtain ⟨cs', hcs, ⟨rfl, -⟩ | ⟨-, k, after, v, mid, next, mid', hk, hv, -, hmid, hnext⟩⟩ :=
        pairs?_succ_eq_some_iff.1 h
      · exact (List.suffix_cons _ _).trans (skipLines?_suffix hcs)
      have hafter : after <:+ cs :=
        (List.suffix_cons _ _).trans ((key?_suffix hk).trans (skipLines?_suffix hcs))
      have hmid' : mid' <:+ cs :=
        (skipLines?_suffix hmid).trans ((hvalue hv).trans ((skipBlanks_suffix after).trans hafter))
      obtain ⟨more, rfl, hms⟩ | ⟨rfl, -⟩ := hnext
      · exact (hpairs hms).trans ((List.suffix_cons _ _).trans hmid')
      · exact (List.suffix_cons _ _).trans hmid'

/-- More steps and more levels make no difference to what is read. -/
theorem mono_of_reads (n : ℕ) :
    (∀ {levels cs v rest}, value? levels n cs = some (v, rest) →
      ∀ {l m}, levels ≤ l → n ≤ m → value? l m cs = some (v, rest)) ∧
    (∀ {levels cs vs rest}, items? levels n cs = some (vs, rest) →
      ∀ {l m}, levels ≤ l → n ≤ m → items? l m cs = some (vs, rest)) ∧
    (∀ {levels ms cs ms' rest}, pairs? levels n ms cs = some (ms', rest) →
      ∀ {l m}, levels ≤ l → n ≤ m → pairs? l m ms cs = some (ms', rest)) := by
  induction n with
  | zero =>
    refine ⟨fun h => ?_, fun h => ?_, fun h => ?_⟩
    · rw [value?] at h
      cases h
    · rw [items?] at h
      cases h
    · rw [pairs?] at h
      cases h
  | succ n ih =>
    obtain ⟨hvalue, hitems, hpairs⟩ := ih
    refine ⟨fun {levels cs v rest} h {l m} hl hm => ?_, fun {levels cs vs rest} h {l m} hl hm => ?_,
      fun {levels ms cs ms' rest} h {l m} hl hm => ?_⟩
    all_goals
      obtain ⟨m, rfl⟩ : ∃ k, m = k + 1 := ⟨m - 1, by omega⟩
      replace hm : n ≤ m := Nat.le_of_succ_le_succ hm
    · obtain ⟨cs, rfl⟩ | ⟨cs, rfl⟩ | ⟨c, cs, hc, rfl⟩ | hword := value_cases cs
      · obtain ⟨hzero, vs, hvs, hv⟩ := value?_array_eq_some_iff.1 h
        exact value?_array_eq_some_iff.2 ⟨by omega, vs, hitems hvs (by omega) hm, hv⟩
      · obtain ⟨hzero, ms, hms, hv⟩ := value?_table_eq_some_iff.1 h
        exact value?_table_eq_some_iff.2 ⟨by omega, ms, hpairs hms (by omega) hm, hv⟩
      · rwa [value?_string_eq_some_iff hc] at h ⊢
      · rwa [value?_word_eq_some_iff hword] at h ⊢
    · rw [items?_succ_eq_some_iff] at h ⊢
      obtain ⟨cs', hcs, h⟩ := h
      refine ⟨cs', hcs, h.imp_right ?_⟩
      rintro ⟨hhead, v, mid, mid', hv, hmid, hnext⟩
      refine ⟨hhead, v, mid, mid', hvalue hv hl hm, hmid, hnext.imp_left ?_⟩
      rintro ⟨more, vs', hmore, hvs, hcons⟩
      exact ⟨more, vs', hmore, hitems hvs hl hm, hcons⟩
    · rw [pairs?_succ_eq_some_iff] at h ⊢
      obtain ⟨cs', hcs, h⟩ := h
      refine ⟨cs', hcs, h.imp_right ?_⟩
      rintro ⟨hhead, k, after, v, mid, next, mid', hk, hv, hnext, hmid, hmore⟩
      refine ⟨hhead, k, after, v, mid, next, mid', hk, hvalue hv hl hm, hnext, hmid,
        hmore.imp_left ?_⟩
      rintro ⟨more, hcomma, hms⟩
      exact ⟨more, hcomma, hpairs hms hl hm⟩

/-- A word before a quote. -/
theorem splitWord_append {q : Char} (hq : IsQuote q) (u x : List Char) :
    splitWord (u ++ q :: x) = ((splitWord u).1, (splitWord u).2 ++ q :: x) := by
  have hword : isWordChar q = false := by
    rcases hq with rfl | rfl
    all_goals decide
  have hdigit : q.isDigit = false := by
    rcases hq with rfl | rfl
    all_goals decide
  have hspace : q ≠ ' ' := hq.ne (by decide)
  have hlength : ∀ v : List Char, (v.takeWhile isWordChar).length ≤ v.length := fun v =>
    (List.takeWhile_prefix _).length_le
  unfold splitWord
  dsimp only
  rw [takeWhile_append_stop hword, List.drop_append_of_le_length (hlength u)]
  rcases u.drop (u.takeWhile isWordChar).length with - | ⟨c, - | ⟨d, v⟩⟩
  · simp [hspace]
  · by_cases hc : c = ' '
    · simp [hc, hdigit]
    · simp [hc]
  · by_cases hc : c = ' '
    · subst hc
      have hmore : (d :: v ++ q :: x).takeWhile isWordChar = (d :: v).takeWhile isWordChar :=
        takeWhile_append_stop hword (d :: v) x
      have hdrop : (' ' :: (d :: v ++ q :: x)).drop (((d :: v).takeWhile isWordChar).length + 1) =
          (d :: v).drop ((d :: v).takeWhile isWordChar).length ++ q :: x := by
        rw [List.drop_succ_cons, List.drop_append_of_le_length (hlength (d :: v))]
      simp only [List.cons_append] at hmore hdrop
      simp only [List.cons_append, List.drop_succ_cons, List.drop_zero, hmore, hdrop]
      split
      · rfl
      · rfl
    · simp [hc]

/-- A text that goes on with a quote begins as it does whatever stands behind the quote. -/
theorem head?_append_quote {q : Char} (u x y : List Char) :
    (u ++ q :: x).head? = (u ++ q :: y).head? := by
  cases u with
  | nil => rfl
  | cons c u => rfl

/-- A mark that begins what is left before a quote stands before the quote. -/
theorem exists_of_append_quote {q mark : Char} (hmark : q ≠ mark) {u x rest : List Char}
    (h : u ++ q :: x = mark :: rest) : ∃ v, u = mark :: v ∧ rest = v ++ q :: x := by
  cases u with
  | nil => exact absurd (List.cons.inj h).1 hmark
  | cons c u =>
    obtain ⟨rfl, rfl⟩ := List.cons.inj h
    exact ⟨u, rfl, rfl⟩

/-- What `n` steps read in front of the quote `q` is read whatever stands behind the quote, if there
are two steps for each character before it and one or two more. -/
structure Behind (q : Char) (n : ℕ) : Prop where
  /-- A value takes a step of its own. -/
  value : ∀ {levels u w x v}, value? levels n (u ++ q :: x) = some (v, w ++ q :: x) →
    ∀ {m}, 2 * u.length < m → ∀ y, value? levels m (u ++ q :: y) = some (v, w ++ q :: y)
  /-- The items of an array take one more. -/
  items : ∀ {levels u w x vs}, items? levels n (u ++ q :: x) = some (vs, w ++ q :: x) →
    ∀ {m}, 2 * u.length + 1 < m → ∀ y, items? levels m (u ++ q :: y) = some (vs, w ++ q :: y)
  /-- The members of a table take one more. -/
  pairs : ∀ {levels ms u w x ms'}, pairs? levels n ms (u ++ q :: x) = some (ms', w ++ q :: x) →
    ∀ {m}, 2 * u.length + 1 < m → ∀ y, pairs? levels m ms (u ++ q :: y) = some (ms', w ++ q :: y)

namespace Behind

variable {q : Char} (hq : IsQuote q) {n : ℕ} (h : Behind q n)

include hq h

/-- What one more step reads as a value is read whatever stands behind the quote. -/
theorem value_succ {levels : ℕ} {u w x : List Char} {v : Value}
    (hv : value? levels (n + 1) (u ++ q :: x) = some (v, w ++ q :: x)) {m : ℕ}
    (hm : 2 * u.length < m + 1) (y : List Char) :
    value? levels (m + 1) (u ++ q :: y) = some (v, w ++ q :: y) := by
  rcases u with - | ⟨c, u⟩
  · obtain ⟨s, hs, -⟩ := (value?_string_eq_some_iff hq).1 hv
    exact absurd (Shortens.of_suffix (string?_shortens hs).1) Shortens.not_append
  rw [List.length_cons] at hm
  obtain ⟨cs, hcs⟩ | ⟨cs, hcs⟩ | ⟨d, cs, hd, hcs⟩ | hword := value_cases (c :: u)
  · obtain ⟨rfl, rfl⟩ := List.cons.inj hcs
    obtain ⟨hzero, vs, hvs, hv⟩ := value?_array_eq_some_iff.1 hv
    exact value?_array_eq_some_iff.2 ⟨hzero, vs, h.items hvs (by omega) y, hv⟩
  · obtain ⟨rfl, rfl⟩ := List.cons.inj hcs
    obtain ⟨hzero, ms, hms, hv⟩ := value?_table_eq_some_iff.1 hv
    exact value?_table_eq_some_iff.2 ⟨hzero, ms, h.pairs hms (by omega) y, hv⟩
  · obtain ⟨rfl, rfl⟩ := List.cons.inj hcs
    obtain ⟨s, hs, hv⟩ := (value?_string_eq_some_iff hd).1 hv
    have hother := local_string?.behind (u := c :: u) (n := n) hq hs (Nat.lt_succ_self _) y
    exact (value?_string_eq_some_iff hd).2 ⟨s, hother, hv⟩
  · have hbegins : ∀ t, BeginsWord (c :: u ++ q :: t) := fun t => hword
    rw [value?_word_eq_some_iff (hbegins _), splitWord_append hq] at hv ⊢
    exact ⟨hv.1, by rw [List.append_cancel_right hv.2]⟩

/-- What one more step reads as items is read whatever stands behind the quote. -/
theorem items_succ {levels : ℕ} {u w x : List Char} {vs : List Value}
    (hvs : items? levels (n + 1) (u ++ q :: x) = some (vs, w ++ q :: x)) {m : ℕ}
    (hm : 2 * u.length < m) (y : List Char) :
    items? levels (m + 1) (u ++ q :: y) = some (vs, w ++ q :: y) := by
  obtain ⟨cs, hcs, hnext⟩ := items?_succ_eq_some_iff.1 hvs
  refine items?_succ_eq_some_iff.2 ?_
  obtain ⟨rfl, rfl⟩ | ⟨hhead, v, mid, mid', hv, hmid, hnext⟩ := hnext
  · have hother := local_skipSpace?.behind (w := ']' :: w) (n := n) (a := ()) hq hcs
      (Nat.lt_succ_self _) y
    exact ⟨_, hother, .inl ⟨rfl, rfl⟩⟩
  have hleft' : w ++ q :: x <:+ mid' := by
    obtain ⟨more, vs', rfl, hvs', -⟩ | ⟨rfl, -⟩ := hnext
    · exact ((suffix_of_reads n).2.1 hvs').trans (List.suffix_cons _ _)
    · exact List.suffix_cons _ _
  have hleft : w ++ q :: x <:+ mid := hleft'.trans (skipLines?_suffix hmid)
  obtain ⟨a, rfl, ha, hspace⟩ := local_skipSpace?.exists_behind (n := n) (a := ()) hq hcs
    (hleft.trans ((suffix_of_reads n).1 hv))
  obtain ⟨b, rfl, hb⟩ := exists_of_suffix hleft ((suffix_of_reads n).1 hv)
  obtain ⟨c, rfl, hc, hspace'⟩ := local_skipSpace?.exists_behind (n := n) (a := ()) hq hmid hleft'
  refine ⟨a ++ q :: y, hspace _ (Nat.lt_succ_self _) y, .inr ⟨?_, v, b ++ q :: y, c ++ q :: y,
    h.value hv (by omega) y, hspace' _ (Nat.lt_succ_self _) y, ?_⟩⟩
  · rwa [head?_append_quote a y x]
  obtain ⟨more, vs', hmore, hvs', hcons⟩ | ⟨hend, hvs'⟩ := hnext
  · obtain ⟨d, rfl, rfl⟩ := exists_of_append_quote (hq.ne (by decide)) hmore
    rw [List.length_cons] at hc
    exact .inl ⟨d ++ q :: y, vs', rfl, h.items hvs' (by omega) y, hcons⟩
  · obtain ⟨d, rfl, hd⟩ := exists_of_append_quote (hq.ne (by decide)) hend
    exact .inr ⟨by rw [List.append_cancel_right hd]; rfl, hvs'⟩

/-- What one more step reads as members is read whatever stands behind the quote. -/
theorem pairs_succ {levels : ℕ} {ms ms' : Members} {u w x : List Char}
    (hms : pairs? levels (n + 1) ms (u ++ q :: x) = some (ms', w ++ q :: x)) {m : ℕ}
    (hm : 2 * u.length < m) (y : List Char) :
    pairs? levels (m + 1) ms (u ++ q :: y) = some (ms', w ++ q :: y) := by
  obtain ⟨cs, hcs, hnext⟩ := pairs?_succ_eq_some_iff.1 hms
  refine pairs?_succ_eq_some_iff.2 ?_
  obtain ⟨rfl, rfl⟩ | ⟨hhead, k, after, v, mid, next, mid', hk, hv, hdefine, hmid, hnext⟩ := hnext
  · have hother := local_skipSpace?.behind (w := '}' :: w) (n := n) (a := ()) hq hcs
      (Nat.lt_succ_self _) y
    exact ⟨_, hother, .inl ⟨rfl, rfl⟩⟩
  have hleft' : w ++ q :: x <:+ mid' := by
    obtain ⟨more, rfl, hms'⟩ | ⟨rfl, -⟩ := hnext
    · exact ((suffix_of_reads n).2.2 hms').trans (List.suffix_cons _ _)
    · exact List.suffix_cons _ _
  have hleft : w ++ q :: x <:+ mid := hleft'.trans (skipLines?_suffix hmid)
  have hafter : w ++ q :: x <:+ after :=
    hleft.trans (((suffix_of_reads n).1 hv).trans (skipBlanks_suffix after))
  obtain ⟨a, rfl, ha, hspace⟩ := local_skipSpace?.exists_behind (n := n) (a := ()) hq hcs
    (hafter.trans ((List.suffix_cons _ _).trans (key?_suffix hk)))
  obtain ⟨e, he, hlength, hkey⟩ := local_key?.exists_behind hq hk
    (hafter.trans (List.suffix_cons _ _))
  obtain ⟨e, rfl, rfl⟩ := exists_of_append_quote (hq.ne (by decide)) he.symm
  have he' : (skipBlanks e).length ≤ e.length := (skipBlanks_suffix e).length_le
  rw [List.length_cons] at hlength
  rw [skipBlanks_append hq] at hv
  obtain ⟨b, rfl, hb⟩ := exists_of_suffix hleft ((suffix_of_reads n).1 hv)
  obtain ⟨c, rfl, hc, hspace'⟩ := local_skipSpace?.exists_behind (n := n) (a := ()) hq hmid hleft'
  have hkey' : key? ((a ++ q :: y).length + 1) (a ++ q :: y) = some (k, '=' :: (e ++ q :: y)) := by
    refine hkey _ ?_ y
    rw [List.length_append]
    omega
  have hvalue : value? levels m (skipBlanks (e ++ q :: y)) = some (v, b ++ q :: y) := by
    rw [skipBlanks_append hq]
    exact h.value hv (by omega) y
  refine ⟨a ++ q :: y, hspace _ (Nat.lt_succ_self _) y, .inr ⟨?_, k, e ++ q :: y, v, b ++ q :: y,
    next, c ++ q :: y, hkey', hvalue, hdefine, hspace' _ (Nat.lt_succ_self _) y, ?_⟩⟩
  · rwa [head?_append_quote a y x]
  obtain ⟨more, hmore, hms'⟩ | ⟨hend, hms'⟩ := hnext
  · obtain ⟨d, rfl, rfl⟩ := exists_of_append_quote (hq.ne (by decide)) hmore
    rw [List.length_cons] at hc
    exact .inl ⟨d ++ q :: y, rfl, h.pairs hms' (by omega) y⟩
  · obtain ⟨d, rfl, hd⟩ := exists_of_append_quote (hq.ne (by decide)) hend
    exact .inr ⟨by rw [List.append_cancel_right hd]; rfl, hms'⟩

end Behind

/-- Values that end before a quote are read whatever stands behind the quote. -/
theorem behind {q : Char} (hq : IsQuote q) (n : ℕ) : Behind q n := by
  induction n with
  | zero =>
    refine ⟨fun h => ?_, fun h => ?_, fun h => ?_⟩
    · rw [value?] at h
      cases h
    · rw [items?] at h
      cases h
    · rw [pairs?] at h
      cases h
  | succ n ih =>
    refine ⟨?_, ?_, ?_⟩
    · intro levels u w x v h m hm
      obtain ⟨m, rfl⟩ : ∃ k, m = k + 1 := ⟨m - 1, by omega⟩
      exact ih.value_succ hq h hm
    · intro levels u w x vs h m hm
      obtain ⟨m, rfl⟩ : ∃ k, m = k + 1 := ⟨m - 1, by omega⟩
      exact ih.items_succ hq h (by omega)
    · intro levels ms u w x ms' h m hm
      obtain ⟨m, rfl⟩ : ∃ k, m = k + 1 := ⟨m - 1, by omega⟩
      exact ih.pairs_succ hq h (by omega)

end PayLink.Toml
