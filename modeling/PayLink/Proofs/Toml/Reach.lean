import PayLink.Proofs.Toml.SameText
/-!
# Where the value at the front of a text stands

Reading a text comes to an end of it as a value at a place. Two texts that are the same up to a
string there, and the same again behind it, have values that are the same but for that place.
-/

namespace PayLink.Toml

open PayLink.Json

/-- What is being read. -/
inductive Stage
  /-- The lines of a file, with what has been read of it. -/
  | lines (p : Progress)
  /-- A value. -/
  | value
  /-- The items of an array from the one with the given number. -/
  | items (i : ℕ)
  /-- The members of a table between braces. -/
  | pairs

/-- Reading `cs` comes to its end `s` as a value, which stands at `path` in what is read. -/
inductive ComesTo (s : List Char) : Stage → List Step → List Char → Prop
  /-- The value that is being read. -/
  | here : ComesTo s .value [] s
  /-- An array from its first item. -/
  | array {path : List Step} {cs : List Char} (h : ComesTo s (.items 0) path cs) :
    ComesTo s .value path ('[' :: cs)
  /-- A table from its first member. -/
  | table {path : List Step} {cs : List Char} (h : ComesTo s .pairs path cs) :
    ComesTo s .value path ('{' :: cs)
  /-- The next item of an array. -/
  | item {i : ℕ} {path : List Step} {cs cs' : List Char} (hspace : skipSpace? cs = some cs')
    (hitem : cs'.head? ≠ some ']') (h : ComesTo s .value path cs') :
    ComesTo s (.items i) (.item i :: path) cs
  /-- A later item of an array. -/
  | laterItem {i levels n : ℕ} {path : List Step} {cs cs' after after' : List Char} {v : Value}
    (hspace : skipSpace? cs = some cs') (hitem : cs'.head? ≠ some ']')
    (hv : value? levels n cs' = some (v, after)) (hcomma : skipSpace? after = some (',' :: after'))
    (h : ComesTo s (.items (i + 1)) path after') : ComesTo s (.items i) path cs
  /-- The next member of a table between braces. -/
  | pair {path : List Step} {cs cs' mid : List Char} {k : List String}
    (hspace : skipSpace? cs = some cs') (hpair : cs'.head? ≠ some '}')
    (hk : key? (cs'.length + 1) cs' = some (k, '=' :: mid))
    (h : ComesTo s .value path (skipBlanks mid)) : ComesTo s .pairs (k.map .key ++ path) cs
  /-- A later member of a table between braces. -/
  | laterPair {levels n : ℕ} {path : List Step} {cs cs' mid after after' : List Char}
    {k : List String} {v : Value} (hspace : skipSpace? cs = some cs')
    (hpair : cs'.head? ≠ some '}') (hk : key? (cs'.length + 1) cs' = some (k, '=' :: mid))
    (hv : value? levels n (skipBlanks mid) = some (v, after))
    (hcomma : skipSpace? after = some (',' :: after')) (h : ComesTo s .pairs path after') :
    ComesTo s .pairs path cs
  /-- The next line of a file. -/
  | line {p : Progress} {path : List Step} {cs cs' mid : List Char} {k : List String}
    (hspace : skipSpace? cs = some cs') (hline : cs'.head? ≠ some '[')
    (hk : key? (cs'.length + 1) cs' = some (k, '=' :: mid))
    (h : ComesTo s .value path (skipBlanks mid)) :
    ComesTo s (.lines p) (p.root.place p.header ++ (k.map .key ++ path)) cs
  /-- A later line of a file. -/
  | laterLine {p p' : Progress} {path : List Step} {cs cs' rest : List Char}
    (hspace : skipSpace? cs = some cs') (hline : line? p cs' = some (p', rest))
    (h : ComesTo s (.lines p') path rest) : ComesTo s (.lines p) path cs

/-- A string of a file stands at a place of the file's value. -/
def StandsAt (path : List Step) (s cs : List Char) : Prop :=
  ComesTo s (.lines ⟨[], []⟩) path (withoutMark cs)

/-- The value behind a key and its equals sign is an end of the text. -/
theorem suffix_of_key? {n : ℕ} {cs mid : List Char} {k : List String}
    (hk : key? n cs = some (k, '=' :: mid)) : skipBlanks mid <:+ cs :=
  (skipBlanks_suffix mid).trans ((List.suffix_cons '=' mid).trans (key?_suffix hk))

/-- What reading comes to is an end of the text. -/
theorem ComesTo.suffix {s : List Char} {stage : Stage} {path : List Step} {cs : List Char}
    (h : ComesTo s stage path cs) : s <:+ cs := by
  induction h with
  | here => exact List.suffix_rfl
  | array _ ih => exact ih.trans (List.suffix_cons _ _)
  | table _ ih => exact ih.trans (List.suffix_cons _ _)
  | item hspace _ _ ih => exact ih.trans (skipLines?_suffix hspace)
  | laterItem hspace _ hv hcomma _ ih =>
    exact ih.trans ((List.suffix_cons _ _).trans ((skipLines?_suffix hcomma).trans
      (((suffix_of_reads _).1 hv).trans (skipLines?_suffix hspace))))
  | pair hspace _ hk _ ih => exact ih.trans ((suffix_of_key? hk).trans (skipLines?_suffix hspace))
  | laterPair hspace _ hk hv hcomma _ ih =>
    exact ih.trans ((List.suffix_cons _ _).trans ((skipLines?_suffix hcomma).trans
      (((suffix_of_reads _).1 hv).trans ((suffix_of_key? hk).trans (skipLines?_suffix hspace)))))
  | line hspace _ hk _ ih => exact ih.trans ((suffix_of_key? hk).trans (skipLines?_suffix hspace))
  | laterLine hspace hline _ ih =>
    exact ih.trans (((local_line? _).suffix (n := 0) hline).trans (skipLines?_suffix hspace))

/-- What two readings of two texts have in common. -/
def Stage.Agree : Stage → List Step → List Char → List Char → Prop
  | .lines p, path, cs, cs' => ∀ ⦃n n' ms ms'⦄, lines? n p cs = some ms →
      lines? n' p cs' = some ms' → Members.SameBut path ms ms'
  | .value, path, cs, cs' => ∀ ⦃levels levels' n n' v v' rest rest'⦄,
      value? levels n cs = some (v, rest) → value? levels' n' cs' = some (v', rest') →
        rest = rest' ∧ SameBut path v v'
  | .items i, path, cs, cs' => ∀ ⦃levels levels' n n' vs vs' rest rest'⦄,
      items? levels n cs = some (vs, rest) → items? levels' n' cs' = some (vs', rest') →
        rest = rest' ∧ ∃ before x y after p, path = .item (i + before.length) :: p ∧
          vs = before ++ x :: after ∧ vs' = before ++ y :: after ∧ SameBut p x y
  | .pairs, path, cs, cs' => ∀ ⦃levels levels' n n' ms r r' rest rest'⦄,
      pairs? levels n ms cs = some (r, rest) → pairs? levels' n' ms cs' = some (r', rest') →
        rest = rest' ∧ Members.SameBut path r r'

section Agree

variable {path : List Step} {cs cs' : List Char}

/-- Two texts with an array. -/
theorem agree_array (h : (Stage.items 0).Agree path cs cs') :
    Stage.value.Agree path ('[' :: cs) ('[' :: cs') := by
  intro levels levels' n n' v v' rest rest' hv hv'
  obtain ⟨m, rfl⟩ := value?_pos hv
  obtain ⟨m', rfl⟩ := value?_pos hv'
  obtain ⟨-, vs, hvs, rfl⟩ := value?_array_eq_some_iff.1 hv
  obtain ⟨-, vs', hvs', rfl⟩ := value?_array_eq_some_iff.1 hv'
  obtain ⟨rfl, before, x, y, after, p, rfl, rfl, rfl, hsame⟩ := h hvs hvs'
  exact ⟨rfl, before, x, y, after, rfl, rfl, (Nat.zero_add _).symm, hsame⟩

/-- Two texts with a table between braces. -/
theorem agree_table (h : Stage.pairs.Agree path cs cs') :
    Stage.value.Agree path ('{' :: cs) ('{' :: cs') := by
  intro levels levels' n n' v v' rest rest' hv hv'
  obtain ⟨m, rfl⟩ := value?_pos hv
  obtain ⟨m', rfl⟩ := value?_pos hv'
  obtain ⟨-, ms, hms, rfl⟩ := value?_table_eq_some_iff.1 hv
  obtain ⟨-, ms', hms', rfl⟩ := value?_table_eq_some_iff.1 hv'
  obtain ⟨rfl, hsame⟩ := h hms hms'
  exact ⟨rfl, hsame.toValue⟩

/-- Two texts with the next item behind blanks. -/
theorem agree_item {i : ℕ} {mid mid' : List Char} (hspace : skipSpace? cs = some mid)
    (hspace' : skipSpace? cs' = some mid') (hitem : mid.head? ≠ some ']')
    (hitem' : mid'.head? ≠ some ']') (h : Stage.value.Agree path mid mid') :
    (Stage.items i).Agree (.item i :: path) cs cs' := by
  intro levels levels' n n' vs vs' rest rest' hvs hvs'
  obtain ⟨m, v, after, after', hv, hafter, hnext⟩ := items?_next hspace hitem hvs
  obtain ⟨m', w, after₁, after₁', hw, hafter', hnext'⟩ := items?_next hspace' hitem' hvs'
  obtain ⟨rfl, hsame⟩ := h hv hw
  obtain rfl := Option.some.inj (hafter.symm.trans hafter')
  obtain ⟨more, ws, rfl, hws, rfl⟩ | ⟨rfl, rfl⟩ := hnext
  · obtain ⟨more', ws', heq, hws', rfl⟩ | ⟨hend, -⟩ := hnext'
    · obtain ⟨-, rfl⟩ := List.cons.inj heq
      obtain ⟨rfl, rfl⟩ := items?_unique hws hws'
      exact ⟨rfl, [], v, w, ws, path, rfl, rfl, rfl, hsame⟩
    · exact absurd (List.cons.inj hend).1 (by decide)
  · obtain ⟨more', ws', heq, -⟩ | ⟨hend, rfl⟩ := hnext'
    · exact absurd (List.cons.inj heq).1 (by decide)
    · exact ⟨(List.cons.inj hend).2, [], v, w, [], path, rfl, rfl, rfl, hsame⟩

/-- Two texts with the same item before the next one. -/
theorem agree_laterItem {i levels levels' n n' : ℕ} {mid mid' after after' more more' : List Char}
    {v : Value} (hspace : skipSpace? cs = some mid) (hspace' : skipSpace? cs' = some mid')
    (hitem : mid.head? ≠ some ']') (hitem' : mid'.head? ≠ some ']')
    (hv : value? levels n mid = some (v, after)) (hv' : value? levels' n' mid' = some (v, after'))
    (hcomma : skipSpace? after = some (',' :: more))
    (hcomma' : skipSpace? after' = some (',' :: more'))
    (h : (Stage.items (i + 1)).Agree path more more') : (Stage.items i).Agree path cs cs' := by
  intro l l' m m' vs vs' rest rest' hvs hvs'
  obtain ⟨m, ws, hws, rfl⟩ := items?_later hspace hitem hv hcomma hvs
  obtain ⟨m', ws', hws', rfl⟩ := items?_later hspace' hitem' hv' hcomma' hvs'
  obtain ⟨rfl, before, x, y, behind, p, rfl, rfl, rfl, hsame⟩ := h hws hws'
  refine ⟨rfl, v :: before, x, y, behind, p, ?_, rfl, rfl, hsame⟩
  rw [List.length_cons, Nat.add_assoc, Nat.add_comm 1]

/-- Two texts with the next member behind blanks. -/
theorem agree_pair {k : List String} {mid mid' after after' : List Char}
    (hspace : skipSpace? cs = some mid) (hspace' : skipSpace? cs' = some mid')
    (hpair : mid.head? ≠ some '}') (hpair' : mid'.head? ≠ some '}')
    (hk : key? (mid.length + 1) mid = some (k, '=' :: after))
    (hk' : key? (mid'.length + 1) mid' = some (k, '=' :: after'))
    (h : Stage.value.Agree path (skipBlanks after) (skipBlanks after')) :
    Stage.pairs.Agree (k.map .key ++ path) cs cs' := by
  intro levels levels' n n' ms r r' rest rest' hr hr'
  obtain ⟨m, v, end₁, end₂, next, hv, hdefine, hend, hnext⟩ := pairs?_next hspace hpair hk hr
  obtain ⟨m', w, end₁', end₂', next', hw, hdefine', hend', hnext'⟩ :=
    pairs?_next hspace' hpair' hk' hr'
  obtain ⟨rfl, hsame⟩ := h hv hw
  obtain rfl := Option.some.inj (hend.symm.trans hend')
  have hms := Members.define_place hsame hdefine hdefine'
  obtain ⟨more, rfl, hmore⟩ | ⟨rfl, rfl⟩ := hnext
  · obtain ⟨more', heq, hmore'⟩ | ⟨hclosed, -⟩ := hnext'
    · obtain ⟨-, rfl⟩ := List.cons.inj heq
      exact pairs?_sameBut hms hmore hmore'
    · exact absurd (List.cons.inj hclosed).1 (by decide)
  · obtain ⟨more', heq, -⟩ | ⟨hclosed, rfl⟩ := hnext'
    · exact absurd (List.cons.inj heq).1 (by decide)
    · exact ⟨(List.cons.inj hclosed).2, hms⟩

/-- Two texts with the same member before the next one. -/
theorem agree_laterPair {levels levels' n n' : ℕ} {k : List String} {v : Value}
    {mid mid' after after' end₁ end₁' more more' : List Char}
    (hspace : skipSpace? cs = some mid) (hspace' : skipSpace? cs' = some mid')
    (hpair : mid.head? ≠ some '}') (hpair' : mid'.head? ≠ some '}')
    (hk : key? (mid.length + 1) mid = some (k, '=' :: after))
    (hk' : key? (mid'.length + 1) mid' = some (k, '=' :: after'))
    (hv : value? levels n (skipBlanks after) = some (v, end₁))
    (hv' : value? levels' n' (skipBlanks after') = some (v, end₁'))
    (hcomma : skipSpace? end₁ = some (',' :: more)) (hcomma' : skipSpace? end₁' = some (',' :: more'))
    (h : Stage.pairs.Agree path more more') : Stage.pairs.Agree path cs cs' := by
  intro l l' m m' ms r r' rest rest' hr hr'
  obtain ⟨m, next, hdefine, hms⟩ := pairs?_later hspace hpair hk hv hcomma hr
  obtain ⟨m', next', hdefine', hms'⟩ := pairs?_later hspace' hpair' hk' hv' hcomma' hr'
  obtain rfl := Option.some.inj (hdefine.symm.trans hdefine')
  exact h hms hms'

/-- Two texts with the next line behind blanks. -/
theorem agree_line {p : Progress} {k : List String} {mid mid' after after' : List Char}
    (hspace : skipSpace? cs = some mid) (hspace' : skipSpace? cs' = some mid')
    (hline : mid.head? ≠ some '[') (hline' : mid'.head? ≠ some '[')
    (hk : key? (mid.length + 1) mid = some (k, '=' :: after))
    (hk' : key? (mid'.length + 1) mid' = some (k, '=' :: after'))
    (h : Stage.value.Agree path (skipBlanks after) (skipBlanks after')) :
    (Stage.lines p).Agree (p.root.place p.header ++ (k.map .key ++ path)) cs cs' := by
  intro n n' ms ms' hms hms'
  obtain ⟨m, p₁, rest, hp, hrest⟩ := lines?_next hspace (ne_nil_of_key? hk) hms
  obtain ⟨m', p₁', rest', hp', hrest'⟩ := lines?_next hspace' (ne_nil_of_key? hk') hms'
  obtain ⟨_, _, v, end₁, hkey, hv, ⟨root, hdefine, rfl⟩, hend⟩ :=
    (line?_value_eq_some_iff hline).1 hp
  obtain ⟨_, _, w, end₁', hkey', hw, ⟨root', hdefine', rfl⟩, hend'⟩ :=
    (line?_value_eq_some_iff hline').1 hp'
  obtain ⟨rfl, hafter⟩ := Prod.mk.inj (Option.some.inj (hk.symm.trans hkey))
  obtain ⟨-, rfl⟩ := List.cons.inj hafter
  obtain ⟨rfl, hafter'⟩ := Prod.mk.inj (Option.some.inj (hk'.symm.trans hkey'))
  obtain ⟨-, rfl⟩ := List.cons.inj hafter'
  obtain ⟨rfl, hsame⟩ := h hv hw
  obtain rfl := Option.some.inj (hend.symm.trans hend')
  have hroot : Progress.SameBut _ ⟨root, p.header⟩ ⟨root', p.header⟩ :=
    ⟨Members.defineWithin_place hsame hdefine hdefine', rfl⟩
  exact lines?_sameBut hroot hrest hrest'

/-- Two texts with the same line before the next one. -/
theorem agree_laterLine {p p' : Progress} {mid mid' rest rest' : List Char}
    (hspace : skipSpace? cs = some mid) (hspace' : skipSpace? cs' = some mid')
    (hline : line? p mid = some (p', rest)) (hline' : line? p mid' = some (p', rest'))
    (h : (Stage.lines p').Agree path rest rest') : (Stage.lines p).Agree path cs cs' := by
  intro n n' ms ms' hms hms'
  obtain ⟨m, p₁, rest₁, hp, hrest⟩ := lines?_next hspace (ne_nil_of_line? hline) hms
  obtain ⟨m', p₁', rest₁', hp', hrest'⟩ := lines?_next hspace' (ne_nil_of_line? hline') hms'
  obtain ⟨rfl, rfl⟩ := Prod.mk.inj (Option.some.inj (hline.symm.trans hp))
  obtain ⟨rfl, rfl⟩ := Prod.mk.inj (Option.some.inj (hline'.symm.trans hp'))
  exact h hrest hrest'

end Agree

section TwoStrings

variable {q : Char} (hq : IsQuote q) {x y a c d : List Char} (hx : string? (q :: x) = some (c, a))
  (hy : string? (q :: y) = some (d, a))

include hq

/-- What is skipped before the string is skipped in both texts. -/
theorem skipSpace?_both {u mid : List Char} (hspace : skipSpace? (u ++ q :: x) = some mid)
    (hleft : q :: x <:+ mid) :
    ∃ w, mid = w ++ q :: x ∧ skipSpace? (u ++ q :: y) = some (w ++ q :: y) := by
  obtain ⟨w, rfl, -, hother⟩ :=
    local_skipSpace?.exists_behind (w := []) (n := 0) (a := ()) hq hspace hleft
  exact ⟨w, rfl, hother _ (Nat.lt_succ_self _) y⟩

/-- A key before the string, with its equals sign and behind blanks, is read in both texts. -/
theorem key?_both {u cs mid : List Char} {k : List String}
    (hspace : skipSpace? (u ++ q :: x) = some cs)
    (hk : key? (cs.length + 1) cs = some (k, '=' :: mid)) (hleft : q :: x <:+ skipBlanks mid) :
    ∃ w w', cs = w ++ q :: x ∧ mid = w' ++ q :: x ∧
      skipSpace? (u ++ q :: y) = some (w ++ q :: y) ∧
        key? ((w ++ q :: y).length + 1) (w ++ q :: y) = some (k, '=' :: (w' ++ q :: y)) := by
  obtain ⟨w, rfl, hspace'⟩ := skipSpace?_both (y := y) hq hspace (hleft.trans (suffix_of_key? hk))
  have hmid := (hleft.trans (skipBlanks_suffix mid)).trans (List.suffix_cons '=' mid)
  obtain ⟨w', hw', -, hother⟩ := local_wholeKey?.exists_behind (w := []) (n := 0) hq hk hmid
  obtain ⟨w', rfl, rfl⟩ := exists_of_append_quote (hq.ne (by decide)) hw'.symm
  exact ⟨w, w', rfl, rfl, hspace', hother _ (Nat.lt_succ_self _) y⟩

/-- A value before the string is read in both texts. -/
theorem value?_both {levels n : ℕ} {u rest : List Char} {v : Value}
    (hv : value? levels n (u ++ q :: x) = some (v, rest)) (hleft : q :: x <:+ rest) :
    ∃ w m, rest = w ++ q :: x ∧ value? levels m (u ++ q :: y) = some (v, w ++ q :: y) := by
  obtain ⟨w, rfl, -⟩ := exists_of_suffix (w := []) hleft ((suffix_of_reads n).1 hv)
  exact ⟨w, _, rfl, (behind hq n).value hv (Nat.lt_succ_self _) y⟩

include hx hy

/-- The string itself. -/
theorem agree_here : Stage.value.Agree [] (q :: x) (q :: y) := by
  intro levels levels' n n' v v' rest rest' h h'
  obtain ⟨m, rfl⟩ := value?_pos h
  obtain ⟨m', rfl⟩ := value?_pos h'
  obtain ⟨s, hs, -⟩ := (value?_string_eq_some_iff hq).1 h
  obtain ⟨s', hs', -⟩ := (value?_string_eq_some_iff hq).1 h'
  rw [hx] at hs
  rw [hy] at hs'
  obtain ⟨-, rfl⟩ := Prod.mk.inj (Option.some.inj hs)
  obtain ⟨-, rfl⟩ := Prod.mk.inj (Option.some.inj hs')
  exact ⟨rfl, trivial⟩

/-- Reading that comes to the string in one text comes to it in the other one, and what is read of
both is the same but for the place of the string. -/
theorem ComesTo.agree {stage : Stage} {path : List Step} {cs : List Char}
    (h : ComesTo (q :: x) stage path cs) :
    ∀ u, cs = u ++ q :: x → stage.Agree path (u ++ q :: x) (u ++ q :: y) := by
  induction h with
  | here =>
    intro u hu
    have hnil : u = [] := List.append_cancel_right (hu.symm.trans (List.nil_append _).symm)
    rw [hnil]
    exact agree_here hq hx hy
  | array h ih =>
    intro u hu
    obtain ⟨u, rfl, rfl⟩ := exists_of_append_quote (hq.ne (by decide)) hu.symm
    exact agree_array (ih u rfl)
  | table h ih =>
    intro u hu
    obtain ⟨u, rfl, rfl⟩ := exists_of_append_quote (hq.ne (by decide)) hu.symm
    exact agree_table (ih u rfl)
  | item hspace hitem h ih =>
    rintro u rfl
    obtain ⟨w, rfl, hspace'⟩ := skipSpace?_both hq hspace h.suffix
    have hitem' := hitem
    rw [head?_append_quote w x y] at hitem'
    exact agree_item hspace hspace' hitem hitem' (ih w rfl)
  | laterItem hspace hitem hv hcomma h ih =>
    rintro u rfl
    have hmore := h.suffix.trans (List.suffix_cons ',' _)
    have hafter := hmore.trans (skipLines?_suffix hcomma)
    obtain ⟨w, rfl, hspace'⟩ :=
      skipSpace?_both (y := y) hq hspace (hafter.trans ((suffix_of_reads _).1 hv))
    obtain ⟨w₁, m, rfl, hv'⟩ := value?_both (y := y) hq hv hafter
    obtain ⟨w₂, hw₂, hcomma'⟩ := skipSpace?_both (y := y) hq hcomma hmore
    obtain ⟨w₂, rfl, rfl⟩ := exists_of_append_quote (hq.ne (by decide)) hw₂.symm
    have hitem' := hitem
    rw [head?_append_quote w x y] at hitem'
    exact agree_laterItem hspace hspace' hitem hitem' hv hv' hcomma hcomma' (ih w₂ rfl)
  | pair hspace hpair hk h ih =>
    rintro u rfl
    obtain ⟨w, w₁, rfl, rfl, hspace', hk'⟩ := key?_both (y := y) hq hspace hk h.suffix
    have hpair' := hpair
    rw [head?_append_quote w x y] at hpair'
    refine agree_pair hspace hspace' hpair hpair' hk hk' ?_
    rw [skipBlanks_append hq, skipBlanks_append hq]
    exact ih _ (skipBlanks_append hq w₁ x)
  | laterPair hspace hpair hk hv hcomma h ih =>
    rintro u rfl
    have hmore := h.suffix.trans (List.suffix_cons ',' _)
    have hafter := hmore.trans (skipLines?_suffix hcomma)
    obtain ⟨w, w₁, rfl, rfl, hspace', hk'⟩ :=
      key?_both (y := y) hq hspace hk (hafter.trans ((suffix_of_reads _).1 hv))
    have hv₁ := hv
    rw [skipBlanks_append hq] at hv₁
    obtain ⟨w₂, m, rfl, hv'⟩ := value?_both (y := y) hq hv₁ hafter
    rw [← skipBlanks_append hq] at hv'
    obtain ⟨w₃, hw₃, hcomma'⟩ := skipSpace?_both (y := y) hq hcomma hmore
    obtain ⟨w₃, rfl, rfl⟩ := exists_of_append_quote (hq.ne (by decide)) hw₃.symm
    have hpair' := hpair
    rw [head?_append_quote w x y] at hpair'
    exact agree_laterPair hspace hspace' hpair hpair' hk hk' hv hv' hcomma hcomma' (ih w₃ rfl)
  | line hspace hline hk h ih =>
    rintro u rfl
    obtain ⟨w, w₁, rfl, rfl, hspace', hk'⟩ := key?_both (y := y) hq hspace hk h.suffix
    have hline' := hline
    rw [head?_append_quote w x y] at hline'
    refine agree_line hspace hspace' hline hline' hk hk' ?_
    rw [skipBlanks_append hq, skipBlanks_append hq]
    exact ih _ (skipBlanks_append hq w₁ x)
  | laterLine hspace hline h ih =>
    rintro u rfl
    obtain ⟨w, rfl, hspace'⟩ := skipSpace?_both (y := y) hq hspace
      (h.suffix.trans ((local_line? _).suffix (n := 0) hline))
    obtain ⟨w₁, rfl, -, hline'⟩ :=
      (local_line? _).exists_behind (w := []) (n := 0) hq hline h.suffix
    exact agree_laterLine hspace hspace' hline (hline' _ (Nat.lt_succ_self _) y) (ih w₁ rfl)

omit hx hy in
/-- The mark of a text's byte order stands before the string. -/
theorem withoutMark_append (u x : List Char) :
    withoutMark (u ++ q :: x) = withoutMark u ++ q :: x := by
  rcases u with - | ⟨c, u⟩
  · have hmark : q ≠ '\uFEFF' := hq.ne (by decide)
    simp [withoutMark, hmark]
  · by_cases hc : c = '\uFEFF'
    · simp [withoutMark, hc]
    · simp [withoutMark, hc]

/-- Files that are the same up to a string and behind it have values that are the same but for the
place of the string. -/
theorem read?_sameBut {path : List Step} {u : List Char} {v w : Value}
    (hstands : StandsAt path (q :: x) (u ++ q :: x)) (hv : read? (u ++ q :: x) = some v)
    (hw : read? (u ++ q :: y) = some w) : SameBut path v w := by
  rw [StandsAt, withoutMark_append hq] at hstands
  obtain ⟨ms, hms, rfl⟩ := Option.map_eq_some_iff.1 hv
  obtain ⟨ms', hms', rfl⟩ := Option.map_eq_some_iff.1 hw
  rw [withoutMark_append hq] at hms hms'
  exact (hstands.agree hq hx hy _ rfl hms hms').toValue

end TwoStrings

end PayLink.Toml
