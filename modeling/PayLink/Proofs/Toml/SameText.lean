import PayLink.Proofs.Toml.Filling
import PayLink.Proofs.Toml.Line
/-!
# The same text read into tables that are the same but for a place

What a text says does not depend on the number of steps that reading it may take. So the same text,
read into two tables that are the same but for a place, leaves the same text behind and two tables
that are the same but for that place.
-/

namespace PayLink.Toml

open PayLink.Json

section Runs

variable {levels n : ℕ} {cs cs' rest : List Char}

/-- A value takes a step of its own. -/
theorem value?_pos {v : Value} (h : value? levels n cs = some (v, rest)) : ∃ m, n = m + 1 := by
  cases n with
  | zero =>
    rw [value?] at h
    cases h
  | succ m => exact ⟨m, rfl⟩

/-- However many steps and levels there are, a text begins with one value. -/
theorem value?_unique {levels' n' : ℕ} {v v' : Value} {rest' : List Char}
    (h : value? levels n cs = some (v, rest)) (h' : value? levels' n' cs = some (v', rest')) :
    v = v' ∧ rest = rest' := by
  have hmore := (mono_of_reads n).1 h (Nat.le_max_left levels levels') (Nat.le_max_left n n')
  have hmore' := (mono_of_reads n').1 h' (Nat.le_max_right levels levels') (Nat.le_max_right n n')
  exact Prod.mk.inj (Option.some.inj (hmore.symm.trans hmore'))

/-- However many steps and levels there are, a text begins with one list of items. -/
theorem items?_unique {levels' n' : ℕ} {vs vs' : List Value} {rest' : List Char}
    (h : items? levels n cs = some (vs, rest)) (h' : items? levels' n' cs = some (vs', rest')) :
    vs = vs' ∧ rest = rest' := by
  have hmore := (mono_of_reads n).2.1 h (Nat.le_max_left levels levels') (Nat.le_max_left n n')
  have hmore' := (mono_of_reads n').2.1 h' (Nat.le_max_right levels levels') (Nat.le_max_right n n')
  exact Prod.mk.inj (Option.some.inj (hmore.symm.trans hmore'))

/-- The next item of an array, and what is read behind it. -/
theorem items?_next {vs : List Value} (hspace : skipSpace? cs = some cs')
    (hitem : cs'.head? ≠ some ']') (h : items? levels n cs = some (vs, rest)) :
    ∃ m v mid mid', value? levels m cs' = some (v, mid) ∧ skipSpace? mid = some mid' ∧
      ((∃ more vs', mid' = ',' :: more ∧ items? levels m more = some (vs', rest) ∧ v :: vs' = vs) ∨
        mid' = ']' :: rest ∧ [v] = vs) := by
  cases n with
  | zero =>
    rw [items?] at h
    cases h
  | succ m =>
    obtain ⟨_, hcs, hnext⟩ := items?_succ_eq_some_iff.1 h
    obtain rfl := Option.some.inj (hspace.symm.trans hcs)
    obtain ⟨rfl, -⟩ | ⟨-, v, mid, mid', hv, hmid, hnext⟩ := hnext
    · exact absurd rfl hitem
    · exact ⟨m, v, mid, mid', hv, hmid, hnext⟩

/-- The items behind a known one. -/
theorem items?_later {levels' n' : ℕ} {vs : List Value} {v : Value} {after after' : List Char}
    (hspace : skipSpace? cs = some cs') (hitem : cs'.head? ≠ some ']')
    (hv : value? levels' n' cs' = some (v, after)) (hcomma : skipSpace? after = some (',' :: after'))
    (h : items? levels n cs = some (vs, rest)) :
    ∃ m vs', items? levels m after' = some (vs', rest) ∧ v :: vs' = vs := by
  obtain ⟨m, w, mid, mid', hw, hmid, hnext⟩ := items?_next hspace hitem h
  obtain ⟨rfl, rfl⟩ := value?_unique hv hw
  obtain rfl := Option.some.inj (hcomma.symm.trans hmid)
  obtain ⟨more, vs', hmore, hvs, hcons⟩ | ⟨hend, -⟩ := hnext
  · obtain ⟨-, rfl⟩ := List.cons.inj hmore
    exact ⟨m, vs', hvs, hcons⟩
  · exact absurd (List.cons.inj hend).1 (by decide)

/-- The next member of a table between braces, and what is read behind it. -/
theorem pairs?_next {ms r : Members} {k : List String} {mid : List Char}
    (hspace : skipSpace? cs = some cs') (hpair : cs'.head? ≠ some '}')
    (hk : key? (cs'.length + 1) cs' = some (k, '=' :: mid))
    (h : pairs? levels n ms cs = some (r, rest)) :
    ∃ m v after after' next, value? levels m (skipBlanks mid) = some (v, after) ∧
      ms.define v k = some next ∧ skipSpace? after = some after' ∧
        ((∃ more, after' = ',' :: more ∧ pairs? levels m next more = some (r, rest)) ∨
          after' = '}' :: rest ∧ next = r) := by
  cases n with
  | zero =>
    rw [pairs?] at h
    cases h
  | succ m =>
    obtain ⟨_, hcs, hnext⟩ := pairs?_succ_eq_some_iff.1 h
    obtain rfl := Option.some.inj (hspace.symm.trans hcs)
    obtain ⟨rfl, -⟩ | ⟨-, k', mid', v, after, next, after', hk', hv, hdefine, hmid, hnext⟩ := hnext
    · exact absurd rfl hpair
    · obtain ⟨rfl, hmid'⟩ := Prod.mk.inj (Option.some.inj (hk.symm.trans hk'))
      obtain ⟨-, rfl⟩ := List.cons.inj hmid'
      exact ⟨m, v, after, after', next, hv, hdefine, hmid, hnext⟩

/-- The members behind a known one. -/
theorem pairs?_later {levels' n' : ℕ} {ms r : Members} {k : List String} {v : Value}
    {mid after after' : List Char} (hspace : skipSpace? cs = some cs')
    (hpair : cs'.head? ≠ some '}') (hk : key? (cs'.length + 1) cs' = some (k, '=' :: mid))
    (hv : value? levels' n' (skipBlanks mid) = some (v, after))
    (hcomma : skipSpace? after = some (',' :: after'))
    (h : pairs? levels n ms cs = some (r, rest)) :
    ∃ m next, ms.define v k = some next ∧ pairs? levels m next after' = some (r, rest) := by
  obtain ⟨m, w, mid', mid'', next, hw, hdefine, hmid, hnext⟩ := pairs?_next hspace hpair hk h
  obtain ⟨rfl, rfl⟩ := value?_unique hv hw
  obtain rfl := Option.some.inj (hcomma.symm.trans hmid)
  obtain ⟨more, hmore, hms⟩ | ⟨hend, -⟩ := hnext
  · obtain ⟨-, rfl⟩ := List.cons.inj hmore
    exact ⟨m, next, hdefine, hms⟩
  · exact absurd (List.cons.inj hend).1 (by decide)

/-- One line that is not blank, and the lines behind it. -/
theorem lines?_succ_eq_some_iff {p : Progress} {ms : Members} :
    lines? (n + 1) p cs = some ms ↔ ∃ cs', skipSpace? cs = some cs' ∧
      (cs' = [] ∧ p.root = ms ∨
        cs' ≠ [] ∧ ∃ p' rest, line? p cs' = some (p', rest) ∧ lines? n p' rest = some ms) := by
  rw [lines?]
  simp only [Option.bind_eq_bind, Option.bind_eq_some_iff]
  refine exists_congr fun cs' => and_congr_right fun _ => ?_
  cases cs' with
  | nil => simp
  | cons c cs' => simp [Option.bind_eq_some_iff]

/-- A key is not read from nothing. -/
theorem ne_nil_of_key? {k : List String} (hk : key? n cs = some (k, '=' :: rest)) : cs ≠ [] := by
  rintro rfl
  exact List.cons_ne_nil _ _ (List.suffix_nil.1 (key?_suffix hk))

/-- A line is not read from nothing. -/
theorem ne_nil_of_line? {p p' : Progress} (h : line? p cs = some (p', rest)) : cs ≠ [] := by
  rintro rfl
  obtain ⟨k, mid, v, after, hk, -⟩ := (line?_value_eq_some_iff (by simp)).1 h
  exact ne_nil_of_key? hk rfl

/-- The next line, and the lines behind it. -/
theorem lines?_next {p : Progress} {ms : Members} (hspace : skipSpace? cs = some cs')
    (hline : cs' ≠ []) (h : lines? n p cs = some ms) :
    ∃ m p' rest, line? p cs' = some (p', rest) ∧ lines? m p' rest = some ms := by
  cases n with
  | zero => cases h
  | succ m =>
    obtain ⟨_, hcs, ⟨hnil, -⟩ | ⟨-, p', rest, hp, hrest⟩⟩ := lines?_succ_eq_some_iff.1 h
    · obtain rfl := Option.some.inj (hspace.symm.trans hcs)
      exact absurd hnil hline
    · obtain rfl := Option.some.inj (hspace.symm.trans hcs)
      exact ⟨m, p', rest, hp, hrest⟩

end Runs

section SameText

variable {path : List Step} {cs rest rest' : List Char}

/-- The same members are added to tables that are the same but for a place. -/
theorem pairs?_sameBut {levels levels' n n' : ℕ} {ms ms' r r' : Members}
    (hms : Members.SameBut path ms ms') (h : pairs? levels n ms cs = some (r, rest))
    (h' : pairs? levels' n' ms' cs = some (r', rest')) :
    rest = rest' ∧ Members.SameBut path r r' := by
  induction n generalizing n' ms ms' cs with
  | zero =>
    rw [pairs?] at h
    cases h
  | succ n ih =>
    obtain ⟨cs₁, hspace, hnext⟩ := pairs?_succ_eq_some_iff.1 h
    obtain ⟨rfl, rfl⟩ | ⟨hpair, k, mid, v, after, next, after', hk, hv, hdefine, hmid, hnext⟩ := hnext
    · cases n' with
      | zero =>
        rw [pairs?] at h'
        cases h'
      | succ n' =>
        obtain ⟨_, hspace', hnext'⟩ := pairs?_succ_eq_some_iff.1 h'
        obtain rfl := Option.some.inj (hspace.symm.trans hspace')
        obtain ⟨hend, rfl⟩ | ⟨hpair, -⟩ := hnext'
        · exact ⟨(List.cons.inj hend).2, hms⟩
        · exact absurd rfl hpair
    · obtain ⟨m', w, mid', mid'', next', hw, hdefine', hmid', hnext'⟩ :=
        pairs?_next hspace hpair hk h'
      obtain ⟨rfl, rfl⟩ := value?_unique hv hw
      obtain rfl := Option.some.inj (hmid.symm.trans hmid')
      have hsame := Members.keepsTables_define _ _ hms hdefine hdefine'
      obtain ⟨more, rfl, hmore⟩ | ⟨rfl, rfl⟩ := hnext
      · obtain ⟨more', heq, hmore'⟩ | ⟨hend, -⟩ := hnext'
        · obtain ⟨-, rfl⟩ := List.cons.inj heq
          exact ih hsame hmore hmore'
        · exact absurd (List.cons.inj hend).1 (by decide)
      · obtain ⟨more', heq, -⟩ | ⟨hend, rfl⟩ := hnext'
        · exact absurd (List.cons.inj heq).1 (by decide)
        · exact ⟨(List.cons.inj hend).2, hsame⟩

/-- Two states of reading a file that are the same but for a place. -/
def Progress.SameBut (path : List Step) (p p' : Progress) : Prop :=
  Members.SameBut path p.root p'.root ∧ p.header = p'.header

/-- The same line is added to files that are the same but for a place. -/
theorem line?_sameBut {p p' r r' : Progress} (hp : Progress.SameBut path p p')
    (h : line? p cs = some (r, rest)) (h' : line? p' cs = some (r', rest')) :
    rest = rest' ∧ Progress.SameBut path r r' := by
  obtain ⟨hroot, hheader⟩ := hp
  obtain ⟨cs, rfl⟩ | ⟨cs, rfl, hhead⟩ | hhead := line_cases cs
  · obtain ⟨k, mid, hk, ⟨root, hchange, rfl⟩, hend⟩ := line?_row_eq_some_iff.1 h
    obtain ⟨k', mid', hk', ⟨root', hchange', rfl⟩, hend'⟩ := line?_row_eq_some_iff.1 h'
    obtain ⟨rfl, hmid⟩ := Prod.mk.inj (Option.some.inj (hk.symm.trans hk'))
    obtain ⟨-, hmid⟩ := List.cons.inj hmid
    obtain ⟨-, rfl⟩ := List.cons.inj hmid
    exact ⟨Option.some.inj (hend.symm.trans hend'),
      Members.keepsNodes_openRow.change k hroot hchange hchange', rfl⟩
  · obtain ⟨k, mid, hk, ⟨root, hchange, rfl⟩, hend⟩ := (line?_table_eq_some_iff hhead).1 h
    obtain ⟨k', mid', hk', ⟨root', hchange', rfl⟩, hend'⟩ := (line?_table_eq_some_iff hhead).1 h'
    obtain ⟨rfl, hmid⟩ := Prod.mk.inj (Option.some.inj (hk.symm.trans hk'))
    obtain ⟨-, rfl⟩ := List.cons.inj hmid
    exact ⟨Option.some.inj (hend.symm.trans hend'),
      Members.keepsNodes_openTable.change k hroot hchange hchange', rfl⟩
  · obtain ⟨k, mid, v, after, hk, hv, ⟨root, hdefine, rfl⟩, hend⟩ :=
      (line?_value_eq_some_iff hhead).1 h
    obtain ⟨k', mid', v', after', hk', hv', ⟨root', hdefine', rfl⟩, hend'⟩ :=
      (line?_value_eq_some_iff hhead).1 h'
    obtain ⟨rfl, hmid⟩ := Prod.mk.inj (Option.some.inj (hk.symm.trans hk'))
    obtain ⟨-, rfl⟩ := List.cons.inj hmid
    obtain ⟨rfl, rfl⟩ := Prod.mk.inj (Option.some.inj (hv.symm.trans hv'))
    rw [← hheader] at hdefine'
    exact ⟨Option.some.inj (hend.symm.trans hend'),
      Members.keepsTables_defineWithin _ _ _ hroot hdefine hdefine', hheader⟩

/-- The same lines are added to files that are the same but for a place. -/
theorem lines?_sameBut {n n' : ℕ} {p p' : Progress} {ms ms' : Members}
    (hp : Progress.SameBut path p p') (h : lines? n p cs = some ms)
    (h' : lines? n' p' cs = some ms') : Members.SameBut path ms ms' := by
  induction n generalizing n' p p' cs with
  | zero => cases h
  | succ n ih =>
    cases n' with
    | zero => cases h'
    | succ n' =>
      obtain ⟨cs₁, hspace, hnext⟩ := lines?_succ_eq_some_iff.1 h
      obtain ⟨_, hspace', hnext'⟩ := lines?_succ_eq_some_iff.1 h'
      obtain rfl := Option.some.inj (hspace.symm.trans hspace')
      obtain ⟨hnil, rfl⟩ | ⟨hcons, q, rest, hline, hmore⟩ := hnext
      · obtain ⟨-, rfl⟩ | ⟨hcons, -⟩ := hnext'
        · exact hp.1
        · exact absurd hnil hcons
      · obtain ⟨hnil, -⟩ | ⟨-, q', rest', hline', hmore'⟩ := hnext'
        · exact absurd hnil hcons
        obtain ⟨rfl, hq⟩ := line?_sameBut hp hline hline'
        exact ih hq hmore hmore'

end SameText

end PayLink.Toml
