import PayLink.Proofs.Toml.Value
/-!
# Lines that end before a quote

What a line is made of: the header of a list, the header of a table, or a key with its value. A line
that ends before a quote is read whatever stands behind that quote.
-/

namespace PayLink.Toml

open PayLink.Json

section Kinds

variable {p p' : Progress} {cs rest : List Char}

/-- Two brackets begin the header of a list. -/
theorem line?_row_eq_some_iff : line? p ('[' :: '[' :: cs) = some (p', rest) ↔
    ∃ k mid, key? (cs.length + 1) cs = some (k, ']' :: ']' :: mid) ∧
      (∃ root, p.root.change Members.openRow k = some root ∧ ⟨root, k⟩ = p') ∧
        lineEnd? mid = some rest := by
  simp only [line?, Option.bind_eq_bind, Option.bind_eq_some_iff, Prod.exists,
    expect?_eq_some_iff]
  constructor
  · rintro ⟨k, -, hk, -, rfl, mid, rfl, root, hroot, rest, hend, hp⟩
    obtain ⟨rfl, rfl⟩ := Prod.mk.inj (Option.some.inj hp)
    exact ⟨k, mid, hk, ⟨root, hroot, rfl⟩, hend⟩
  · rintro ⟨k, mid, hk, ⟨root, hroot, rfl⟩, hend⟩
    exact ⟨k, _, hk, _, rfl, mid, rfl, root, hroot, rest, hend, rfl⟩

/-- One bracket begins the header of a table. -/
theorem line?_table_eq_some_iff (hhead : cs.head? ≠ some '[') :
    line? p ('[' :: cs) = some (p', rest) ↔
      ∃ k mid, key? (cs.length + 1) cs = some (k, ']' :: mid) ∧
        (∃ root, p.root.change Members.openTable k = some root ∧ ⟨root, k⟩ = p') ∧
          lineEnd? mid = some rest := by
  have hsecond : ∀ cs', cs = '[' :: cs' → False := by
    rintro cs' rfl
    exact hhead rfl
  rw [line?]
  · simp only [Option.bind_eq_bind, Option.bind_eq_some_iff, Prod.exists, expect?_eq_some_iff]
    constructor
    · rintro ⟨k, -, hk, mid, rfl, root, hroot, rest, hend, hp⟩
      obtain ⟨rfl, rfl⟩ := Prod.mk.inj (Option.some.inj hp)
      exact ⟨k, mid, hk, ⟨root, hroot, rfl⟩, hend⟩
    · rintro ⟨k, mid, hk, ⟨root, hroot, rfl⟩, hend⟩
      exact ⟨k, _, hk, mid, rfl, root, hroot, rest, hend, rfl⟩
  · exact hsecond

/-- Any other line gives a value to a key. -/
theorem line?_value_eq_some_iff (hhead : cs.head? ≠ some '[') :
    line? p cs = some (p', rest) ↔
      ∃ k mid v after, key? (cs.length + 1) cs = some (k, '=' :: mid) ∧
        value? maxLevels (2 * mid.length + 2) (skipBlanks mid) = some (v, after) ∧
          (∃ root, p.root.defineWithin p.header k v = some root ∧ ⟨root, p.header⟩ = p') ∧
            lineEnd? after = some rest := by
  have hfirst : ∀ cs', cs = '[' :: cs' → False := by
    rintro cs' rfl
    exact hhead rfl
  rw [line?]
  · simp only [Option.bind_eq_bind, Option.bind_eq_some_iff, Prod.exists, expect?_eq_some_iff]
    constructor
    · rintro ⟨k, -, hk, mid, rfl, v, after, hv, root, hroot, rest, hend, hp⟩
      obtain ⟨rfl, rfl⟩ := Prod.mk.inj (Option.some.inj hp)
      exact ⟨k, mid, v, after, hk, hv, ⟨root, hroot, rfl⟩, hend⟩
    · rintro ⟨k, mid, v, after, hk, hv, ⟨root, hroot, rfl⟩, hend⟩
      exact ⟨k, _, hk, mid, rfl, v, after, hv, root, hroot, rest, hend, rfl⟩
  · exact fun cs' h => hfirst _ h
  · exact hfirst

end Kinds

/-- The key at the front of a text. -/
theorem local_wholeKey? : Local fun _ cs k rest => key? (cs.length + 1) cs = some (k, rest) :=
  local_key?.bounded fun _ => Nat.lt_succ_self _

/-- The value of a line behind its equals sign. -/
theorem local_lineValue? : Local fun _ cs v rest =>
    value? maxLevels (2 * cs.length + 2) (skipBlanks cs) = some (v, rest) where
  suffix h := ((suffix_of_reads _).1 h).trans (skipBlanks_suffix _)
  behind := by
    intro q hq u w x _ v h _ _ y
    rw [skipBlanks_append hq] at h ⊢
    refine (behind hq _).value h ?_ y
    have hlength : (skipBlanks u).length ≤ u.length := (skipBlanks_suffix u).length_le
    rw [List.length_append]
    omega

/-- Marks behind each other. -/
theorem local_marks {marks : List Char} (hmarks : ∀ c ∈ marks, ¬IsQuote c) :
    Local fun _ cs (_ : Unit) rest => cs = marks ++ rest where
  suffix := by
    rintro _ cs _ rest rfl
    exact List.suffix_append _ _
  behind := by
    rintro q hq u w x - - h - - y
    induction marks generalizing u with
    | nil => rw [List.append_cancel_right h, List.nil_append]
    | cons c marks ih =>
      obtain ⟨v, rfl, hv⟩ := exists_of_append_quote (hq.ne (hmarks c List.mem_cons_self)) h
      rw [List.cons_append, ih (fun d hd => hmarks d (List.mem_cons_of_mem _ hd)) hv.symm]
      rfl

/-- A header behind its opening brackets, which as many brackets close. -/
theorem local_header? (brackets : ℕ) :
    Local fun _ cs k rest => ∃ mid,
      key? (cs.length + 1) cs = some (k, List.replicate brackets ']' ++ mid) ∧
        lineEnd? mid = some rest := by
  have hbrackets : ∀ c ∈ List.replicate brackets ']', ¬IsQuote c := by
    intro c hc
    rw [List.eq_of_mem_replicate hc]
    decide
  have hall := (local_wholeKey?.andThen (local_marks hbrackets)).andThen local_lineEnd?
  constructor
  · rintro n cs k rest ⟨mid, hk, hend⟩
    exact hall.suffix (n := n) (a := ((k, ()), ())) ⟨mid, ⟨_, hk, rfl⟩, hend⟩
  · rintro q hq u w x n k ⟨mid, hk, hend⟩ m hm y
    obtain ⟨mid', ⟨_, hk', rfl⟩, hend'⟩ :=
      hall.behind (n := n) (a := ((k, ()), ())) hq ⟨mid, ⟨_, hk, rfl⟩, hend⟩ hm y
    exact ⟨mid', hk', hend'⟩

/-- A line begins with two brackets, with one or with none. -/
theorem line_cases (cs : List Char) : (∃ cs', cs = '[' :: '[' :: cs') ∨
    (∃ cs', cs = '[' :: cs' ∧ cs'.head? ≠ some '[') ∨ cs.head? ≠ some '[' := by
  by_cases hfirst : cs.head? = some '['
  · obtain ⟨cs', rfl⟩ := List.head?_eq_some_iff.1 hfirst
    by_cases hsecond : cs'.head? = some '['
    · obtain ⟨cs'', rfl⟩ := List.head?_eq_some_iff.1 hsecond
      exact .inl ⟨cs'', rfl⟩
    · exact .inr (.inl ⟨cs', rfl, hsecond⟩)
  · exact .inr (.inr hfirst)

/-- A line that ends before a quote is read whatever stands behind the quote. -/
theorem local_line? (p : Progress) : Local fun _ cs p' rest => line? p cs = some (p', rest) where
  suffix := by
    intro n cs p' rest h
    obtain ⟨cs, rfl⟩ | ⟨cs, rfl, hhead⟩ | hhead := line_cases cs
    · obtain ⟨k, mid, hk, -, hend⟩ := line?_row_eq_some_iff.1 h
      exact ((local_header? 2).suffix (n := n) ⟨mid, hk, hend⟩).trans
        ((List.suffix_cons _ _).trans (List.suffix_cons _ _))
    · obtain ⟨k, mid, hk, -, hend⟩ := (line?_table_eq_some_iff hhead).1 h
      exact ((local_header? 1).suffix (n := n) ⟨mid, hk, hend⟩).trans (List.suffix_cons _ _)
    · obtain ⟨k, mid, v, after, hk, hv, -, hend⟩ := (line?_value_eq_some_iff hhead).1 h
      exact (local_lineEnd?.suffix (n := n) (a := ()) hend).trans
        ((local_lineValue?.suffix (n := n) hv).trans
          ((List.suffix_cons _ _).trans (local_wholeKey?.suffix (n := n) hk)))
  behind := by
    rintro q hq u w x n p' h m hm y
    have hbracket : q ≠ '[' := hq.ne (by decide)
    obtain ⟨cs, hcs⟩ | ⟨cs, hcs, hhead⟩ | hhead := line_cases (u ++ q :: x)
    · obtain ⟨u, rfl, hcs'⟩ := exists_of_append_quote hbracket hcs
      obtain ⟨u, rfl, -⟩ := exists_of_append_quote hbracket hcs'.symm
      obtain ⟨k, mid, hk, hp, hend⟩ := line?_row_eq_some_iff.1 h
      obtain ⟨mid', hk', hend'⟩ :=
        (local_header? 2).behind (n := n) hq ⟨mid, hk, hend⟩ (Nat.lt_succ_self _) y
      exact line?_row_eq_some_iff.2 ⟨k, mid', hk', hp, hend'⟩
    · obtain ⟨u, rfl, rfl⟩ := exists_of_append_quote hbracket hcs
      obtain ⟨k, mid, hk, hp, hend⟩ := (line?_table_eq_some_iff hhead).1 h
      obtain ⟨mid', hk', hend'⟩ :=
        (local_header? 1).behind (n := n) hq ⟨mid, hk, hend⟩ (Nat.lt_succ_self _) y
      rw [head?_append_quote u x y] at hhead
      exact (line?_table_eq_some_iff hhead).2 ⟨k, mid', hk', hp, hend'⟩
    · obtain ⟨k, mid, v, after, hk, hv, hp, hend⟩ := (line?_value_eq_some_iff hhead).1 h
      have hequals : ∀ c ∈ ['='], ¬IsQuote c := List.forall_mem_singleton.2 (by decide)
      have hall := ((local_wholeKey?.andThen (local_marks hequals)).andThen
        local_lineValue?).andThen local_lineEnd?
      obtain ⟨after', ⟨mid', ⟨_, hk', rfl⟩, hv'⟩, hend'⟩ :=
        hall.behind (n := n) (a := (((k, ()), v), ())) hq
          ⟨after, ⟨mid, ⟨_, hk, rfl⟩, hv⟩, hend⟩ hm y
      rw [head?_append_quote u x y] at hhead
      exact (line?_value_eq_some_iff hhead).2 ⟨k, mid', v, after', hk', hv', hp, hend'⟩

end PayLink.Toml
