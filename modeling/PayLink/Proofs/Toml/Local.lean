import Mathlib.Data.List.TakeWhile
import PayLink.Toml.Lexical
/-!
# Readers that do not look behind a quote

A reader of a settings file takes what it reads from the front of a text. If it stops before a quote
or at it, then it has not looked at what stands behind the quote, so anything else could stand
there. That is shown for blanks, comments and line ends, and how it carries over from a reader to
another that calls it.
-/

namespace PayLink.Toml

/-- The characters that begin a string. -/
def IsQuote (c : Char) : Prop :=
  c = '"' ∨ c = '\''

instance : DecidablePred IsQuote := fun c =>
  inferInstanceAs (Decidable (c = '"' ∨ c = '\''))

/-- A quote is none of the other marks. -/
theorem IsQuote.ne {q c : Char} (hq : IsQuote q) (hc : ¬IsQuote c) : q ≠ c := by
  rintro rfl
  exact hc hq

/-- `read n cs a rest` says that `a` is read from `cs` and `rest` is left, in at most `n` steps.
What is left is an end of the text. If a quote is left, what stands behind it does not matter, and
there need not be more steps than characters before the quote and one. -/
structure Local {α : Type} (read : ℕ → List Char → α → List Char → Prop) : Prop where
  /-- What is left is an end of the text. -/
  suffix : ∀ {n cs a rest}, read n cs a rest → rest <:+ cs
  /-- Anything else can stand behind a quote that is left. -/
  behind : ∀ {q}, IsQuote q → ∀ {u w x n a}, read n (u ++ q :: x) a (w ++ q :: x) →
    ∀ {m}, u.length < m → ∀ y, read m (u ++ q :: y) a (w ++ q :: y)

/-- What lies between a text and an end of it, both with the same end. -/
theorem exists_of_suffix {u w t mid : List Char} (hw : w ++ t <:+ mid) (hmid : mid <:+ u ++ t) :
    ∃ v, mid = v ++ t ∧ v.length ≤ u.length := by
  obtain ⟨p, rfl⟩ := hw
  have hlength := hmid.length_le
  simp only [List.length_append] at hlength
  exact ⟨p ++ w, (List.append_assoc p w t).symm, by rw [List.length_append]; omega⟩

/-- What a reader leaves before a quote that another reader does not pass either. -/
theorem Local.exists_behind {α : Type} {read : ℕ → List Char → α → List Char → Prop}
    (h : Local read) {q : Char} (hq : IsQuote q) {n : ℕ} {u w x mid : List Char} {a : α}
    (hread : read n (u ++ q :: x) a mid) (hleft : w ++ q :: x <:+ mid) :
    ∃ v, mid = v ++ q :: x ∧ v.length ≤ u.length ∧
      ∀ m, u.length < m → ∀ y, read m (u ++ q :: y) a (v ++ q :: y) := by
  obtain ⟨v, rfl, hv⟩ := exists_of_suffix hleft (h.suffix hread)
  exact ⟨v, rfl, hv, fun m hm y => h.behind hq hread hm y⟩

/-- One reader after the other, with what both have read. -/
theorem Local.andThen {α β : Type} {first : ℕ → List Char → α → List Char → Prop}
    {next : ℕ → List Char → β → List Char → Prop} (hfirst : Local first) (hnext : Local next) :
    Local fun n cs (p : α × β) rest => ∃ mid, first n cs p.1 mid ∧ next n mid p.2 rest where
  suffix := by
    rintro n cs p rest ⟨mid, hmid, hrest⟩
    exact (hnext.suffix hrest).trans (hfirst.suffix hmid)
  behind := by
    rintro q hq u w x n p ⟨mid, hmid, hrest⟩ m hm y
    obtain ⟨v, rfl, hv, hother⟩ := hfirst.exists_behind hq hmid (hnext.suffix hrest)
    exact ⟨v ++ q :: y, hother m hm y, hnext.behind hq hrest (by omega) y⟩

/-- A reader whose number of steps depends on its text. -/
theorem Local.bounded {α : Type} {read : ℕ → List Char → α → List Char → Prop} (h : Local read)
    {bound : List Char → ℕ} (hbound : ∀ cs, cs.length < bound cs) :
    Local fun _ cs a rest => read (bound cs) cs a rest where
  suffix hrest := h.suffix hrest
  behind := by
    intro q hq u w x _ a hrest _ _ y
    refine h.behind hq hrest ?_ y
    have hlt := hbound (u ++ q :: y)
    rw [List.length_append] at hlt
    omega

section Stop

variable {q : Char} {p : Char → Bool} (hp : p q = false)

include hp

/-- What is dropped before a character that is not dropped. -/
theorem dropWhile_append_stop (u x : List Char) :
    (u ++ q :: x).dropWhile p = u.dropWhile p ++ q :: x := by
  have hstop : (q :: x).dropWhile p = q :: x := List.dropWhile_cons_of_neg (by rw [hp]; decide)
  rw [List.dropWhile_append, hstop]
  split
  · rename_i hnil
    rw [List.isEmpty_iff.1 hnil]
    rfl
  · rfl

/-- What is taken before a character that is not taken. -/
theorem takeWhile_append_stop (u x : List Char) :
    (u ++ q :: x).takeWhile p = u.takeWhile p := by
  have hstop : (q :: x).takeWhile p = [] := List.takeWhile_cons_of_neg (by rw [hp]; decide)
  rw [List.takeWhile_append, hstop]
  split
  · rename_i hall
    rw [List.append_nil]
    exact ((List.takeWhile_prefix p).eq_of_length hall).symm
  · rfl

end Stop

section Quote

variable {q : Char} (hq : IsQuote q)

include hq

/-- A quote is no blank, no line end and no other control character. -/
theorem IsQuote.plain : isBlank q = false ∧ isControl q = false ∧ q ≠ '\n' ∧ q ≠ '\r' := by
  rcases hq with rfl | rfl
  all_goals decide

/-- Blanks before a quote. -/
theorem skipBlanks_append (u x : List Char) :
    skipBlanks (u ++ q :: x) = skipBlanks u ++ q :: x :=
  dropWhile_append_stop hq.plain.1 u x

/-- A line end before a quote. -/
theorem newline?_append (u x : List Char) :
    newline? (u ++ q :: x) = (newline? u).map (· ++ q :: x) := by
  obtain ⟨-, -, hfeed, hreturn⟩ := hq.plain
  unfold newline?
  rcases u with - | ⟨c, - | ⟨d, u⟩⟩
  · simp [hfeed, hreturn]
  · simp only [List.cons_append, List.nil_append]
    split <;> simp_all
  · simp only [List.cons_append]
    split <;> simp_all

end Quote

/-- Behind its blanks is an end of a text. -/
theorem skipBlanks_suffix (cs : List Char) : skipBlanks cs <:+ cs :=
  List.dropWhile_suffix _

/-- Behind a line end is an end of the text. -/
theorem newline?_suffix {cs rest : List Char} (h : newline? cs = some rest) : rest <:+ cs := by
  unfold newline? at h
  split at h
  · cases h
    exact List.suffix_cons _ _
  · cases h
    exact (List.suffix_cons _ _).trans (List.suffix_cons _ _)
  · cases h

/-- A line end takes something from the text. -/
theorem newline?_lt {cs rest : List Char} (h : newline? cs = some rest) :
    rest.length < cs.length := by
  unfold newline? at h
  split at h
  all_goals cases h
  all_goals
    simp only [List.length_cons]
    omega

/-- Behind a comment is an end of the text. -/
theorem skipComment?_suffix {cs rest : List Char} (h : skipComment? cs = some rest) :
    rest <:+ cs := by
  fun_induction skipComment? cs with
  | case1 | case2 | case5 => cases h; exact List.suffix_rfl
  | case3 => cases h
  | case4 c cs hreturn hfeed hcontrol ih => exact (ih h).trans (List.suffix_cons _ _)

/-- A comment ends before a quote only if its line does. -/
theorem local_skipComment? : Local fun _ cs (_ : Unit) rest => skipComment? cs = some rest where
  suffix := skipComment?_suffix
  behind := by
    rintro q hq u w x - - h m - y
    obtain ⟨-, hcontrol, hfeed, hreturn⟩ := hq.plain
    have hstep : ∀ {c : Char} {cs : List Char} (t : List Char),
        (∀ rest, c = '\r' → cs = '\n' :: rest → False) → (c = '\n' → False) →
          skipComment? (c :: cs ++ q :: t) =
            if isControl c = true then none else skipComment? (cs ++ q :: t) := by
      intro c cs t hcs hc
      refine skipComment?.eq_3 c (cs ++ q :: t) (fun rest hr ht => ?_) hc
      cases cs with
      | nil => exact hfeed (List.cons.inj ht).1
      | cons d cs => exact hcs cs hr (by rw [(List.cons.inj ht).1])
    fun_induction skipComment? u with
    | case1 rest =>
      rw [List.cons_append, List.cons_append, skipComment?] at h ⊢
      have hw : '\r' :: '\n' :: rest = w := List.append_cancel_right (Option.some.inj h)
      rw [← hw]
      rfl
    | case2 rest =>
      rw [List.cons_append, skipComment?] at h ⊢
      have hw : '\n' :: rest = w := List.append_cancel_right (Option.some.inj h)
      rw [← hw]
      rfl
    | case3 c cs hcs hc hcontrol =>
      rw [hstep x hcs hc, if_pos hcontrol] at h
      cases h
    | case4 c cs hcs hc hcontrol ih =>
      rw [hstep x hcs hc, if_neg hcontrol] at h
      rw [hstep y hcs hc, if_neg hcontrol]
      exact ih h
    | case5 =>
      have hskip : skipComment? (q :: x) = skipComment? x := by
        rw [skipComment?.eq_3 q x (fun _ hr _ => hreturn hr) hfeed, hcontrol]
        rfl
      have hlength := (skipComment?_suffix (hskip ▸ h)).length_le
      simp only [List.length_append, List.length_cons] at hlength
      omega

/-- A line end that is read before a quote is read whatever stands behind the quote. -/
theorem local_newline? : Local fun _ cs (_ : Unit) rest => newline? cs = some rest where
  suffix := newline?_suffix
  behind := by
    rintro q hq u w x - - h m - y
    rw [newline?_append hq] at h ⊢
    obtain ⟨v, hv, hw⟩ := Option.map_eq_some_iff.1 h
    rw [hv, ← List.append_cancel_right hw]
    rfl

/-- Blanks that are skipped before a quote are skipped whatever stands behind the quote. -/
theorem local_skipBlanks : Local fun _ cs (_ : Unit) rest => skipBlanks cs = rest where
  suffix {_ cs _ _} h := h ▸ skipBlanks_suffix cs
  behind := by
    rintro q hq u w x - - h m - y
    rw [skipBlanks_append hq] at h ⊢
    rw [List.append_cancel_right h]

/-- What is left after a comment, if one begins the text. -/
def afterComment? : List Char → Option (List Char)
  | '#' :: rest => skipComment? rest
  | rest => some rest

/-- A text that begins with no comment is left as it is. -/
theorem afterComment?_of_ne {c : Char} (hc : c ≠ '#') (cs : List Char) :
    afterComment? (c :: cs) = some (c :: cs) := by
  unfold afterComment?
  split
  · rename_i h
    exact absurd (List.cons.inj h).1 hc
  · rfl

/-- Whether a comment is skipped, and where it ends, is seen before a quote that is left. -/
theorem local_afterComment? : Local fun _ cs (_ : Unit) rest => afterComment? cs = some rest where
  suffix := by
    rintro - cs - rest h
    unfold afterComment? at h
    split at h
    · exact (skipComment?_suffix h).trans (List.suffix_cons _ _)
    · cases h
      exact List.suffix_rfl
  behind := by
    rintro q hq u w x n a h m hm y
    have hmark : q ≠ '#' := hq.ne (by decide)
    rcases u with - | ⟨c, u⟩
    · rw [List.nil_append, afterComment?_of_ne hmark] at h ⊢
      have hw : [] = w := List.append_cancel_right (Option.some.inj h)
      rw [← hw]
      rfl
    · by_cases hc : c = '#'
      · subst hc
        exact local_skipComment?.behind (n := n) (a := a) hq h (Nat.lt_of_succ_lt hm) y
      · rw [List.cons_append, afterComment?_of_ne hc] at h ⊢
        have hw : c :: u = w := List.append_cancel_right (Option.some.inj h)
        rw [← hw]
        rfl

/-- The end of a line that may be the end of the text. -/
theorem lineEnd?_eq (cs : List Char) :
    lineEnd? cs = (afterComment? (skipBlanks cs)).bind fun rest =>
      if rest.isEmpty then some [] else newline? rest := by
  unfold lineEnd? afterComment?
  cases skipBlanks cs with
  | nil => rfl
  | cons c rest =>
    by_cases hc : c = '#'
    · subst hc
      rfl
    · simp [hc]

/-- Whether a line ends is seen before a quote that is left. -/
theorem local_lineEnd? : Local fun _ cs (_ : Unit) rest => lineEnd? cs = some rest where
  suffix := by
    rintro n cs a rest h
    rw [lineEnd?_eq] at h
    obtain ⟨mid, hmid, hrest⟩ := Option.bind_eq_some_iff.1 h
    refine (?_ : rest <:+ mid).trans
      ((local_afterComment?.suffix (n := n) (a := a) hmid).trans (skipBlanks_suffix cs))
    split at hrest
    · cases hrest
      exact List.nil_suffix
    · exact newline?_suffix hrest
  behind := by
    rintro q hq u w x n a h m hm y
    -- the line does not end with the text, since a quote is left
    have hlines := (local_skipBlanks.andThen local_afterComment?).andThen local_newline?
    have hskip : ∀ cs rest, rest ≠ [] → (lineEnd? cs = some rest ↔
        ∃ mid, afterComment? (skipBlanks cs) = some mid ∧ newline? mid = some rest) := by
      intro cs rest hrest
      rw [lineEnd?_eq, Option.bind_eq_some_iff]
      refine exists_congr fun mid => and_congr_right fun _ => ?_
      split
      · rename_i hmid
        rw [List.isEmpty_iff.1 hmid]
        exact iff_of_false (fun h => hrest (Option.some.inj h).symm) (by simp [newline?])
      · exact Iff.rfl
    obtain ⟨mid, hmid, hrest⟩ := (hskip _ _ (by simp)).1 h
    obtain ⟨mid', ⟨-, rfl, hmid'⟩, hrest'⟩ :=
      hlines.behind (n := n) (a := (((), ()), ())) hq ⟨mid, ⟨_, rfl, hmid⟩, hrest⟩ hm y
    exact (hskip _ _ (by simp)).2 ⟨mid', hmid', hrest'⟩

section Lines

variable {n : ℕ} {cs rest : List Char}

/-- A comment is skipped with its line. -/
theorem skipLines?_comment (h : skipBlanks cs = '#' :: rest) :
    skipLines? (n + 1) cs = (skipComment? rest).bind (skipLines? n) := by
  rw [skipLines?, h]
  rfl

/-- A line without comment is skipped if it ends. -/
theorem skipLines?_line (h : (skipBlanks cs).head? ≠ some '#') :
    skipLines? (n + 1) cs =
      match newline? (skipBlanks cs) with
      | some rest => skipLines? n rest
      | none => some (skipBlanks cs) := by
  rw [skipLines?]
  split
  · rename_i hcomment
    exact absurd (congrArg List.head? hcomment) h
  · rfl

end Lines

/-- Behind blanks, comments and line ends is an end of the text. -/
theorem skipLines?_suffix {n : ℕ} {cs rest : List Char} (h : skipLines? n cs = some rest) :
    rest <:+ cs := by
  induction n generalizing cs with
  | zero => cases h
  | succ n ih =>
    have hblanks := skipBlanks_suffix cs
    by_cases hhead : (skipBlanks cs).head? = some '#'
    · obtain ⟨comment, hcomment⟩ := List.head?_eq_some_iff.1 hhead
      rw [skipLines?_comment hcomment] at h
      obtain ⟨mid, hmid, hrest⟩ := Option.bind_eq_some_iff.1 h
      rw [hcomment] at hblanks
      exact (ih hrest).trans ((skipComment?_suffix hmid).trans
        ((List.suffix_cons _ _).trans hblanks))
    · rw [skipLines?_line hhead] at h
      split at h
      · rename_i mid hmid
        exact (ih h).trans ((newline?_suffix hmid).trans hblanks)
      · cases h
        exact hblanks

/-- Blanks, comments and line ends that are skipped before a quote are skipped whatever stands
behind the quote. -/
theorem local_skipLines? : Local fun n cs (_ : Unit) rest => skipLines? n cs = some rest where
  suffix := skipLines?_suffix
  behind := by
    rintro q hq u w x n a h m hm y
    induction n generalizing u m with
    | zero => cases h
    | succ n ih =>
      obtain ⟨m, rfl⟩ : ∃ k, m = k + 1 := ⟨m - 1, by omega⟩
      have hlength : (skipBlanks u).length ≤ u.length := (skipBlanks_suffix u).length_le
      by_cases hhead : (skipBlanks u).head? = some '#'
      · obtain ⟨comment, hcomment⟩ := List.head?_eq_some_iff.1 hhead
        rw [hcomment, List.length_cons] at hlength
        have hskip : ∀ t, skipBlanks (u ++ q :: t) = '#' :: (comment ++ q :: t) := fun t => by
          rw [skipBlanks_append hq, hcomment]
          rfl
        rw [skipLines?_comment (hskip x)] at h
        rw [skipLines?_comment (hskip y)]
        obtain ⟨mid, hmid, hrest⟩ := Option.bind_eq_some_iff.1 h
        obtain ⟨v, rfl, hv⟩ :=
          exists_of_suffix (skipLines?_suffix hrest) (skipComment?_suffix hmid)
        have hcomment' := local_skipComment?.behind (n := n) (a := a) hq hmid hlength y
        exact Option.bind_eq_some_iff.2 ⟨v ++ q :: y, hcomment', ih hrest (by omega)⟩
      · have hhead' : ∀ t, (skipBlanks (u ++ q :: t)).head? ≠ some '#' := by
          intro t
          rw [skipBlanks_append hq]
          cases hblanks : skipBlanks u with
          | nil => exact fun ht => hq.ne (by decide) (Option.some.inj ht)
          | cons c v =>
            rw [hblanks] at hhead
            exact hhead
        rw [skipLines?_line (hhead' x)] at h
        rw [skipLines?_line (hhead' y)]
        rw [skipBlanks_append hq, newline?_append hq] at h ⊢
        cases hline : newline? (skipBlanks u) with
        | none =>
          rw [hline] at h
          rw [List.append_cancel_right (Option.some.inj h)]
          rfl
        | some v =>
          rw [hline] at h
          exact ih h (by have hlt := newline?_lt hline; omega)

/-- Blanks, comments and line ends between values. -/
theorem local_skipSpace? : Local fun _ cs (_ : Unit) rest => skipSpace? cs = some rest :=
  local_skipLines?.bounded fun _ => Nat.lt_succ_self _

end PayLink.Toml
