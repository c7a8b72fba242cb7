import PayLink.Proofs.Toml.Local
import PayLink.Toml.Text
/-!
# Strings that end before a quote

A string that ends before a quote is read whatever stands behind that quote. What one step reads of
a string is said once for each kind of string, and what holds of whole strings follows from it.
-/

namespace PayLink.Toml

/-- What is left is an end of the text, and not all of it. -/
def Shortens (cs rest : List Char) : Prop :=
  rest <:+ cs ∧ rest.length < cs.length

namespace Shortens

variable {c : Char} {cs rest : List Char}

/-- A text without its first character is shorter, and so is each end of that. -/
theorem of_suffix (h : rest <:+ cs) : Shortens (c :: cs) rest :=
  ⟨h.trans (List.suffix_cons c cs), Nat.lt_succ_of_le h.length_le⟩

/-- What is left is not longer than the text. -/
theorem not_append {u x : List Char} (h : Shortens x (u ++ x)) : False := by
  have hlength := h.2
  rw [List.length_append] at hlength
  omega

end Shortens

section Escapes

/-- An escape with digits. -/
theorem sized_eq_some_iff {n : ℕ} {cs rest : List Char} {c d : Char} :
    escape?.sized n cs c = some (d, rest) ↔ n ≤ cs.length ∧ c = d ∧ cs.drop n = rest := by
  unfold escape?.sized
  split
  · rename_i hn
    rw [Option.some.injEq, Prod.mk.injEq]
    exact (and_iff_right hn).symm
  · rename_i hn
    exact iff_of_false (fun h => by cases h) fun h => hn h.1

/-- An escape takes something from the text. -/
theorem escape?_shortens {cs rest : List Char} {c : Char} (h : escape? cs = some (c, rest)) :
    Shortens cs rest := by
  have hsized : ∀ {n cs d}, ((hexChar? d).bind (escape?.sized n cs)) = some (c, rest) →
      rest <:+ cs := by
    intro n cs d hc
    obtain ⟨_, -, hc⟩ := Option.bind_eq_some_iff.1 hc
    obtain ⟨-, -, rfl⟩ := sized_eq_some_iff.1 hc
    exact List.drop_suffix _ _
  unfold escape? at h
  split at h
  · exact .of_suffix (hsized h)
  · exact .of_suffix (hsized h)
  · exact .of_suffix (hsized h)
  · obtain ⟨_, -, hc⟩ := Option.map_eq_some_iff.1 h
    cases hc
    exact .of_suffix List.suffix_rfl
  · cases h

/-- The digits of an escape that ends before a text are read whatever the text is. -/
theorem sized_append {n : ℕ} {u w x : List Char} {c : Char}
    (h : (hexChar? ((u ++ x).take n)).bind (escape?.sized n (u ++ x)) = some (c, w ++ x))
    (y : List Char) :
    (hexChar? ((u ++ y).take n)).bind (escape?.sized n (u ++ y)) = some (c, w ++ y) := by
  obtain ⟨d, hd, hc⟩ := Option.bind_eq_some_iff.1 h
  obtain ⟨hn, rfl, hw⟩ := sized_eq_some_iff.1 hc
  have hlength := congrArg List.length hw
  simp only [List.length_drop, List.length_append] at hlength hn
  have hnu : n ≤ u.length := by omega
  rw [List.drop_append_of_le_length hnu] at hw
  refine Option.bind_eq_some_iff.2 ⟨d, ?_, sized_eq_some_iff.2 ⟨?_, rfl, ?_⟩⟩
  · rw [← hd, List.take_append_of_le_length hnu, List.take_append_of_le_length hnu]
  · rw [List.length_append]
    omega
  · rw [List.drop_append_of_le_length hnu, List.append_cancel_right hw]

/-- An escape is read whatever stands behind a quote that is left. -/
theorem local_escape? : Local fun _ cs c rest => escape? cs = some (c, rest) where
  suffix h := (escape?_shortens h).1
  behind := by
    rintro q hq u w x - c h m - y
    rcases u with - | ⟨e, u⟩
    · exact absurd (escape?_shortens h) Shortens.not_append
    · rw [List.cons_append] at h ⊢
      by_cases hx : e = 'x'
      · subst hx
        rw [escape?] at h ⊢
        exact sized_append h (q :: y)
      by_cases hu : e = 'u'
      · subst hu
        rw [escape?] at h ⊢
        exact sized_append h (q :: y)
      by_cases hU : e = 'U'
      · subst hU
        rw [escape?] at h ⊢
        exact sized_append h (q :: y)
      rw [escape?.eq_4 _ _ hx hu hU] at h ⊢
      obtain ⟨d, hd, hc⟩ := Option.map_eq_some_iff.1 h
      obtain ⟨rfl, hw⟩ := Prod.mk.inj hc
      rw [hd, List.append_cancel_right hw]
      rfl

end Escapes

section Line

variable {n : ℕ} {c : Char} {cs s rest : List Char}

/-- One step of reading a string between double quotes: its end, an escape or another character. -/
theorem basic?_cons_eq_some_iff :
    basic? (n + 1) (c :: cs) = some (s, rest) ↔
      (c = '"' ∧ [] = s ∧ cs = rest) ∨
      (c = '\\' ∧ ∃ e mid s', escape? cs = some (e, mid) ∧ basic? n mid = some (s', rest) ∧
        e :: s' = s) ∨
      (c ≠ '"' ∧ c ≠ '\\' ∧ isControl c = false ∧
        ∃ s', basic? n cs = some (s', rest) ∧ c :: s' = s) := by
  by_cases hquote : c = '"'
  · subst hquote
    rw [basic?]
    simp
  by_cases hslash : c = '\\'
  · subst hslash
    rw [basic?]
    simp [Option.bind_eq_some_iff]
  rw [basic?.eq_4 n c cs hquote hslash]
  cases hcontrol : isControl c with
  | true => simp [hquote, hslash]
  | false => simp [hquote, hslash, Option.bind_eq_some_iff]

/-- One step of reading a string between single quotes: its end or another character. -/
theorem literal?_cons_eq_some_iff :
    literal? (c :: cs) = some (s, rest) ↔
      (c = '\'' ∧ [] = s ∧ cs = rest) ∨
      (c ≠ '\'' ∧ isControl c = false ∧ ∃ s', literal? cs = some (s', rest) ∧ c :: s' = s) := by
  by_cases hquote : c = '\''
  · subst hquote
    rw [literal?]
    simp
  rw [literal?.eq_2 c cs hquote]
  cases hcontrol : isControl c with
  | true => simp [hquote]
  | false => simp [hquote]

/-- A string with escapes takes something from the text. -/
theorem basic?_shortens (h : basic? n cs = some (s, rest)) : Shortens cs rest := by
  induction n generalizing cs s with
  | zero => cases h
  | succ n ih =>
    cases cs with
    | nil => cases h
    | cons c cs =>
      obtain ⟨-, -, rfl⟩ | ⟨-, e, mid, s', he, hs, -⟩ | ⟨-, -, -, s', hs, -⟩ :=
        basic?_cons_eq_some_iff.1 h
      · exact .of_suffix List.suffix_rfl
      · exact .of_suffix ((ih hs).1.trans (escape?_shortens he).1)
      · exact .of_suffix (ih hs).1

/-- A string without escapes takes something from the text. -/
theorem literal?_shortens (h : literal? cs = some (s, rest)) : Shortens cs rest := by
  induction cs generalizing s with
  | nil => cases h
  | cons c cs ih =>
    obtain ⟨-, -, rfl⟩ | ⟨-, -, s', hs, -⟩ := literal?_cons_eq_some_iff.1 h
    · exact .of_suffix List.suffix_rfl
    · exact .of_suffix (ih hs).1

end Line

/-- A string with escapes is read whatever stands behind a quote that is left. -/
theorem local_basic? : Local fun n cs s rest => basic? n cs = some (s, rest) where
  suffix h := (basic?_shortens h).1
  behind := by
    rintro q hq u w x n s h m hm y
    induction n generalizing u m s with
    | zero => cases h
    | succ n ih =>
      obtain ⟨m, rfl⟩ : ∃ k, m = k + 1 := ⟨m - 1, by omega⟩
      rcases u with - | ⟨c, u⟩
      · exact absurd (basic?_shortens h) Shortens.not_append
      · have hm' : u.length < m := Nat.lt_of_succ_lt_succ hm
        rw [List.cons_append, basic?_cons_eq_some_iff] at h ⊢
        refine h.imp ?_ (Or.imp ?_ ?_)
        · rintro ⟨hc, hs, hrest⟩
          exact ⟨hc, hs, by rw [List.append_cancel_right hrest]⟩
        · rintro ⟨hc, e, mid, s', he, hs, hcons⟩
          obtain ⟨v, rfl, hv⟩ := exists_of_suffix (basic?_shortens hs).1 (escape?_shortens he).1
          exact ⟨hc, e, v ++ q :: y, s', local_escape?.behind (n := n) hq he hm' y,
            ih hs (by omega), hcons⟩
        · rintro ⟨hquote, hslash, hcontrol, s', hs, hcons⟩
          exact ⟨hquote, hslash, hcontrol, s', ih hs hm', hcons⟩

/-- A string without escapes is read whatever stands behind a quote that is left. -/
theorem local_literal? : Local fun _ cs s rest => literal? cs = some (s, rest) where
  suffix h := (literal?_shortens h).1
  behind := by
    rintro q hq u w x - s h m - y
    induction u generalizing s with
    | nil => exact absurd (literal?_shortens h) Shortens.not_append
    | cons c u ih =>
      rw [List.cons_append, literal?_cons_eq_some_iff] at h ⊢
      refine h.imp ?_ ?_
      · rintro ⟨hc, hs, hrest⟩
        exact ⟨hc, hs, by rw [List.append_cancel_right hrest]⟩
      · rintro ⟨hquote, hcontrol, s', hs, hcons⟩
        exact ⟨hquote, hcontrol, s', ih hs, hcons⟩

section Closing

variable {quote : Char} {cs s rest : List Char}

/-- Quotes at the front of a text end a string of several lines if they are three or more. -/
theorem closing?_eq_some_iff :
    closing? quote cs = some (s, rest) ↔ 3 ≤ (cs.takeWhile (· = quote)).length ∧
      List.replicate (min ((cs.takeWhile (· = quote)).length - 3) 2) quote = s ∧
      cs.drop (min ((cs.takeWhile (· = quote)).length - 3) 2 + 3) = rest := by
  rw [closing?]
  dsimp only
  split
  · rename_i hrun
    exact iff_of_false (fun h => by cases h) fun h => by omega
  · rename_i hrun
    rw [Option.some.injEq, Prod.mk.injEq]
    exact (and_iff_right (Nat.le_of_not_lt hrun)).symm

/-- Fewer than three quotes do not end a string of several lines. -/
theorem closing?_eq_none_iff :
    closing? quote cs = none ↔ (cs.takeWhile (· = quote)).length < 3 := by
  rw [closing?]
  dsimp only
  split
  · rename_i hrun
    exact iff_of_true rfl hrun
  · rename_i hrun
    exact iff_of_false (fun h => by cases h) hrun

/-- The quotes that end a string of several lines are taken from the text. -/
theorem closing?_shortens (h : closing? quote cs = some (s, rest)) : Shortens cs rest := by
  obtain ⟨hrun, -, rfl⟩ := closing?_eq_some_iff.1 h
  have hlength : (cs.takeWhile (· = quote)).length ≤ cs.length :=
    (List.takeWhile_prefix _).length_le
  refine ⟨List.drop_suffix _ _, ?_⟩
  rw [List.length_drop]
  omega

/-- How many quotes are at the front of a text that goes on with a quote: the same number whatever
stands behind that quote, unless they reach it. -/
theorem length_quotes_append (q : Char) (u x y : List Char) :
    (((u ++ q :: x).takeWhile (· = quote)).length = ((u ++ q :: y).takeWhile (· = quote)).length ∧
        ((u ++ q :: x).takeWhile (· = quote)).length ≤ u.length) ∨
      (q = quote ∧ (∀ c ∈ u, c = quote) ∧
        u.length < ((u ++ q :: x).takeWhile (· = quote)).length ∧
        u.length < ((u ++ q :: y).takeWhile (· = quote)).length) := by
  induction u with
  | nil =>
    by_cases hq : q = quote
    · exact .inr ⟨hq, fun c hc => absurd hc List.not_mem_nil, by simp [hq], by simp [hq]⟩
    · exact .inl ⟨by simp [hq], by simp [hq]⟩
  | cons c u ih =>
    by_cases hc : c = quote
    · refine ih.imp ?_ ?_
      · rintro ⟨hsame, hle⟩
        exact ⟨by simpa [hc] using hsame, by simpa [hc] using hle⟩
      · rintro ⟨hq, hall, hx, hy⟩
        exact ⟨hq, List.forall_mem_cons.2 ⟨hc, hall⟩, by simpa [hc] using hx,
          by simpa [hc] using hy⟩
    · exact .inl ⟨by simp [hc], by simp [hc]⟩

end Closing

/-- The quotes that end a string of several lines do so whatever stands behind a quote that is left.
-/
theorem local_closing? (quote : Char) :
    Local fun _ cs s rest => closing? quote cs = some (s, rest) where
  suffix h := (closing?_shortens h).1
  behind := by
    rintro q hq u w x - s h m - y
    obtain ⟨hrun, hs, hrest⟩ := closing?_eq_some_iff.1 h
    have hlength := congrArg List.length hrest
    simp only [List.length_drop, List.length_append, List.length_cons] at hlength
    -- the quotes that are taken all stand before the quote that is left
    have hsame : 3 ≤ ((u ++ q :: y).takeWhile (· = quote)).length ∧
        min (((u ++ q :: x).takeWhile (· = quote)).length - 3) 2 =
          min (((u ++ q :: y).takeWhile (· = quote)).length - 3) 2 := by
      rcases length_quotes_append q u x y with ⟨hsame, hle⟩ | ⟨-, -, hx, hy⟩
      · rw [← hsame]
        exact ⟨hrun, rfl⟩
      · omega
    have hu : min (((u ++ q :: x).takeWhile (· = quote)).length - 3) 2 + 3 ≤ u.length := by omega
    rw [List.drop_append_of_le_length hu] at hrest
    rw [closing?_eq_some_iff, ← hsame.2, List.drop_append_of_le_length hu,
      List.append_cancel_right hrest]
    exact ⟨hsame.1, hs, rfl⟩

/-- No quotes end a string before a quote, unless what stands before it is a single quote of the
same kind. -/
theorem closing?_append_eq_none {quote q : Char} {u x : List Char}
    (h : closing? quote (u ++ q :: x) = none) (hu : q = quote → u ≠ [quote]) (hne : u ≠ [])
    (y : List Char) : closing? quote (u ++ q :: y) = none := by
  rw [closing?_eq_none_iff] at h ⊢
  rcases length_quotes_append q u x y with ⟨hsame, -⟩ | ⟨hq, hall, hx, hy⟩
  · rwa [← hsame]
  · -- two quotes before the one that follows would be three
    obtain ⟨c, rfl⟩ : ∃ c, u = [c] := List.length_eq_one_iff.1 (by
      have hpos := List.length_pos_iff.2 hne
      omega)
    exact absurd (by rw [hall c List.mem_cons_self]) (hu hq)

/-- A backslash at the end of a line joins it with what follows the blanks and line ends after it.
-/
theorem continuation?_eq (cs : List Char) :
    continuation? cs = (newline? (skipBlanks cs)).map fun rest =>
      rest.dropWhile fun c => isBlank c || c = '\n' || c = '\r' := by
  rw [continuation?]
  cases newline? (skipBlanks cs) with
  | none => rfl
  | some rest => rfl

/-- Whether a line goes on is seen before a quote, and what it goes on with ends at the quote. -/
theorem continuation?_append {q : Char} (hq : IsQuote q) (u x : List Char) :
    continuation? (u ++ q :: x) = (continuation? u).map (· ++ q :: x) := by
  have hstop : (isBlank q || q = '\n' || q = '\r') = false := by
    rcases hq with rfl | rfl
    all_goals rfl
  rw [continuation?_eq, continuation?_eq, skipBlanks_append hq, newline?_append hq]
  cases newline? (skipBlanks u) with
  | none => rfl
  | some rest => exact congrArg some (dropWhile_append_stop hstop rest x)

/-- What a line goes on with is an end of the text. -/
theorem continuation?_suffix {cs rest : List Char} (h : continuation? cs = some rest) :
    rest <:+ cs := by
  rw [continuation?_eq] at h
  obtain ⟨mid, hmid, rfl⟩ := Option.map_eq_some_iff.1 h
  exact (List.dropWhile_suffix _).trans ((newline?_suffix hmid).trans (skipBlanks_suffix cs))

section Lines

variable {quote : Char} {escapes : Bool} {n : ℕ} {c : Char} {cs s rest : List Char}

/-- One step of reading a string of several lines: its end, a line that is continued, an escape or
another character. -/
theorem multiline?_cons_eq_some_iff :
    multiline? quote escapes (n + 1) (c :: cs) = some (s, rest) ↔
      closing? quote (c :: cs) = some (s, rest) ∨
      closing? quote (c :: cs) = none ∧
        ((c = '\\' ∧ escapes = true) ∧
          ((∃ mid, continuation? cs = some mid ∧
              multiline? quote escapes n mid = some (s, rest)) ∨
            continuation? cs = none ∧ ∃ e mid s', escape? cs = some (e, mid) ∧
              multiline? quote escapes n mid = some (s', rest) ∧ e :: s' = s) ∨
        ¬(c = '\\' ∧ escapes = true) ∧ ¬(isControl c = true ∧ newline? (c :: cs) = none) ∧
          ∃ s', multiline? quote escapes n cs = some (s', rest) ∧ c :: s' = s) := by
  rw [multiline?]
  cases hclosing : closing? quote (c :: cs) with
  | some done => simp
  | none =>
    by_cases hslash : c = '\\' ∧ escapes = true
    · cases hmore : continuation? cs with
      | some mid => simp [hslash]
      | none => simp [hslash, Option.bind_eq_some_iff]
    · by_cases hcontrol : isControl c = true ∧ newline? (c :: cs) = none
      · simp [hslash, hcontrol]
      · simp [hslash, hcontrol, Option.bind_eq_some_iff]

/-- A string of several lines takes something from the text. -/
theorem multiline?_shortens (h : multiline? quote escapes n cs = some (s, rest)) :
    Shortens cs rest := by
  induction n generalizing cs s with
  | zero => cases h
  | succ n ih =>
    cases cs with
    | nil => cases h
    | cons c cs =>
      rcases multiline?_cons_eq_some_iff.1 h with
        h | ⟨-, ⟨-, ⟨mid, hmid, h⟩ | ⟨-, e, mid, s', he, h, -⟩⟩ | ⟨-, -, s', h, -⟩⟩
      · exact closing?_shortens h
      · exact .of_suffix ((ih h).1.trans (continuation?_suffix hmid))
      · exact .of_suffix ((ih h).1.trans (escape?_shortens he).1)
      · exact .of_suffix (ih h).1

end Lines

/-- A string of several lines is read whatever stands behind a quote that is left. -/
theorem local_multiline? {quote : Char} (hquote : quote ≠ '\\') (escapes : Bool) :
    Local fun n cs s rest => multiline? quote escapes n cs = some (s, rest) where
  suffix h := (multiline?_shortens h).1
  behind := by
    rintro q hq u w x n s h m hm y
    induction n generalizing u m s with
    | zero => cases h
    | succ n ih =>
      obtain ⟨m, rfl⟩ : ∃ k, m = k + 1 := ⟨m - 1, by omega⟩
      rcases u with - | ⟨c, u⟩
      · exact absurd (multiline?_shortens h) Shortens.not_append
      have hm' : u.length < m := Nat.lt_of_succ_lt_succ hm
      have hline : ∀ t, newline? (c :: (u ++ q :: t)) = none ↔ newline? (c :: u) = none := by
        intro t
        rw [← List.cons_append, newline?_append hq, Option.map_eq_none_iff]
      -- a single quote is no end, and the string would go on behind the quote that is left
      have hnone : closing? quote (c :: (u ++ q :: x)) = none →
          closing? quote (c :: (u ++ q :: y)) = none := by
        intro hclosing
        refine closing?_append_eq_none hclosing (fun _ hu => ?_) (List.cons_ne_nil c u) y
        obtain ⟨rfl, rfl⟩ := List.cons.inj hu
        rw [List.cons_append, multiline?_cons_eq_some_iff, hclosing] at h
        obtain h | ⟨-, ⟨⟨hslash, -⟩, -⟩ | ⟨-, -, s', h, -⟩⟩ := h
        · cases h
        · exact hquote hslash
        · exact (multiline?_shortens h).not_append
      rw [List.cons_append, multiline?_cons_eq_some_iff] at h ⊢
      refine h.imp (fun hclosing => ?_) (And.imp hnone (Or.imp (And.imp_right (Or.imp ?_ ?_)) ?_))
      · exact (local_closing? quote).behind (n := n) hq hclosing hm y
      · rintro ⟨mid, hmid, h⟩
        rw [continuation?_append hq] at hmid ⊢
        obtain ⟨v, hv, rfl⟩ := Option.map_eq_some_iff.1 hmid
        have hlength := (continuation?_suffix hv).length_le
        exact ⟨v ++ q :: y, by rw [hv]; rfl, ih h (by omega)⟩
      · rintro ⟨hmore, e, mid, s', he, h, hcons⟩
        obtain ⟨v, rfl, hv⟩ := exists_of_suffix (multiline?_shortens h).1 (escape?_shortens he).1
        refine ⟨?_, e, v ++ q :: y, s', local_escape?.behind (n := n) hq he hm' y,
          ih h (by omega), hcons⟩
        rw [continuation?_append hq] at hmore ⊢
        rw [Option.map_eq_none_iff] at hmore ⊢
        exact hmore
      · rintro ⟨hslash, hcontrol, s', h, hcons⟩
        rw [hline] at hcontrol
        exact ⟨hslash, by rwa [hline], s', ih h hm', hcons⟩

/-- A string of several lines behind its opening quotes. -/
theorem block?_eq (quote : Char) (escapes : Bool) (cs : List Char) :
    block? quote escapes cs = multiline? quote escapes (((newline? cs).getD cs).length + 1)
      ((newline? cs).getD cs) :=
  rfl

/-- Behind a line end that may be missing is an end of the text. -/
theorem getD_newline?_suffix (cs : List Char) : (newline? cs).getD cs <:+ cs := by
  cases hline : newline? cs with
  | none => exact List.suffix_rfl
  | some rest => exact newline?_suffix hline

/-- A string of several lines behind its opening quotes is read whatever stands behind a quote that
is left. -/
theorem local_block? {quote : Char} (hquote : quote ≠ '\\') (escapes : Bool) :
    Local fun _ cs s rest => block? quote escapes cs = some (s, rest) where
  suffix h := (multiline?_shortens h).1.trans (getD_newline?_suffix _)
  behind := by
    rintro q hq u w x n s h m hm y
    have hbody : ∀ t, (newline? (u ++ q :: t)).getD (u ++ q :: t) =
        (newline? u).getD u ++ q :: t := by
      intro t
      rw [newline?_append hq]
      cases newline? u with
      | none => rfl
      | some v => rfl
    rw [block?_eq, hbody] at h ⊢
    refine (local_multiline? hquote escapes).behind hq h ?_ y
    rw [List.length_append]
    omega

/-- The string on one line behind its opening quote. -/
def inLine? (quote : Char) (cs : List Char) : Option (List Char × List Char) :=
  if quote = '"' then basic? (cs.length + 1) cs else literal? cs

/-- A string on one line takes something from the text. -/
theorem inLine?_shortens {quote : Char} {cs s rest : List Char}
    (h : inLine? quote cs = some (s, rest)) : Shortens cs rest := by
  unfold inLine? at h
  split at h
  · exact basic?_shortens h
  · exact literal?_shortens h

/-- A string on one line is read whatever stands behind a quote that is left. -/
theorem local_inLine? (quote : Char) :
    Local fun _ cs s rest => inLine? quote cs = some (s, rest) := by
  by_cases hquote : quote = '"'
  · simp only [inLine?, if_pos hquote]
    exact local_basic?.bounded fun _ => Nat.lt_succ_self _
  · simp only [inLine?, if_neg hquote]
    exact local_literal?

section Strings

variable {c : Char} {cs s rest : List Char}

/-- Three quotes begin a string of several lines. -/
theorem string?_block (hc : IsQuote c) (cs : List Char) :
    string? (c :: c :: c :: cs) = block? c (decide (c = '"')) cs := by
  rcases hc with rfl | rfl
  all_goals rfl

/-- Any other quote begins a string on one line. -/
theorem string?_inLine (hc : IsQuote c) (h : ∀ rest, cs ≠ c :: c :: rest) :
    string? (c :: cs) = inLine? c cs := by
  rcases hc with rfl | rfl
  · exact string?.eq_2 cs h
  · exact string?.eq_4 cs h

/-- A string begins with a quote. -/
theorem isQuote_of_string? (h : string? (c :: cs) = some (s, rest)) : IsQuote c := by
  by_contra hc
  have hquote := not_or.1 hc
  rw [string?.eq_5 _ (fun _ he => hquote.1 (List.cons.inj he).1)
    (fun _ he => hquote.1 (List.cons.inj he).1) (fun _ he => hquote.2 (List.cons.inj he).1)
    (fun _ he => hquote.2 (List.cons.inj he).1)] at h
  cases h

/-- More than the opening quote is read of a string. -/
theorem string?_shortens (h : string? (c :: cs) = some (s, rest)) : Shortens cs rest := by
  have hc := isQuote_of_string? h
  by_cases hblock : ∃ cs', cs = c :: c :: cs'
  · obtain ⟨cs', rfl⟩ := hblock
    rw [string?_block hc, block?_eq] at h
    exact .of_suffix (((multiline?_shortens h).1.trans (getD_newline?_suffix cs')).trans
      (List.suffix_cons _ _))
  · rw [string?_inLine hc (not_exists.1 hblock)] at h
    exact inLine?_shortens h

end Strings

/-- A string of any kind is read whatever stands behind a quote that is left. -/
theorem local_string? : Local fun _ cs s rest => string? cs = some (s, rest) where
  suffix {_ cs s rest} h := by
    cases cs with
    | nil => cases h
    | cons c cs => exact (string?_shortens h).1.trans (List.suffix_cons c cs)
  behind := by
    rintro q hq u w x n s h m hm y
    rcases u with - | ⟨c, - | ⟨d, u⟩⟩
    · exact absurd (Shortens.of_suffix (string?_shortens h).1) Shortens.not_append
    · exact absurd (string?_shortens h) Shortens.not_append
    have hc := isQuote_of_string? h
    by_cases hblock : ∃ cs, d :: (u ++ q :: x) = c :: c :: cs
    · obtain ⟨cs, hcs⟩ := hblock
      obtain ⟨rfl, hcs⟩ := List.cons.inj hcs
      rcases u with - | ⟨e, u⟩
      · -- the quote that is left would be one of the opening quotes
        obtain ⟨rfl, rfl⟩ := List.cons.inj hcs
        rw [List.cons_append, List.cons_append, List.nil_append, string?_block hc, block?_eq] at h
        have hlength := ((multiline?_shortens h).1.trans (getD_newline?_suffix x)).length_le
        simp only [List.length_append, List.length_cons] at hlength
        omega
      · obtain ⟨rfl, rfl⟩ := List.cons.inj hcs
        simp only [List.cons_append] at h ⊢
        rw [string?_block hc] at h ⊢
        have hquote : e ≠ '\\' := by
          rcases hc with rfl | rfl
          all_goals decide
        exact (local_block? hquote _).behind (n := n) hq h (Nat.lt_succ_self _) y
    · have hblock' : ∀ cs, d :: (u ++ q :: y) ≠ c :: c :: cs := by
        intro cs hcs
        obtain ⟨rfl, hcs⟩ := List.cons.inj hcs
        rcases u with - | ⟨e, u⟩
        · exact hblock ⟨x, by rw [(List.cons.inj hcs).1]; rfl⟩
        · exact hblock ⟨u ++ q :: x, by rw [(List.cons.inj hcs).1]; rfl⟩
      simp only [List.cons_append] at h ⊢
      rw [string?_inLine hc (not_exists.1 hblock), ← List.cons_append] at h
      rw [string?_inLine hc hblock', ← List.cons_append]
      exact (local_inLine? c).behind (n := n) hq h (Nat.lt_succ_self _) y

section Plain

/-- A character that stands for itself between the given quotes. -/
def IsPlain (q c : Char) : Prop :=
  c ≠ q ∧ c ≠ '\\' ∧ isControl c = false

instance (q : Char) : DecidablePred (IsPlain q) := fun c =>
  inferInstanceAs (Decidable (c ≠ q ∧ c ≠ '\\' ∧ isControl c = false))

variable {q : Char} {s rest : List Char}

/-- Plain characters on one line, up to the closing quote. -/
theorem inLine?_of_plain (hq : IsQuote q) (hs : ∀ c ∈ s, IsPlain q c) :
    inLine? q (s ++ q :: rest) = some (s, rest) := by
  unfold inLine?
  split
  · rename_i hdouble
    subst hdouble
    have hbasic : ∀ n, s.length < n → basic? n (s ++ '"' :: rest) = some (s, rest) := by
      intro n hn
      induction s generalizing n with
      | nil =>
        obtain ⟨n, rfl⟩ : ∃ k, n = k + 1 := ⟨n - 1, by omega⟩
        exact basic?_cons_eq_some_iff.2 (.inl ⟨rfl, rfl, rfl⟩)
      | cons c s ih =>
        obtain ⟨n, rfl⟩ : ∃ k, n = k + 1 := ⟨n - 1, by omega⟩
        obtain ⟨hquote, hslash, hcontrol⟩ := hs c List.mem_cons_self
        have hmore := ih (fun d hd => hs d (List.mem_cons_of_mem _ hd)) n (Nat.lt_of_succ_lt_succ hn)
        exact basic?_cons_eq_some_iff.2 (.inr (.inr ⟨hquote, hslash, hcontrol, s, hmore, rfl⟩))
    exact hbasic _ (by rw [List.length_append]; omega)
  · rename_i hdouble
    obtain rfl := hq.resolve_left hdouble
    induction s with
    | nil => exact literal?_cons_eq_some_iff.2 (.inl ⟨rfl, rfl, rfl⟩)
    | cons c s ih =>
      obtain ⟨hquote, -, hcontrol⟩ := hs c List.mem_cons_self
      have hmore := ih fun d hd => hs d (List.mem_cons_of_mem _ hd)
      exact literal?_cons_eq_some_iff.2 (.inr ⟨hquote, hcontrol, s, hmore, rfl⟩)

/-- Plain characters on several lines, up to the closing quotes. -/
theorem multiline?_of_plain {escapes : Bool} (hs : ∀ c ∈ s, IsPlain q c)
    (hrest : rest.head? ≠ some q) {n : ℕ} (hn : s.length < n) :
    multiline? q escapes n (s ++ q :: q :: q :: rest) = some (s, rest) := by
  induction s generalizing n with
  | nil =>
    obtain ⟨n, rfl⟩ : ∃ k, n = k + 1 := ⟨n - 1, by omega⟩
    refine multiline?_cons_eq_some_iff.2 (.inl (closing?_eq_some_iff.2 ?_))
    have hrun : rest.takeWhile (· = q) = [] := by
      cases rest with
      | nil => rfl
      | cons c rest =>
        have hc : c ≠ q := fun hc => hrest (congrArg some hc)
        exact List.takeWhile_cons_of_neg (by simpa using hc)
    simp [hrun]
  | cons c s ih =>
    obtain ⟨n, rfl⟩ : ∃ k, n = k + 1 := ⟨n - 1, by omega⟩
    obtain ⟨hquote, hslash, hcontrol⟩ := hs c List.mem_cons_self
    have hmore := ih (fun d hd => hs d (List.mem_cons_of_mem _ hd)) (Nat.lt_of_succ_lt_succ hn)
    have hopen : closing? q (c :: (s ++ q :: q :: q :: rest)) = none := by
      rw [closing?_eq_none_iff, List.takeWhile_cons_of_neg (by simpa using hquote)]
      exact Nat.zero_lt_succ _
    exact multiline?_cons_eq_some_iff.2 (.inr ⟨hopen, .inr ⟨fun h => hslash h.1, fun h => by
      rw [hcontrol] at h; exact absurd h.1 (by decide), s, hmore, rfl⟩⟩)

/-- A string on one line with plain characters ends at its quote. -/
theorem string?_of_plain (hq : IsQuote q) (hs : ∀ c ∈ s, IsPlain q c)
    (hrest : rest.head? ≠ some q) : string? (q :: (s ++ q :: rest)) = some (s, rest) := by
  rw [string?_inLine hq, inLine?_of_plain hq hs]
  intro more hmore
  cases s with
  | nil => exact hrest (by rw [(List.cons.inj hmore).2]; rfl)
  | cons c s => exact (hs c List.mem_cons_self).1 (List.cons.inj hmore).1

/-- A string on several lines with plain characters ends at its quotes. -/
theorem string?_of_plain_block (hq : IsQuote q) (hs : ∀ c ∈ s, IsPlain q c)
    (hrest : rest.head? ≠ some q) :
    string? (q :: q :: q :: (s ++ q :: q :: q :: rest)) = some (s, rest) := by
  have hline : newline? s = none := by
    cases s with
    | nil => rfl
    | cons c s =>
      have hcontrol := (hs c List.mem_cons_self).2.2
      unfold newline?
      split
      · rename_i heq
        rw [(List.cons.inj heq).1] at hcontrol
        exact absurd hcontrol (by decide)
      · rename_i heq
        rw [(List.cons.inj heq).1] at hcontrol
        exact absurd hcontrol (by decide)
      · rfl
  rw [string?_block hq, block?_eq, newline?_append hq, hline]
  refine multiline?_of_plain hs hrest ?_
  rw [Option.map_none, Option.getD_none, List.length_append]
  omega

end Plain

end PayLink.Toml
