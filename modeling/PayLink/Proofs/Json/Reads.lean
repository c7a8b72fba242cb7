import Mathlib.Data.List.Forall2
import PayLink.Proofs.Json.Scalar
/-!
# Texts that are read as a value

A text is read as a value if it is, whatever follows it that does not continue a number. The texts
of single values are read so, and those of arrays and objects are if the texts of their items and
members are, with commas and any blanks between them. An array and an object are both lists between
two marks, and what holds of such lists is shown once.
-/

namespace PayLink.Json

namespace Reader

open Writer (joined)

/-- Blanks alone. -/
def AllBlank (cs : List Char) : Prop :=
  ∀ c ∈ cs, isBlank c = true

/-- Blanks at the front are skipped. -/
theorem skipBlanks_append {gap : List Char} (h : AllBlank gap) (cs : List Char) :
    skipBlanks (gap ++ cs) = skipBlanks cs :=
  List.dropWhile_append_of_pos h

/-- What begins with no blank is left as it is. -/
theorem skipBlanks_cons {c : Char} (h : isBlank c = false) (cs : List Char) :
    skipBlanks (c :: cs) = c :: cs :=
  List.dropWhile_cons_of_neg (by rw [h]; exact Bool.false_ne_true)

/-- Skipping blanks before a value makes no difference to the value. -/
theorem value?_append {gap : List Char} (h : AllBlank gap) (n : Nat) (cs : List Char) :
    value? n (gap ++ cs) = value? n cs := by
  cases n with
  | zero => rw [value?, value?]
  | succ n => rw [value?, value?, skipBlanks_append h]

/-- Skipping blanks before items makes no difference to the items. -/
theorem elements?_append {gap : List Char} (h : AllBlank gap) (n : Nat) (cs : List Char) :
    elements? n (gap ++ cs) = elements? n cs := by
  cases n with
  | zero => rw [elements?, elements?]
  | succ n => rw [elements?, elements?, value?_append h]

/-- Skipping blanks before members makes no difference to the members. -/
theorem members?_append {gap : List Char} (h : AllBlank gap) (n : Nat) (cs : List Char) :
    members? n (gap ++ cs) = members? n cs := by
  cases n with
  | zero => rw [members?, members?]
  | succ n => rw [members?, members?, skipBlanks_append h]

/-- A text begins with a character that is neither a blank nor a closing mark. -/
def Opens (cs : List Char) : Prop :=
  ∃ c ds, cs = c :: ds ∧ isBlank c = false ∧ c ≠ ']' ∧ c ≠ '}'

/-- A text is read as a value, whatever follows it. -/
structure Reads (v : Value) (cs : List Char) : Prop where
  /-- It does not begin with a blank or the end of what is around it. -/
  opens : Opens cs
  /-- Two steps for each character are enough to read it. -/
  read : ∀ n rest, 2 * cs.length ≤ n → EndsNumber rest → value? n (cs ++ rest) = some (v, rest)

/-- A text is read if one step reads it. -/
theorem Reads.of_step {v : Value} {cs : List Char} (hopens : Opens cs)
    (h : ∀ n rest, EndsNumber rest → value? (n + 1) (cs ++ rest) = some (v, rest)) :
    Reads v cs where
  opens := hopens
  read n rest hn hrest := by
    obtain ⟨c, ds, rfl, -⟩ := hopens
    rw [List.length_cons] at hn
    obtain ⟨m, rfl⟩ : ∃ m, n = m + 1 := ⟨n - 1, by omega⟩
    exact h m rest hrest

/-- Blanks, commas and closing marks end a number. -/
theorem endsNumber_cons {c : Char}
    (hc : isBlank c = true ∨ c = ',' ∨ c = ']' ∨ c = '}') (rest : List Char) :
    EndsNumber (c :: rest) := by
  intro d hd
  obtain rfl := Option.some.inj hd
  simp only [isBlank, Bool.or_eq_true, decide_eq_true_eq] at hc
  rcases hc with (((rfl | rfl) | rfl) | rfl) | rfl | rfl | rfl
  all_goals decide

/-- Blanks end a number if what follows them does. -/
theorem endsNumber_append {gap rest : List Char} (hgap : AllBlank gap) (hrest : EndsNumber rest) :
    EndsNumber (gap ++ rest) := by
  cases gap with
  | nil => exact hrest
  | cons b gap => exact endsNumber_cons (.inl (hgap b List.mem_cons_self)) _

/-- The word for nothing is read. -/
theorem reads_null : Reads .null ['n', 'u', 'l', 'l'] := by
  refine .of_step ⟨_, _, rfl, rfl, by decide, by decide⟩ fun n rest _ => ?_
  rw [value?]
  rfl

/-- A truth value is read as it is written. -/
theorem reads_bool (b : Bool) : Reads (.bool b) (Writer.compact (.bool b)) := by
  cases b
  all_goals
    refine .of_step ⟨_, _, rfl, rfl, by decide, by decide⟩ fun n rest _ => ?_
    rw [value?]
    rfl

/-- A text is read as it is written. -/
theorem reads_text (s : String) : Reads (.text s) (Writer.string (some s)) := by
  refine .of_step ⟨_, _, rfl, rfl, by decide, by decide⟩ fun n rest _ => ?_
  rw [value?, Writer.string, List.cons_append, List.cons_append, List.append_assoc,
    skipBlanks_cons rfl]
  change (string? (s.toList.flatMap Writer.stringChar ++ '"' :: rest)).map _ = _
  rw [string?_flatMap]
  rfl

/-- An integer is written with a sign or a digit first. -/
theorem exists_integer_eq_cons (k : Int) :
    ∃ c ds, Writer.integer k = c :: ds ∧ (c = '-' ∨ c.isDigit = true) := by
  cases k with
  | ofNat n =>
    cases hd : Nat.toDigits 10 n with
    | nil => exact absurd hd Nat.toDigits_ne_nil
    | cons c ds =>
      have hc : c ∈ Nat.toDigits 10 n := by
        rw [hd]
        exact List.mem_cons_self
      exact ⟨c, ds, hd, .inr (Nat.isDigit_of_mem_toDigits (by decide) (by decide) hc)⟩
  | negSucc n => exact ⟨_, _, rfl, .inl rfl⟩

/-- A sign and the digits are no blanks, and begin nothing but a number. -/
theorem value?_number {c : Char} (hc : c = '-' ∨ c.isDigit = true) (n : Nat) (cs : List Char) :
    Opens (c :: cs) ∧
      value? (n + 1) (c :: cs) = (number? (c :: cs)).map fun p => (.number p.1, p.2) := by
  have hmark : ∀ d, d ≠ '-' → d.isDigit = false → c ≠ d := by
    rintro d hd hdigit rfl
    rcases hc with hc | hc
    · exact hd hc
    · rw [hdigit] at hc
      cases hc
  have hblank : isBlank c = false := by
    refine eq_false_of_ne_true fun h => ?_
    simp only [isBlank, Bool.or_eq_true, decide_eq_true_eq] at h
    rcases h with ((h | h) | h) | h
    all_goals exact hmark _ (by decide) (by decide) h
  refine ⟨⟨c, cs, rfl, hblank, hmark _ (by decide) (by decide),
    hmark _ (by decide) (by decide)⟩, ?_⟩
  rw [value?, skipBlanks_cons hblank]
  split
  case h_7 => rfl
  all_goals
    rename_i h
    exact absurd (List.cons.inj h).1 (hmark _ (by decide) (by decide))

/-- An integer is read as it is written. -/
theorem reads_integer (k : Int) : Reads (.number (.integer k)) (Writer.integer k) := by
  obtain ⟨c, ds, hcs, hc⟩ := exists_integer_eq_cons k
  refine .of_step (hcs ▸ (value?_number hc 0 ds).1) fun n rest hrest => ?_
  have hvalue := (value?_number hc n (ds ++ rest)).2
  rw [← List.cons_append, ← hcs, number?_integer k hrest] at hvalue
  exact hvalue

/-- The first of several pieces is followed by the gap and the others. -/
theorem joined_cons_cons (gap p q : List Char) (ps : List (List Char)) :
    joined gap (p :: q :: ps) = p ++ (gap ++ joined gap (q :: ps)) :=
  List.append_assoc ..

/-- A text is that of a member: of its name, a colon and its value, with any blanks between. -/
inductive ReadsMember : Option String × Value → List Char → Prop
  /-- The name is written as a string, and the text of the value is read as it. -/
  | intro {k : String} {v : Value} {gap p : List Char} (hgap : AllBlank gap) (hv : Reads v p) :
    ReadsMember (some k, v) (Writer.string (some k) ++ ':' :: (gap ++ p))

/-- A member begins with a quote. -/
theorem ReadsMember.opens {m : Option String × Value} {p : List Char} (h : ReadsMember m p) :
    Opens p := by
  obtain ⟨-, -⟩ := h
  exact ⟨_, _, rfl, rfl, by decide, by decide⟩

/-- The name and the value of a member are read one after the other. -/
theorem ReadsMember.read {m : Option String × Value} {p : List Char} (h : ReadsMember m p)
    {n : Nat} {rest : List Char} (hn : 2 * p.length ≤ n) (hrest : EndsNumber rest) :
    ∃ cs rest', p ++ rest = '"' :: cs ∧ string? cs = some (m.1, ':' :: rest') ∧
      value? n rest' = some (m.2, rest) := by
  obtain ⟨hgap, hv⟩ := h
  rename_i k v gap p
  refine ⟨k.toList.flatMap Writer.stringChar ++ '"' :: ':' :: (gap ++ (p ++ rest)),
    gap ++ (p ++ rest), ?_, string?_flatMap k _, ?_⟩
  · simp only [Writer.string, Option.getD_some, List.cons_append, List.append_assoc,
      List.nil_append]
  · rw [value?_append hgap]
    refine hv.read n rest ?_ hrest
    simp only [List.length_append, List.length_cons] at hn
    omega

/-- Pieces begin as the first of them does. -/
theorem opens_joined {p : List Char} (hp : Opens p) (gap : List Char) (ps : List (List Char))
    (rest : List Char) : Opens (joined gap (p :: ps) ++ rest) := by
  obtain ⟨c, ds, rfl, hc⟩ := hp
  cases ps with
  | nil => exact ⟨c, ds ++ rest, rfl, hc⟩
  | cons q ps => exact ⟨c, _, rfl, hc⟩

section Brackets

variable {opening cs rest : List Char} (hopening : AllBlank opening) (hcs : Opens cs) {n : Nat}

include hopening hcs

/-- Items behind an opening bracket make an array. -/
theorem value?_bracket {vs : List Value} (hvs : elements? n cs = some (vs, rest)) :
    value? (n + 1) ('[' :: (opening ++ cs)) = some (.array vs, rest) := by
  obtain ⟨c, ds, rfl, hblank, hbracket, -⟩ := hcs
  rw [value?, skipBlanks_cons rfl]
  split
  case h_1 h =>
    rw [← (List.cons.inj h).2, skipBlanks_append hopening, skipBlanks_cons hblank]
    split
    · rename_i h
      exact absurd (List.cons.inj h).1 hbracket
    · rw [hvs]
      rfl
  case h_7 h _ _ _ _ _ => exact absurd rfl (h _)
  -- every other form begins with another character
  all_goals
    rename_i h
    exact absurd (List.cons.inj h).1 (by decide)

/-- Members behind an opening brace make an object. -/
theorem value?_brace {ms : List (Option String × Value)}
    (hms : members? n cs = some (ms, rest)) :
    value? (n + 1) ('{' :: (opening ++ cs)) = some (.object ms, rest) := by
  obtain ⟨c, ds, rfl, hblank, -, hbrace⟩ := hcs
  rw [value?, skipBlanks_cons rfl]
  split
  case h_2 h =>
    rw [← (List.cons.inj h).2, skipBlanks_append hopening, skipBlanks_cons hblank]
    split
    · rename_i h
      exact absurd (List.cons.inj h).1 hbrace
    · rw [hms]
      rfl
  case h_7 _ h _ _ _ _ => exact absurd rfl (h _)
  -- every other form begins with another character
  all_goals
    rename_i h
    exact absurd (List.cons.inj h).1 (by decide)

end Brackets

section Steps

variable {n : Nat} {rest rest' rest'' : List Char} (hrest : EndsNumber rest')

include hrest

/-- A closing bracket behind an item ends the items. -/
theorem elements?_last {v : Value} {p : List Char} (hp : Reads v p) (hn : 2 * p.length ≤ n)
    (hclosing : skipBlanks rest' = ']' :: rest) :
    elements? (n + 1) (p ++ rest') = some ([v], rest) := by
  rw [elements?, hp.read n rest' hn hrest]
  simp only [Option.bind_eq_bind, Option.bind_some, hclosing]

/-- After a comma behind an item there are more items. -/
theorem elements?_more {v : Value} {p : List Char} {vs : List Value} (hp : Reads v p)
    (hn : 2 * p.length ≤ n) (hcomma : skipBlanks rest' = ',' :: rest'')
    (hvs : elements? n rest'' = some (vs, rest)) :
    elements? (n + 1) (p ++ rest') = some (v :: vs, rest) := by
  rw [elements?, hp.read n rest' hn hrest]
  simp only [Option.bind_eq_bind, Option.bind_some, hcomma, hvs]

/-- A closing brace behind a member ends the members. -/
theorem members?_last {m : Option String × Value} {p : List Char} (hp : ReadsMember m p)
    (hn : 2 * p.length ≤ n) (hclosing : skipBlanks rest' = '}' :: rest) :
    members? (n + 1) (p ++ rest') = some ([m], rest) := by
  obtain ⟨cs, after, hcs, hname, hvalue⟩ := hp.read hn hrest
  have hcolon : skipBlanks (':' :: after) = ':' :: after := skipBlanks_cons rfl after
  rw [hcs, members?, skipBlanks_cons rfl]
  simp only [Option.bind_eq_bind, hname, hcolon, hvalue, Option.bind_some, hclosing]

/-- After a comma behind a member there are more members. -/
theorem members?_more {m : Option String × Value} {p : List Char}
    {ms : List (Option String × Value)} (hp : ReadsMember m p) (hn : 2 * p.length ≤ n)
    (hcomma : skipBlanks rest' = ',' :: rest'') (hms : members? n rest'' = some (ms, rest)) :
    members? (n + 1) (p ++ rest') = some (m :: ms, rest) := by
  obtain ⟨cs, after, hcs, hname, hvalue⟩ := hp.read hn hrest
  have hcolon : skipBlanks (':' :: after) = ':' :: after := skipBlanks_cons rfl after
  rw [hcs, members?, skipBlanks_cons rfl]
  simp only [Option.bind_eq_bind, hname, hcolon, hvalue, Option.bind_some, hcomma, hms]

end Steps

/-- How a list between two marks is read: one item after the other, with commas between them. -/
structure Enclosed {α : Type} (opening closing : Char) (wrap : List α → Value)
    (read : Nat → List Char → Option (List α × List Char)) (Item : α → List Char → Prop) :
    Prop where
  /-- The opening mark can begin a value. -/
  opens : ∀ cs, Opens (opening :: cs)
  /-- The closing mark is one of the two that there are. -/
  closing_eq : closing = ']' ∨ closing = '}'
  /-- An item does not begin with a blank or a closing mark. -/
  opens_item : ∀ {a p}, Item a p → Opens p
  /-- Blanks before the items make no difference. -/
  read_append : ∀ {gap}, AllBlank gap → ∀ n cs, read n (gap ++ cs) = read n cs
  /-- The closing mark behind an item ends the list. -/
  last : ∀ {n a p rest rest'}, EndsNumber rest' → Item a p → 2 * p.length ≤ n →
    skipBlanks rest' = closing :: rest → read (n + 1) (p ++ rest') = some ([a], rest)
  /-- After a comma behind an item there is more of the list. -/
  more : ∀ {n a p as rest rest' rest''}, EndsNumber rest' → Item a p → 2 * p.length ≤ n →
    skipBlanks rest' = ',' :: rest'' → read n rest'' = some (as, rest) →
    read (n + 1) (p ++ rest') = some (a :: as, rest)
  /-- A list behind the opening mark is the value. -/
  value : ∀ {gap cs n as rest}, AllBlank gap → Opens cs → read n cs = some (as, rest) →
    value? (n + 1) (opening :: (gap ++ cs)) = some (wrap as, rest)

/-- An array is a list of values between brackets. -/
theorem enclosed_array : Enclosed '[' ']' .array elements? Reads where
  opens _ := ⟨_, _, rfl, rfl, by decide, by decide⟩
  closing_eq := .inl rfl
  opens_item := Reads.opens
  read_append := elements?_append
  last hrest hp := elements?_last hrest hp
  more hrest hp := elements?_more hrest hp
  value hgap hcs hvs := value?_bracket hgap hcs hvs

/-- An object is a list of members between braces. -/
theorem enclosed_object : Enclosed '{' '}' .object members? ReadsMember where
  opens _ := ⟨_, _, rfl, rfl, by decide, by decide⟩
  closing_eq := .inr rfl
  opens_item := ReadsMember.opens
  read_append := members?_append
  last hrest hp := members?_last hrest hp
  more hrest hp := members?_more hrest hp
  value hgap hcs hms := value?_brace hgap hcs hms

namespace Enclosed

variable {α : Type} {opening closing : Char} {wrap : List α → Value}
  {read : Nat → List Char → Option (List α × List Char)} {Item : α → List Char → Prop}
  (h : Enclosed opening closing wrap read Item) {first gap final : List Char}
  (hgap : AllBlank gap) (hfinal : AllBlank final)

include h hgap hfinal

/-- Items with commas between them are read up to the closing mark. -/
theorem read_joined {a : α} {p : List Char} {as : List α} {ps : List (List Char)} (hp : Item a p)
    (hps : List.Forall₂ Item as ps) (n : Nat) (rest : List Char)
    (hn : 2 * (joined (',' :: gap) (p :: ps)).length < n) :
    read n (joined (',' :: gap) (p :: ps) ++ (final ++ closing :: rest)) =
      some (a :: as, rest) := by
  obtain ⟨l, rfl⟩ : ∃ l, n = l + 1 := ⟨n - 1, by omega⟩
  induction hps generalizing a p l with
  | nil =>
    have hclosing : isBlank closing = false ∧ EndsNumber (closing :: rest) := by
      rcases h.closing_eq with rfl | rfl
      · exact ⟨rfl, endsNumber_cons (.inr (.inr (.inl rfl))) rest⟩
      · exact ⟨rfl, endsNumber_cons (.inr (.inr (.inr rfl))) rest⟩
    rw [joined] at hn ⊢
    refine h.last (endsNumber_append hfinal hclosing.2) hp (by omega) ?_
    rw [skipBlanks_append hfinal, skipBlanks_cons hclosing.1]
  | @cons b q as ps hq hqs ih =>
    simp only [joined_cons_cons, List.length_append, List.length_cons] at hn
    obtain ⟨k, rfl⟩ : ∃ k, l = k + 1 := ⟨l - 1, by omega⟩
    rw [joined_cons_cons, List.append_assoc, List.append_assoc, List.cons_append]
    refine h.more (endsNumber_cons (.inr (.inl rfl)) _) hp (by omega) (skipBlanks_cons rfl _) ?_
    rw [h.read_append hgap]
    exact ih hq k (by omega)

/-- Items between the marks are read as the value that they make. -/
theorem reads (hfirst : AllBlank first) {as : List α} {ps : List (List Char)}
    (hps : List.Forall₂ Item as ps) (hne : ps ≠ []) :
    Reads (wrap as)
      (opening :: (first ++ (joined (',' :: gap) ps ++ (final ++ [closing])))) := by
  refine ⟨h.opens _, fun n rest hn _ => ?_⟩
  obtain - | @⟨a, p, as, ps, hp, hps⟩ := hps
  · exact absurd rfl hne
  simp only [List.length_append, List.length_cons] at hn
  obtain ⟨m, rfl⟩ : ∃ m, n = m + 1 := ⟨n - 1, by omega⟩
  simp only [List.cons_append, List.append_assoc, List.nil_append]
  exact h.value hfirst (opens_joined (h.opens_item hp) _ _ _)
    (h.read_joined hgap hfinal hp hps m rest (by omega))

end Enclosed

/-- Two brackets are read as the array without items. -/
theorem reads_emptyArray : Reads (.array []) ['[', ']'] := by
  refine .of_step ⟨_, _, rfl, rfl, by decide, by decide⟩ fun n rest _ => ?_
  rw [value?]
  rfl

/-- Two braces are read as the object without members. -/
theorem reads_emptyObject : Reads (.object []) ['{', '}'] := by
  refine .of_step ⟨_, _, rfl, rfl, by decide, by decide⟩ fun n rest _ => ?_
  rw [value?]
  rfl

/-- What is read with any blanks behind it is the value of its text. -/
theorem read?_of_reads {v : Value} {cs blanks : List Char} (h : Reads v cs)
    (hblanks : AllBlank blanks) : read? (String.ofList (cs ++ blanks)) = some v := by
  have hends : EndsNumber blanks := by
    rw [← List.append_nil blanks]
    exact endsNumber_append hblanks fun c hc => by cases hc
  have hskip : skipBlanks blanks = [] := by
    rw [← List.append_nil blanks, skipBlanks_append hblanks]
    rfl
  have hvalue := h.read (2 * (cs ++ blanks).length + 2) blanks
    (by rw [List.length_append]; omega) hends
  simp only [read?, String.toList_ofList, hvalue, hskip, List.isEmpty_nil, if_true]

end Reader

end PayLink.Json
