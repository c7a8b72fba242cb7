import Mathlib.Data.List.TakeWhile
import PayLink.Proofs.Text.Cut
import PayLink.Settings.Expansion
/-!
# What variables in a text are replaced by

A text has exactly one reading as characters and references. With its references replaced it is the
list of its pieces, each written as what stands for it: so nothing between references is lost,
changed or written twice, and no value is looked at again. Behind a text in which every brace is
closed a text is read as it is on its own, unless it would continue a name; in particular a brace
that is never closed is a reference to all that follows it.
-/

namespace PayLink.Expansion

open PayLink.Text

/-- How a text is cut into pieces. A name without braces is as long as it can be, and is no opening
brace; a name between braces ends at the first closing one; and a brace that is never closed ends
the text. -/
inductive Reading : List Char → List Piece → Prop
  /-- Nothing is left. -/
  | done : Reading [] []
  /-- A character that is no dollar sign. -/
  | plain {c : Char} {cs : List Char} {ps : List Piece} (hc : c ≠ '$') (h : Reading cs ps) :
    Reading (c :: cs) (.plain c :: ps)
  /-- A dollar sign and the longest run of characters of a name. -/
  | bare {name cs : List Char} {ps : List Piece} (hname : ∀ c ∈ name, isNameChar c = true)
    (hends : ∀ c ∈ cs.head?, isNameChar c = false) (hbrace : name = [] → cs.head? ≠ some '{')
    (h : Reading cs ps) : Reading ('$' :: (name ++ cs)) (.bare name :: ps)
  /-- A dollar sign, an opening brace and what stands before the first closing one. -/
  | braced {name cs : List Char} {ps : List Piece} (hname : '}' ∉ name) (h : Reading cs ps) :
    Reading ('$' :: '{' :: (name ++ '}' :: cs)) (.braced name :: ps)
  /-- A dollar sign, an opening brace and the rest of the text. -/
  | unclosed {name : List Char} (hname : '}' ∉ name) :
    Reading ('$' :: '{' :: name) [.unclosed name]

/-- What a piece is replaced by: the value of its name if the name is not empty and has one, and
its own text otherwise. -/
def Piece.replaced (env : Environment) (p : Piece) : List Char :=
  match p.name? with
  | none => p.text
  | some name => if name = [] then p.text else (env.get? name).getD p.text

/-- Whether a piece is anything but a brace that is never closed. -/
def Piece.isClosed : Piece → Bool
  | .unclosed _ => false
  | _ => true

/-- Whether every brace that a reference of the text opens is closed. -/
def isClosed (cs : List Char) : Bool :=
  (pieces cs).all Piece.isClosed

/-- The empty name has no value. -/
theorem get?_nil (env : Environment) : env.get? [] = none :=
  if_pos (.inl rfl)

/-- A piece is written as what it is replaced by. -/
theorem Piece.expand_eq_replaced (env : Environment) (p : Piece) :
    p.expand env.get? = p.replaced env := by
  have hname : ∀ name, (env.get? name).getD p.text =
      if name = [] then p.text else (env.get? name).getD p.text := by
    intro name
    split
    · rename_i hnil
      rw [hnil, get?_nil]
      rfl
    · rfl
  cases p with
  | plain c => rfl
  | bare name => exact hname name
  | braced name => exact hname name
  | unclosed name => exact hname name

/-- A piece without a value is replaced by its own text. -/
theorem Piece.replaced_eq_text {env : Environment} {p : Piece}
    (h : ∀ name ∈ p.name?, env.get? name = none) : p.replaced env = p.text := by
  unfold replaced
  split
  · rfl
  · rename_i name hname
    rw [h name hname]
    exact ite_self _

/-- The pieces of a text are a reading of it. -/
theorem reading_pieces (cs : List Char) : Reading cs (pieces cs) := by
  fun_induction pieces cs with
  | case1 => exact .done
  | case2 cs rest h ih =>
    have hcs : cs = (cut '}' cs).1 ++ '}' :: rest := eq_of_cut (Prod.ext rfl h)
    have hnext := Reading.braced (not_mem_cut '}' cs) ih
    rwa [← hcs] at hnext
  | case3 cs h =>
    have hcs : cs = (cut '}' cs).1 := eq_of_cut_none (Prod.ext rfl h)
    exact .unclosed (hcs ▸ not_mem_cut '}' cs)
  | case4 cs hbrace ih =>
    have hcs : cs.takeWhile isNameChar ++ cs.dropWhile isNameChar = cs :=
      List.takeWhile_append_dropWhile
    have hnext := @Reading.bare (cs.takeWhile isNameChar) _ _
      (fun c hc => List.mem_takeWhile_imp hc) ?_ ?_ ih
    · rwa [hcs] at hnext
    · intro c hc
      have hhead := List.head?_dropWhile_not isNameChar cs
      rw [hc] at hhead
      simpa using hhead
    · intro hnil hhead
      rw [hnil, List.nil_append] at hcs
      rw [hcs] at hhead
      obtain ⟨rest, rfl⟩ := List.head?_eq_some_iff.1 hhead
      exact hbrace rest rfl
  | case5 c cs hbrace hc ih => exact .plain (fun he => hc he) ih

/-- A character that is no dollar sign is a piece. -/
theorem pieces_cons {c : Char} (hc : c ≠ '$') (cs : List Char) :
    pieces (c :: cs) = .plain c :: pieces cs :=
  pieces.eq_4 c cs (fun _ h _ => hc h) hc

/-- A name between braces ends at the first closing one. -/
theorem pieces_braced {name : List Char} (h : '}' ∉ name) (cs : List Char) :
    pieces ('$' :: '{' :: (name ++ '}' :: cs)) = .braced name :: pieces cs := by
  have hcut := cut_append h cs
  rw [pieces]
  split
  · rename_i rest hrest
    rw [hcut] at hrest ⊢
    rw [Option.some.inj hrest]
  · rename_i hrest
    rw [hcut] at hrest
    cases hrest

/-- A brace that is never closed takes the rest of the text. -/
theorem pieces_unclosed {name : List Char} (h : '}' ∉ name) :
    pieces ('$' :: '{' :: name) = [.unclosed name] := by
  rw [pieces]
  split
  · rename_i rest hrest
    rw [cut_of_not_mem h] at hrest
    cases hrest
  · rfl

/-- A name without braces is as long as it can be. -/
theorem pieces_bare {name cs : List Char} (hname : ∀ c ∈ name, isNameChar c = true)
    (hends : ∀ c ∈ cs.head?, isNameChar c = false) (hbrace : name = [] → cs.head? ≠ some '{') :
    pieces ('$' :: (name ++ cs)) = .bare name :: pieces cs := by
  have hstop : cs.takeWhile isNameChar = [] ∧ cs.dropWhile isNameChar = cs := by
    cases cs with
    | nil => exact ⟨rfl, rfl⟩
    | cons c cs =>
      have hc : ¬isNameChar c = true := Bool.eq_false_iff.1 (hends c rfl)
      exact ⟨List.takeWhile_cons_of_neg hc, List.dropWhile_cons_of_neg hc⟩
  rw [pieces, List.takeWhile_append_of_pos hname, List.dropWhile_append_of_pos hname, hstop.1,
    hstop.2, List.append_nil]
  intro rest hrest
  cases name with
  | nil => exact hbrace rfl (by rw [← List.nil_append cs, hrest]; rfl)
  | cons c name =>
    have hc : isNameChar c = true := hname c List.mem_cons_self
    rw [(List.cons.inj hrest).1] at hc
    exact absurd hc (by decide)

/-- A text has one reading. -/
theorem Reading.eq_pieces {cs : List Char} {ps : List Piece} (h : Reading cs ps) :
    ps = pieces cs := by
  induction h with
  | done => exact pieces.eq_1.symm
  | plain hc _ ih => rw [pieces_cons hc, ih]
  | bare hname hends hbrace _ ih => rw [pieces_bare hname hends hbrace, ih]
  | braced hname _ ih => rw [pieces_braced hname, ih]
  | unclosed hname => exact (pieces_unclosed hname).symm

/-- The pieces of a reading are the text. -/
theorem Reading.flatMap_text {cs : List Char} {ps : List Piece} (h : Reading cs ps) :
    ps.flatMap Piece.text = cs := by
  induction h with
  | done => rfl
  | plain _ _ ih => rw [List.flatMap_cons, ih]; rfl
  | bare _ _ _ _ ih => rw [List.flatMap_cons, ih]; rfl
  | braced _ _ ih => rw [List.flatMap_cons, ih]; simp [Piece.text]
  | unclosed _ => simp [Piece.text]

/-- What is written for a text is what its pieces are replaced by, one after the other. -/
theorem Reading.expand_eq {cs : List Char} {ps : List Piece} (h : Reading cs ps)
    (env : Environment) : expand env cs = ps.flatMap (Piece.replaced env) := by
  rw [expand, h.eq_pieces]
  exact List.flatMap_congr fun p _ => p.expand_eq_replaced env

/-- A text without a name that has a value is written as it is. -/
theorem expand_eq_self {env : Environment} {cs : List Char}
    (h : ∀ name ∈ names cs, env.get? name = none) : expand env cs = cs := by
  have hread := reading_pieces cs
  have hsame : ∀ p ∈ pieces cs, p.replaced env = p.text := fun p hp =>
    Piece.replaced_eq_text fun name hname => h name (List.mem_filterMap.2 ⟨p, hp, hname⟩)
  rw [hread.expand_eq env, List.flatMap_congr hsame, hread.flatMap_text]

/-- A text is written the same in environments that agree on its names. -/
theorem expand_congr {env env' : Environment} {cs : List Char}
    (h : ∀ name ∈ names cs, env.get? name = env'.get? name) : expand env cs = expand env' cs := by
  refine List.flatMap_congr fun p hp => ?_
  have hname : ∀ name ∈ p.name?, env.get? name = env'.get? name := fun name hname =>
    h name (List.mem_filterMap.2 ⟨p, hp, hname⟩)
  cases p with
  | plain c => rfl
  | bare name => rw [Piece.expand, Piece.expand, hname name rfl]
  | braced name => rw [Piece.expand, Piece.expand, hname name rfl]
  | unclosed name => rw [Piece.expand, Piece.expand, hname name rfl]

/-- A text has exactly one reading. Its pieces are the text, whatever the environment is, and what
is written for it is what they are replaced by, one after the other; if no name in it has a value,
that is the text. -/
theorem exists_unique_reading_expand (cs : List Char) :
    ∃ ps, Reading cs ps ∧ (∀ qs, Reading cs qs → qs = ps) ∧ ps.flatMap Piece.text = cs ∧
      ∀ env, expand env cs = ps.flatMap (Piece.replaced env) ∧
        ((∀ name ∈ ps.filterMap Piece.name?, env.get? name = none) → expand env cs = cs) := by
  have hread := reading_pieces cs
  refine ⟨pieces cs, hread, fun qs hqs => hqs.eq_pieces, hread.flatMap_text, fun env => ?_⟩
  exact ⟨hread.expand_eq env, fun hunset => expand_eq_self hunset⟩

/-- A value is not looked at again, an empty name stands for itself, and a brace that is never
closed is a reference. -/
example : expand ⟨[("A", "$B"), ("B", "b")]⟩ ("$A-${B}$$ ${} $".toList ++ '{' :: "B".toList) =
    "$B-b$$ ${} b".toList := by
  decide +kernel

/-- A text without a dollar sign stays before another one. -/
theorem expand_plain_append {a : List Char} (ha : '$' ∉ a) (env : Environment) (b : List Char) :
    expand env (a ++ b) = a ++ expand env b := by
  induction a with
  | nil => rfl
  | cons c a ih =>
    rw [List.mem_cons, not_or] at ha
    rw [List.cons_append, expand, pieces_cons (Ne.symm ha.1), List.flatMap_cons]
    exact congrArg (c :: ·) (ih ha.2)

/-- Behind a text whose braces are closed a text is read as it is on its own, if it does not begin
with a character of a name or an opening brace. -/
theorem Reading.append {a b : List Char} {ps qs : List Piece} (ha : Reading a ps)
    (hclosed : ∀ p ∈ ps, p.isClosed = true) (hb : Reading b qs)
    (hhead : ∀ c ∈ b.head?, isNameChar c = false ∧ c ≠ '{') : Reading (a ++ b) (ps ++ qs) := by
  induction ha with
  | done => exact hb
  | plain hc _ ih => exact .plain hc (ih fun p hp => hclosed p (List.mem_cons_of_mem _ hp))
  | @bare name cs ps hname hends hbrace _ ih =>
    rw [List.cons_append, List.cons_append, List.append_assoc]
    refine .bare hname ?_ ?_ (ih fun p hp => hclosed p (List.mem_cons_of_mem _ hp))
    · cases cs with
      | nil => exact fun c hc => (hhead c hc).1
      | cons c cs => exact hends
    · cases cs with
      | nil => exact fun _ hc => (hhead _ hc).2 rfl
      | cons c cs => exact hbrace
  | @braced name cs ps hname _ ih =>
    have hcs : '$' :: '{' :: (name ++ '}' :: cs) ++ b =
        '$' :: '{' :: (name ++ '}' :: (cs ++ b)) := by
      simp only [List.cons_append, List.append_assoc]
    rw [hcs]
    exact .braced hname (ih fun p hp => hclosed p (List.mem_cons_of_mem _ hp))
  | unclosed _ => exact absurd (hclosed _ List.mem_cons_self) Bool.false_ne_true

section Append

variable {a b : List Char} (ha : isClosed a = true)

include ha

/-- The pieces of a text whose braces are closed and those of what follows it. -/
theorem pieces_append (hhead : ∀ c ∈ b.head?, isNameChar c = false ∧ c ≠ '{') :
    pieces (a ++ b) = pieces a ++ pieces b :=
  ((reading_pieces a).append (List.all_eq_true.1 ha) (reading_pieces b) hhead).eq_pieces.symm

/-- A text whose braces are closed and what follows it are written one after the other. -/
theorem expand_append (hhead : ∀ c ∈ b.head?, isNameChar c = false ∧ c ≠ '{')
    (env : Environment) : expand env (a ++ b) = expand env a ++ expand env b := by
  rw [expand, pieces_append ha hhead, List.flatMap_append]
  rfl

/-- A brace that is never closed, behind a text whose braces are closed, is a reference to all that
follows it: that is its name, and it is left as it is exactly if this name has no value but its own
text. -/
theorem expand_append_unclosed (hb : '}' ∉ b) (env : Environment) :
    expand env (a ++ '$' :: '{' :: b) =
        expand env a ++ (env.get? b).getD ('$' :: '{' :: b) ∧
      (expand env (a ++ '$' :: '{' :: b) = expand env a ++ '$' :: '{' :: b ↔
        ∀ v ∈ env.get? b, v = '$' :: '{' :: b) := by
  have hhead : ∀ c ∈ ('$' :: '{' :: b).head?, isNameChar c = false ∧ c ≠ '{' := by
    intro c hc
    obtain rfl := Option.some.inj hc
    decide
  have hexpand : expand env (a ++ '$' :: '{' :: b) =
      expand env a ++ (env.get? b).getD ('$' :: '{' :: b) := by
    rw [expand_append ha hhead, expand, expand, pieces_unclosed hb, List.flatMap_singleton]
    rfl
  refine ⟨hexpand, ?_⟩
  rw [hexpand, List.append_cancel_left_eq]
  cases hvalue : env.get? b with
  | none => simp
  | some v => simp

end Append

/-- A name behind a brace that is never closed is replaced if it has a value, and only then. -/
theorem expand_append_unclosed_home :
    isClosed "x".toList = true ∧ '}' ∉ "HOME".toList ∧
      expand ⟨[("HOME", "/root")]⟩ ("x".toList ++ '$' :: '{' :: "HOME".toList) =
        expand ⟨[("HOME", "/root")]⟩ "x".toList ++ "/root".toList ∧
      expand ⟨[("PATH", "/bin")]⟩ ("x".toList ++ '$' :: '{' :: "HOME".toList) =
        expand ⟨[("PATH", "/bin")]⟩ "x".toList ++ '$' :: '{' :: "HOME".toList := by
  have hclosed : isClosed "x".toList = true := by decide +kernel
  have hname : '}' ∉ "HOME".toList := by decide
  have hset := (expand_append_unclosed hclosed hname ⟨[("HOME", "/root")]⟩).1
  have hunset := (expand_append_unclosed hclosed hname ⟨[("PATH", "/bin")]⟩).2
  exact ⟨hclosed, hname, hset, hunset.2 (by decide)⟩

/-- The text of a file that ends with a comment in which a brace is never closed does not stay as it
is if the name behind the brace has a value. -/
theorem expand_unclosed_of_value :
    isClosed "commitment = \"processed\" # see ".toList = true ∧ '}' ∉ "NOTE".toList ∧
      expand ⟨[("NOTE", "\nrpc_url = \"https://rpc.example/\"")]⟩
          ("commitment = \"processed\" # see ".toList ++ '$' :: '{' :: "NOTE".toList) ≠
        expand ⟨[("NOTE", "\nrpc_url = \"https://rpc.example/\"")]⟩
          "commitment = \"processed\" # see ".toList ++ '$' :: '{' :: "NOTE".toList := by
  decide +kernel

end PayLink.Expansion
