import PayLink.Proofs.Toml.Place
/-!
# Filling tables that are the same but for one place

If two tables are the same but for a place, then they still are when the same line is added to both,
and one line with two values makes a table differ at the place of the line only. Each way of adding
to a table puts a node at a key of it, and makes that node either anew or by going on in the table
that stands there; so both are shown for one such step, and then for keys of any length.
-/

namespace PayLink.Toml

open PayLink.Json

namespace Members

/-- Puts a node at a key, in place of what is there if there is anything. -/
def put (k : String) (ms : Members) (n : Node) : Members :=
  match find? k ms with
  | none => ms ++ [(k, n)]
  | some _ => replace k n ms

/-- What giving a value to the parts of a key makes of what stands at the key before them. -/
def defineAt (v : Value) (ks : List String) : Option Node → Option Node
  | none => if ks = [] then some (.value v) else (define v ks []).map (.table .dotted)
  | some (.table origin sub) =>
    if ks = [] ∨ origin = .header ∨ (ks.length = 1 ∧ origin ≠ .dotted) then none
    else (define v ks sub).map (.table origin)
  | some _ => none

/-- What a change at the end of a path makes of what stands at the key before it. -/
def changeAt (f : Option Node → Option Node) (ks : List String) (n : Option Node) : Option Node :=
  if ks = [] then f n
  else
    match n with
    | none => (change f ks []).map (.table .passing)
    | some (.table origin sub) => (change f ks sub).map (.table origin)
    | some (.rows last earlier) => (change f ks last).map fun last => .rows last earlier
    | some (.value _) => none

variable {k : String} {ks : List String} {ms : Members} {v : Value} {f : Option Node → Option Node}

/-- A node at a new key comes last. -/
theorem put_of_none (h : find? k ms = none) (n : Node) : put k ms n = ms ++ [(k, n)] := by
  rw [put, h]

/-- A node at a key that is there takes the place of what stands at it. -/
theorem put_of_some {n' : Node} (h : find? k ms = some n') (n : Node) :
    put k ms n = replace k n ms := by
  rw [put, h]

/-- A value is given to a key by what is made of the node at the first part of the key. -/
theorem define_cons : define v (k :: ks) ms = (defineAt v ks (find? k ms)).map (put k ms) := by
  have hput : put k ms = fun n => put k ms n := rfl
  rcases hfind : find? k ms with - | node
  · simp only [hput, put_of_none hfind]
    cases ks with
    | nil => simp [define, defineAt, hfind]
    | cons k' ks => simp [define, defineAt, hfind, Function.comp_def]
  · simp only [hput, put_of_some hfind]
    cases ks with
    | nil => cases node <;> simp [define, defineAt, hfind]
    | cons k' ks =>
      cases node with
      | value w => simp [define, defineAt, hfind]
      | table origin sub =>
        simp only [define, defineAt, hfind, List.cons_ne_nil, false_or]
        split
        · rfl
        · simp [Function.comp_def]
      | rows last earlier => simp [define, defineAt, hfind]

/-- A change at the end of a path is made by what becomes of the node at the first key of the path.
-/
theorem change_cons : change f (k :: ks) ms = (changeAt f ks (find? k ms)).map (put k ms) := by
  have hput : put k ms = fun n => put k ms n := rfl
  rcases hfind : find? k ms with - | node
  · simp only [hput, put_of_none hfind]
    cases ks with
    | nil => simp [change, changeAt, hfind]
    | cons k' ks => simp [change, changeAt, hfind, Function.comp_def]
  · simp only [hput, put_of_some hfind]
    cases ks with
    | nil => simp [change, changeAt, hfind]
    | cons k' ks => cases node <;> simp [change, changeAt, hfind, Function.comp_def]

section Same

variable {path : List Step} {ms' r r' : Members} {n n' : Node} {key : String}

/-- What stands at a key of two tables that are the same but for a place. -/
theorem find?_allBut {same : Node → Node → Prop} (h : AllBut key same ms ms') (k : String) :
    find? k ms = find? k ms' ∨ k = key ∧ ∃ n n', find? k ms = some n ∧ find? k ms' = some n' ∧
      same n n' :=
  h.lookup k

/-- Nodes that are put at the same key of two tables that are the same but for a place. -/
theorem put_allBut {same : Node → Node → Prop} (h : AllBut key same ms ms')
    (hn : n = n' ∨ k = key ∧ same n n') : AllBut key same (put k ms n) (put k ms' n') := by
  have hreplace : AllBut key same (replace k n ms) (replace k n' ms') := by
    refine List.forall₂_map_left_iff.2 (List.forall₂_map_right_iff.2 (h.imp ?_))
    rintro m m' ⟨hkey, hnode⟩
    by_cases hk : m.1 = k
    · rw [if_pos hk, if_pos (hkey ▸ hk)]
      exact ⟨rfl, hn⟩
    · rw [if_neg hk, if_neg (hkey ▸ hk)]
      exact ⟨hkey, hnode⟩
  obtain hfind | ⟨-, m, m', hm, hm', -⟩ := find?_allBut h k
  · rcases hm : Members.find? k ms' with - | m
    · rw [put_of_none (hfind.trans hm), put_of_none hm]
      exact h.append (.single hn)
    · rwa [put_of_some (hfind.trans hm), put_of_some hm]
  · rwa [put_of_some hm, put_of_some hm']

end Same

/-- The steps into the table that a header means by what stands at a key, and that table: of a list
of tables it is the last one, and where there is no table yet it is empty. -/
def opened : Option Node → List Step × Members
  | some (.table _ sub) => ([], sub)
  | some (.rows last earlier) => ([.item earlier.length], last)
  | _ => ([], [])

/-- What stands at a key with another table in place of the opened one. A table that was not there
comes about as `made` says. -/
def enclose (made : Origin) : Option Node → Members → Node
  | some (.table origin _), ms => .table origin ms
  | some (.rows _ earlier), ms => .rows ms earlier
  | _, ms => .table made ms

/-- The place that a header means. -/
def place : List String → Members → List Step
  | [], _ => []
  | k :: ks, ms => .key k :: (opened (find? k ms)).1 ++ place ks (opened (find? k ms)).2

/-- Tables that are the same but for a place still are after a change of both. -/
def KeepsTables (f : Members → Option Members) : Prop :=
  ∀ ⦃path ms ms' r r'⦄, SameBut path ms ms' → f ms = some r → f ms' = some r' → SameBut path r r'

/-- Nodes that are the same but for a place still are after a change of both. -/
def KeepsNodes (f : Option Node → Option Node) : Prop :=
  ∀ ⦃path n n' a b⦄, Node.SameBut path n n' → f (some n) = some a → f (some n') = some b →
    Node.SameBut path a b

/-- What stands at a key is changed in the table that is opened there. -/
def ActsInside (made : Origin) (f : Option Node → Option Node) (g : Members → Option Members) :
    Prop :=
  ∀ ⦃at? n⦄, f at? = some n → (∀ v, at? ≠ some (.value v)) ∧
    ∃ sub, g (opened at?).2 = some sub ∧ enclose made at? sub = n

section Steps

variable {made : Origin} {g : Option Node → Option Node} {path : List Step} {r r' : Members}

/-- Two nodes at a key of one table make it differ at that key only. -/
theorem put_place (h : ∀ {a b}, f (find? k ms) = some a → g (find? k ms) = some b →
      Node.SameBut path a b) (hr : (f (find? k ms)).map (put k ms) = some r)
    (hr' : (g (find? k ms)).map (put k ms) = some r') : SameBut (.key k :: path) r r' := by
  obtain ⟨n, hn, rfl⟩ := Option.map_eq_some_iff.1 hr
  obtain ⟨n', hn', rfl⟩ := Option.map_eq_some_iff.1 hr'
  exact put_allBut (AllBut.refl ms) (.inr ⟨rfl, h hn hn'⟩)

/-- The same change at a key of two tables. -/
theorem KeepsNodes.put (hf : KeepsNodes f) (k : String) :
    KeepsTables fun ms => (f (find? k ms)).map (put k ms) := by
  intro path ms ms' r r' h hr hr'
  obtain ⟨n, hn, rfl⟩ := Option.map_eq_some_iff.1 hr
  obtain ⟨n', hn', rfl⟩ := Option.map_eq_some_iff.1 hr'
  rcases path with - | ⟨key | i, path⟩
  · exact h.elim
  · refine put_allBut h ?_
    obtain hfind | ⟨rfl, m, m', hm, hm', hsame⟩ := find?_allBut h k
    · rw [hfind, hn'] at hn
      exact .inl (Option.some.inj hn).symm
    · rw [hm] at hn
      rw [hm'] at hn'
      exact .inr ⟨rfl, hf hsame hn hn'⟩
  · exact h.elim

/-- Two changes of the opened table make a node differ there only. -/
theorem ActsInside.place {at? : Option Node} {a b : Node} {F G : Members → Option Members}
    (hf : ActsInside made f F) (hg : ActsInside made g G)
    (hFG : ∀ {r r'}, F (opened at?).2 = some r → G (opened at?).2 = some r' → SameBut path r r')
    (ha : f at? = some a) (hb : g at? = some b) :
    Node.SameBut ((opened at?).1 ++ path) a b := by
  obtain ⟨htable, s, hs, rfl⟩ := hf ha
  obtain ⟨-, s', hs', rfl⟩ := hg hb
  have hsame := hFG hs hs'
  rcases at? with - | (w | ⟨origin, sub⟩ | ⟨last, earlier⟩)
  · exact Node.sameBut_table_iff.2 ⟨s', rfl, hsame⟩
  · exact absurd rfl (htable w)
  · exact Node.sameBut_table_iff.2 ⟨s', rfl, hsame⟩
  · exact Node.sameBut_rows_iff.2 ⟨s', earlier, rfl, [], s, s', earlier, path, rfl, rfl, rfl, hsame⟩

/-- A change of the opened table keeps nodes the same but for a place if it keeps tables so. -/
theorem ActsInside.keepsNodes {F : Members → Option Members} (hf : ActsInside made f F)
    (hF : KeepsTables F) : KeepsNodes f := by
  intro path m m' a b h ha hb
  obtain ⟨htable, s, hs, rfl⟩ := hf ha
  obtain ⟨-, s', hs', rfl⟩ := hf hb
  rcases m with w | ⟨origin, sub⟩ | ⟨last, earlier⟩
  · exact absurd rfl (htable w)
  · obtain ⟨sub', rfl, hsub⟩ := Node.sameBut_table_iff.1 h
    exact Node.sameBut_table_iff.2 ⟨s', rfl, hF hsub hs hs'⟩
  · obtain ⟨last', earlier', rfl, later, ms, ms', before, p, rfl, hrows, hrows', hms⟩ :=
      Node.sameBut_rows_iff.1 h
    refine Node.sameBut_rows_iff.2 ⟨s', earlier', rfl, ?_⟩
    -- the place is in the last table, which is the opened one, or in an earlier one
    rcases later with - | ⟨row, later⟩
    · obtain ⟨rfl, rfl⟩ := List.cons.inj hrows
      obtain ⟨rfl, rfl⟩ := List.cons.inj hrows'
      exact ⟨[], s, s', _, p, rfl, rfl, rfl, hF hms hs hs'⟩
    · obtain ⟨rfl, rfl⟩ := List.cons.inj hrows
      obtain ⟨rfl, rfl⟩ := List.cons.inj hrows'
      obtain rfl := Option.some.inj (hs.symm.trans hs')
      exact ⟨s :: later, ms, ms', before, p, rfl, rfl, rfl, hms⟩

end Steps

section Define

variable {path : List Step} {r r' : Members} {w : Value}

/-- A value for the parts of a key after the first goes into the table that stands there, or into a
new one that is a dotted key's. -/
theorem actsInside_defineAt (v : Value) (hks : ks ≠ []) :
    ActsInside .dotted (defineAt v ks) (define v ks) := by
  intro at? n h
  rcases at? with - | (w | ⟨origin, sub⟩ | ⟨last, earlier⟩)
  · simpa [defineAt, hks, opened, enclose] using h
  · simp [defineAt] at h
  · obtain ⟨-, h⟩ := Option.ite_none_left_eq_some.1 h
    simpa [opened, enclose] using h
  · simp [defineAt] at h

/-- A key leads through no list of tables. -/
theorem opened_of_defineAt {at? : Option Node} {n : Node} (h : defineAt v ks at? = some n) :
    (opened at?).1 = [] := by
  rcases at? with - | (w | ⟨origin, sub⟩ | ⟨last, earlier⟩)
  · rfl
  · rfl
  · rfl
  · simp [defineAt] at h

/-- The same value at the same key leaves tables the same but for a place. -/
theorem keepsTables_define (v : Value) (ks : List String) : KeepsTables (define v ks) := by
  induction ks with
  | nil =>
    intro path ms ms' r r' h hr
    cases hr
  | cons k ks ih =>
    have hnodes : KeepsNodes (defineAt v ks) := by
      by_cases hks : ks = []
      · intro path n n' a b h ha
        cases n <;> simp [defineAt, hks] at ha
      · exact (actsInside_defineAt v hks).keepsNodes ih
    have hcons : define v (k :: ks) = fun ms => (defineAt v ks (find? k ms)).map (put k ms) :=
      funext fun ms => define_cons
    rw [hcons]
    exact hnodes.put k

/-- Two values that are given to a key of the same table make it differ at the key only. -/
theorem define_place (h : Toml.SameBut path v w) (hr : define v ks ms = some r)
    (hr' : define w ks ms = some r') : SameBut (ks.map .key ++ path) r r' := by
  induction ks generalizing ms r r' with
  | nil => cases hr
  | cons k ks ih =>
    rw [define_cons] at hr hr'
    refine put_place (fun {a b} ha hb => ?_) hr hr'
    by_cases hks : ks = []
    · subst hks
      generalize find? k ms = at? at ha hb
      cases at? with
      | none =>
        obtain rfl := Option.some.inj ha
        obtain rfl := Option.some.inj hb
        exact Node.sameBut_value_iff.2 ⟨w, rfl, h⟩
      | some n => cases n <;> simp [defineAt] at ha
    · have hplace := (actsInside_defineAt v hks).place (actsInside_defineAt w hks) ih ha hb
      rwa [opened_of_defineAt ha] at hplace

end Define

section Change

variable {path : List Step} {r r' : Members}

/-- A change at the end of a path goes into the table that stands at the first key, or into a new
one that the path passes through. -/
theorem actsInside_changeAt (f : Option Node → Option Node) (hks : ks ≠ []) :
    ActsInside .passing (changeAt f ks) (change f ks) := by
  intro at? n h
  rcases at? with - | (w | ⟨origin, sub⟩ | ⟨last, earlier⟩)
  · simpa [changeAt, hks, opened, enclose] using h
  · simp [changeAt, hks] at h
  · simpa [changeAt, hks, opened, enclose] using h
  · simpa [changeAt, hks, opened, enclose] using h

/-- The same change at the end of a header leaves tables the same but for a place. -/
theorem KeepsNodes.change (hf : KeepsNodes f) (ks : List String) : KeepsTables (change f ks) := by
  induction ks with
  | nil =>
    intro path ms ms' r r' h hr
    cases hr
  | cons k ks ih =>
    have hnodes : KeepsNodes (changeAt f ks) := by
      by_cases hks : ks = []
      · have hlast : changeAt f ks = f := funext fun n => if_pos hks
        rwa [hlast]
      · exact (actsInside_changeAt f hks).keepsNodes ih
    have hcons : Members.change f (k :: ks) =
        fun ms => (changeAt f ks (find? k ms)).map (Members.put k ms) :=
      funext fun ms => change_cons
    rw [hcons]
    exact hnodes.put k

/-- Two changes at the end of a header make a table differ at the place of the header only. -/
theorem change_place {g : Option Node → Option Node}
    (hfg : ∀ {at? a b}, f at? = some a → g at? = some b →
      Node.SameBut ((opened at?).1 ++ path) a b) (hr : change f ks ms = some r)
    (hr' : change g ks ms = some r') : SameBut (place ks ms ++ path) r r' := by
  induction ks generalizing ms r r' with
  | nil => cases hr
  | cons k ks ih =>
    rw [change_cons] at hr hr'
    rw [place, List.append_assoc, List.cons_append]
    refine put_place (fun {a b} ha hb => ?_) hr hr'
    by_cases hks : ks = []
    · subst hks
      exact hfg ha hb
    · exact (actsInside_changeAt f hks).place (actsInside_changeAt g hks) ih ha hb

/-- Opening a table leaves nodes the same but for a place. -/
theorem keepsNodes_openTable : KeepsNodes openTable := by
  intro path n n' a b h ha hb
  unfold openTable at ha
  split at ha
  · rename_i hn
    cases hn
  · rename_i ms hn
    obtain rfl := Option.some.inj hn
    obtain ⟨ms', rfl, hms⟩ := Node.sameBut_table_iff.1 h
    obtain rfl := Option.some.inj ha
    obtain rfl := Option.some.inj hb
    exact Node.sameBut_table_iff.2 ⟨ms', rfl, hms⟩
  · cases ha

/-- Opening one more table of a list leaves nodes the same but for a place. -/
theorem keepsNodes_openRow : KeepsNodes openRow := by
  intro path n n' a b h ha hb
  unfold openRow at ha
  split at ha
  · rename_i hn
    cases hn
  · rename_i last earlier hn
    obtain rfl := Option.some.inj hn
    obtain ⟨last', earlier', rfl, later, ms, ms', before, p, hpath, hrows, hrows', hms⟩ :=
      Node.sameBut_rows_iff.1 h
    obtain rfl := Option.some.inj ha
    obtain rfl := Option.some.inj hb
    refine Node.sameBut_rows_iff.2 ⟨[], _, rfl, [] :: later, ms, ms', before, p, hpath, ?_, ?_, hms⟩
    · rw [hrows]
      rfl
    · rw [hrows']
      rfl
  · cases ha

end Change

section Within

variable {path : List Step} {header key : List String} {r r' : Members} {w : Value}

/-- What giving a value to a key does to the table that a header opened. -/
def defineIn (key : List String) (v : Value) (at? : Option Node) : Option Node :=
  match at? with
  | some (.table origin sub) => (define v key sub).map (.table origin)
  | some (.rows last earlier) => (define v key last).map fun last => .rows last earlier
  | _ => none

/-- A value within the table that a header opened goes into the table that stands there, or into a
new one. -/
theorem actsInside_defineIn (key : List String) (v : Value) :
    ActsInside .passing (defineIn key v) (define v key) := by
  intro at? n h
  rcases at? with - | (w | ⟨origin, sub⟩ | ⟨last, earlier⟩)
  · cases h
  · cases h
  · simpa [defineIn, opened, enclose] using h
  · simpa [defineIn, opened, enclose] using h

/-- The same value within the same header leaves tables the same but for a place. -/
theorem keepsTables_defineWithin (header key : List String) (v : Value) :
    KeepsTables (defineWithin header key v) := by
  cases header with
  | nil => exact keepsTables_define v key
  | cons k ks =>
    have hnodes := (actsInside_defineIn key v).keepsNodes (keepsTables_define v key)
    exact hnodes.change (k :: ks)

/-- Two values within the same header make a table differ at the key only. -/
theorem defineWithin_place (h : Toml.SameBut path v w)
    (hr : ms.defineWithin header key v = some r) (hr' : ms.defineWithin header key w = some r') :
    SameBut (place header ms ++ (key.map .key ++ path)) r r' := by
  cases header with
  | nil => exact define_place h hr hr'
  | cons k ks =>
    refine change_place (fun ha hb => ?_) hr hr'
    exact (actsInside_defineIn key v).place (actsInside_defineIn key w) (define_place h) ha hb

end Within

end Members

end PayLink.Toml
