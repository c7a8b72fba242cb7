import Mathlib.Data.List.Forall2
import PayLink.Toml.Table
/-!
# Tables that are the same but for one place

A place is a path of keys and numbers of items. Two values that are the same but for what stands at
a place have the same keys in the same order and the same values at all of them but one, and the same
items but one, down to the place.
-/

namespace PayLink.Toml

open PayLink.Json

/-- A step from a value to one of its parts. -/
inductive Step
  /-- What stands at a key. -/
  | key (k : String)
  /-- An item of an array, counted from zero. -/
  | item (i : ℕ)
  deriving DecidableEq, Repr

section AllBut

variable {α β : Type} {k : α} {same : β → β → Prop} {ms ms' : List (α × β)}

/-- The same keys in the same order, with the same at each key but `k`, where what is there is
related by `same`. -/
def AllBut (k : α) (same : β → β → Prop) : List (α × β) → List (α × β) → Prop :=
  List.Forall₂ fun m m' => m.1 = m'.1 ∧ (m.2 = m'.2 ∨ m.1 = k ∧ same m.2 m'.2)

/-- The same members are the same but for those at a key. -/
theorem AllBut.refl (ms : List (α × β)) : AllBut k same ms ms :=
  List.forall₂_same.2 fun _ _ => ⟨rfl, .inl rfl⟩

/-- Members that are the same but for those at a key are so with others like them behind. -/
theorem AllBut.append {ns ns' : List (α × β)} (h : AllBut k same ms ms')
    (hn : AllBut k same ns ns') : AllBut k same (ms ++ ns) (ms' ++ ns') :=
  List.rel_append h hn

/-- What is found at a key: the same, or what `same` relates. -/
theorem AllBut.lookup [BEq α] [LawfulBEq α] (h : AllBut k same ms ms') (a : α) :
    ms.lookup a = ms'.lookup a ∨
      a = k ∧ ∃ n n', ms.lookup a = some n ∧ ms'.lookup a = some n' ∧ same n n' := by
  induction h with
  | nil => exact .inl rfl
  | @cons m m' ms ms' hm _ ih =>
    obtain ⟨m, n⟩ := m
    obtain ⟨m', n'⟩ := m'
    obtain ⟨rfl, hn⟩ := hm
    simp only [List.lookup_cons] at ih ⊢
    by_cases ha : a = m
    · subst ha
      simpa using hn
    · simpa only [beq_false_of_ne ha] using ih

/-- Two members at one key: the same, or what `same` relates at the key that may differ. -/
theorem AllBut.single {a : α} {n n' : β} (h : n = n' ∨ a = k ∧ same n n') :
    AllBut k same [(a, n)] [(a, n')] :=
  .cons ⟨rfl, h⟩ .nil

end AllBut

/-- Two values that are the same but for what stands at a path of both. -/
def SameBut : List Step → Value → Value → Prop
  | [], _, _ => True
  | .key k :: path, v, w => ∃ ms ms', v = .object ms ∧ w = .object ms' ∧
      AllBut (some k) (SameBut path) ms ms'
  | .item i :: path, v, w => ∃ before x y after, v = .array (before ++ x :: after) ∧
      w = .array (before ++ y :: after) ∧ before.length = i ∧ SameBut path x y

/-- Two nodes that are the same but for what stands at a path of both, which is part of a value. The
tables of a list are counted from the first, which is the last one here. -/
def Node.SameBut : List Step → Node → Node → Prop
  | path, .value v, .value w => Toml.SameBut path v w
  | .key k :: path, .table origin ms, .table origin' ms' =>
    origin = origin' ∧ AllBut k (Node.SameBut path) ms ms'
  | .item i :: .key k :: path, .rows last earlier, .rows last' earlier' =>
    ∃ later ms ms' before, last :: earlier = later ++ ms :: before ∧
      last' :: earlier' = later ++ ms' :: before ∧ before.length = i ∧
        AllBut k (Node.SameBut path) ms ms'
  | _, _, _ => False

namespace Members

/-- Two tables that are the same but for what stands at a path of both. -/
def SameBut : List Step → Members → Members → Prop
  | .key k :: path, ms, ms' => AllBut k (Node.SameBut path) ms ms'
  | _, _, _ => False

end Members

section Nodes

variable {path : List Step} {n n' : Node}

/-- A node that is the same as a value but for a place is such a value. -/
theorem Node.sameBut_value_iff {v : Value} :
    Node.SameBut path (.value v) n' ↔ ∃ w, n' = .value w ∧ Toml.SameBut path v w := by
  cases n' with
  | value w => simp [Node.SameBut]
  | table => simp [Node.SameBut]
  | rows => simp [Node.SameBut]

/-- A node that is the same as a table but for a place is such a table. -/
theorem Node.sameBut_table_iff {origin : Origin} {ms : Members} :
    Node.SameBut path (.table origin ms) n' ↔
      ∃ ms', n' = .table origin ms' ∧ Members.SameBut path ms ms' := by
  rcases path with - | ⟨k | i, path⟩
  · cases n' <;> simp [Node.SameBut, Members.SameBut]
  · cases n' with
    | value w => simp [Node.SameBut]
    | table origin' ms' =>
      simp [Node.SameBut, Members.SameBut, eq_comm, and_assoc]
    | rows => simp [Node.SameBut]
  · cases n' <;> simp [Node.SameBut, Members.SameBut]

/-- A node that is the same as a list of tables but for a place is a list that differs in one of its
tables, which the place counts from the first. -/
theorem Node.sameBut_rows_iff {last : Members} {earlier : List Members} :
    Node.SameBut path (.rows last earlier) n' ↔
      ∃ last' earlier', n' = .rows last' earlier' ∧ ∃ later ms ms' before p,
        path = .item before.length :: p ∧ last :: earlier = later ++ ms :: before ∧
          last' :: earlier' = later ++ ms' :: before ∧ Members.SameBut p ms ms' := by
  constructor
  · intro h
    rcases path with - | ⟨k | i, - | ⟨k | j, p⟩⟩
    all_goals cases n' with
    | value w => simp [Node.SameBut] at h
    | table => simp [Node.SameBut] at h
    | rows last' earlier' => ?_
    all_goals try simp [Node.SameBut] at h
    obtain ⟨later, ms, ms', before, hms, hms', rfl, hsame⟩ := h
    exact ⟨last', earlier', rfl, later, ms, ms', before, _, rfl, hms, hms', hsame⟩
  · rintro ⟨last', earlier', rfl, later, ms, ms', before, p, rfl, hms, hms', hsame⟩
    rcases p with - | ⟨k | i, p⟩
    · exact hsame.elim
    · exact ⟨later, ms, ms', before, hms, hms', rfl, hsame⟩
    · exact hsame.elim

end Nodes

/-- Two objects that the members of two tables make are the same but for the same place. -/
theorem AllBut.membersToValue {k : String} {same : Node → Node → Prop} {sameValue : Value → Value → Prop}
    (hsame : ∀ {n n'}, same n n' → sameValue n.toValue n'.toValue) {ms ms' : Members}
    (h : AllBut k same ms ms') :
    AllBut (some k) sameValue (membersToValue ms) (membersToValue ms') := by
  induction h with
  | nil => exact .nil
  | @cons m m' ms ms' hm _ ih =>
    obtain ⟨hkey, hnode⟩ := hm
    refine .cons ⟨congrArg some hkey, ?_⟩ ih
    exact hnode.imp (congrArg Node.toValue) fun h => ⟨congrArg some h.1, hsame h.2⟩

/-- The values of a list of tables, the first one first. -/
theorem rowsToValue_eq (earlier : List Members) (vs : List Value) :
    rowsToValue earlier vs =
      (earlier.map fun ms => Value.object (membersToValue ms)).reverse ++ vs := by
  induction earlier generalizing vs with
  | nil => rfl
  | cons ms earlier ih =>
    rw [rowsToValue, ih]
    simp

/-- The values of two nodes that are the same but for a place are the same but for that place. -/
theorem Node.SameBut.toValue : ∀ {path : List Step} {n n' : Node}, Node.SameBut path n n' →
    Toml.SameBut path n.toValue n'.toValue := by
  intro path n n' h
  induction hlength : path.length using Nat.strongRecOn generalizing path n n' with
  | _ length ih =>
    subst hlength
    have hmembers : ∀ {p ms ms'}, p.length ≤ path.length → Members.SameBut p ms ms' →
        Toml.SameBut p (.object (membersToValue ms)) (.object (membersToValue ms')) := by
      intro p ms ms' hp hms
      rcases p with - | ⟨k | i, p⟩
      · exact hms.elim
      · exact ⟨_, _, rfl, rfl, hms.membersToValue fun hn => ih _ hp hn rfl⟩
      · exact hms.elim
    cases n with
    | value v =>
      obtain ⟨w, rfl, hv⟩ := sameBut_value_iff.1 h
      exact hv
    | table origin ms =>
      obtain ⟨ms', rfl, hms⟩ := sameBut_table_iff.1 h
      exact hmembers (Nat.le_refl _) hms
    | rows last earlier =>
      obtain ⟨last', earlier', rfl, later, ms, ms', before, p, rfl, hrows, hrows', hms⟩ :=
        sameBut_rows_iff.1 h
      have hlist : ∀ last earlier, Node.toValue (.rows last earlier) = .array
          ((last :: earlier).map fun ms => Value.object (membersToValue ms)).reverse := by
        intro last earlier
        rw [Node.toValue, rowsToValue_eq]
        simp
      rw [hlist, hlist, hrows, hrows']
      simp only [List.map_append, List.map_cons, List.reverse_append, List.reverse_cons,
        List.append_assoc, List.singleton_append]
      exact ⟨_, _, _, _, rfl, rfl, by simp, hmembers (Nat.le_succ _) hms⟩

/-- Tables that are the same but for a place are such values. -/
theorem Members.SameBut.toValue {path : List Step} {ms ms' : Members}
    (h : Members.SameBut path ms ms') :
    Toml.SameBut path (.object (membersToValue ms)) (.object (membersToValue ms')) := by
  have htable : Node.SameBut path (.table .header ms) (.table .header ms') :=
    Node.sameBut_table_iff.2 ⟨ms', rfl, h⟩
  exact htable.toValue

end PayLink.Toml
