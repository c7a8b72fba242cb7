import PayLink.Json.Record
import PayLink.Proofs.Json.Layout
import PayLink.Proofs.Outcome
/-!
# Records read back

An object whose names are distinct is cut into its known members, and a field is read back from the
member that was written for it. A field that is left out when it is not set is read as not set.
-/

namespace PayLink.Json

variable {α : Type}

/-- The text of a value of a type, read as a value of this type. -/
def readAs? (ofJson? : Value → Option α) (s : String) : Option α := do
  ofJson? (← read? s)

/-- What is written of a type as JSON, on one line or on several, is read back. -/
def Carries (ofJson? : Value → Option α) (toJson : α → Value) : Prop :=
  ∀ a, readAs? ofJson? (toJson a).compact = some a ∧ readAs? ofJson? (toJson a).spread = some a

/-- What is written is a plain value, and is read back. -/
structure Inverts (ofJson? : Value → Option α) (toJson : α → Value) : Prop where
  /-- What is written is plain. -/
  plain : ∀ a, (toJson a).IsPlain
  /-- What is written is read back. -/
  read : ∀ a, ofJson? (toJson a) = some a

namespace Inverts

variable {ofJson? : Value → Option α} {toJson : α → Value} (h : Inverts ofJson? toJson)

/-- Texts are read back. -/
theorem text : Inverts Value.text? Value.text where
  plain := .text
  read _ := rfl

/-- Truth values are read back. -/
theorem bool : Inverts Value.bool? Value.bool where
  plain := .bool
  read _ := rfl

include h

/-- Items that are read back are read back from an array. -/
theorem items : Inverts (Value.items? ofJson?) fun as => .array (as.map toJson) where
  plain as := .array fun v hv => by
    obtain ⟨a, -, rfl⟩ := List.mem_map.1 hv
    exact h.plain a
  read as := mapM_map_eq_some fun a _ => h.read a

/-- A plain value that is read back is read back from its texts. -/
theorem carries : Carries ofJson? toJson := by
  intro a
  rw [readAs?, readAs?, (h.plain a).read?_compact, (h.plain a).read?_spread.1]
  exact ⟨h.read a, h.read a⟩

end Inverts

/-- A number below a bound is read back. -/
theorem Value.natBelow?_nat {n bound : Nat} (h : n < bound) :
    (Value.nat n).natBelow? bound = some n :=
  if_pos h

/-- A natural number is a plain value. -/
theorem Value.isPlain_nat (n : Nat) : (Value.nat n).IsPlain :=
  .integer n

/-- A field that is written only if it is set is found exactly if it is. -/
theorem lookup_memberIfSet (key name : String) (f : α → Value) (a : Option α) :
    (memberIfSet name f a).lookup key = if key = name then a.map f else none := by
  cases a with
  | none => split <;> rfl
  | some a =>
    rw [memberIfSet, List.lookup_cons, List.lookup_nil]
    by_cases hkey : key = name
    · rw [if_pos hkey, hkey, beq_self_eq_true]
      rfl
    · rw [if_neg hkey, beq_eq_false_iff_ne.2 hkey]

/-- A field that is written only if it is set has at most its own name. -/
theorem names_memberIfSet (name : String) (f : α → Value) (a : Option α) :
    ((memberIfSet name f a).map Prod.fst).Sublist [name] := by
  cases a with
  | none => exact List.nil_sublist _
  | some a => exact List.Sublist.refl _

/-- What is written for a field has any property that what its value is written as has. -/
theorem of_mem_memberIfSet {P : Value → Prop} {name : String} {f : α → Value} {a : Option α}
    (h : ∀ b ∈ a, P (f b)) {m : String × Value} (hm : m ∈ memberIfSet name f a) : P m.2 := by
  cases a with
  | none => cases hm
  | some a =>
    rw [List.mem_singleton.1 hm]
    exact h a rfl

namespace Record

/-- The members whose names are known are kept. -/
theorem known?_map (names : List String) (ms : List (String × Value)) :
    known? names (ms.map fun m => (some m.1, m.2)) =
      some (ms.filter fun m => names.contains m.1) := by
  induction ms with
  | nil => rfl
  | cons m ms ih =>
    rw [List.map_cons, known?, ih, Option.map_some, List.filter_cons]

/-- The check for names that occur twice. -/
theorem distinct_iff_nodup (r : Record) : distinct r = true ↔ (r.map Prod.fst).Nodup := by
  induction r with
  | nil => exact iff_of_true rfl List.nodup_nil
  | cons m r ih =>
    rw [distinct, List.map_cons, List.nodup_cons, Bool.and_eq_true, ih, Bool.not_eq_true',
      List.any_eq_false]
    refine and_congr_left' ⟨fun h hm => ?_, fun h m' hm' he => ?_⟩
    · obtain ⟨m', hm', he⟩ := List.mem_map.1 hm
      exact h m' hm' (decide_eq_true he)
    · exact h (List.mem_map.2 ⟨m', hm', of_decide_eq_true he⟩)

/-- An object whose names are distinct is cut into its known members. -/
theorem ofValue?_ofMembers (names : List String) {ms : List (String × Value)}
    (h : (ms.map Prod.fst).Nodup) :
    ofValue? names (.ofMembers ms) = some (ms.filter fun m => names.contains m.1) := by
  have hdistinct : distinct (ms.filter fun m => names.contains m.1) = true :=
    (distinct_iff_nodup _).2 (h.sublist (List.filter_sublist.map Prod.fst))
  rw [Value.ofMembers, ofValue?, known?_map]
  exact if_pos hdistinct

/-- An object with some of the fields in their order is cut into its members. -/
theorem ofValue?_of_sublist {names : List String} {ms : List (String × Value)}
    (h : (ms.map Prod.fst).Sublist names) (hnames : names.Nodup) :
    ofValue? names (.ofMembers ms) = some ms := by
  have hknown : ∀ m ∈ ms, names.contains m.1 = true := fun m hm =>
    List.contains_iff_mem.2 (h.subset (List.mem_map.2 ⟨m, hm, rfl⟩))
  rw [ofValue?_ofMembers names (hnames.sublist h), List.filter_eq_self.2 hknown]

/-- A record is read back if its fields stand in their order, are plain and are read back. -/
theorem inverts {names : List String} {members : α → Record} {ofRecord? : Record → Option α}
    (hnames : names.Nodup) (horder : ∀ a, ((members a).map Prod.fst).Sublist names)
    (hplain : ∀ a, ∀ m ∈ members a, m.2.IsPlain) (hread : ∀ a, ofRecord? (members a) = some a) :
    Inverts (fun v => ofValue? names v >>= ofRecord?) fun a => .ofMembers (members a) where
  plain a := .object (hplain a)
  read a := by
    rw [ofValue?_of_sublist (horder a) hnames]
    exact hread a

/-- A member in front that is no field can be told from the fields. -/
theorem ofValue?_cons {names : List String} {m : String × Value} {ms : List (String × Value)}
    (h : (ms.map Prod.fst).Sublist names) (hnames : (m.1 :: names).Nodup) :
    ofValue? [m.1] (.ofMembers (m :: ms)) = some [m] ∧
      ofValue? names (.ofMembers (m :: ms)) = some ms := by
  obtain ⟨hm, hnodup⟩ := List.nodup_cons.1 hnames
  have hdistinct : ((m :: ms).map Prod.fst).Nodup := hnames.sublist (h.cons_cons m.1)
  have hfields : ∀ m' ∈ ms, m'.1 ∈ names := fun m' hm' =>
    h.subset (List.mem_map.2 ⟨m', hm', rfl⟩)
  have hothers : ms.filter (fun m' => [m.1].contains m'.1) = [] := by
    refine List.filter_eq_nil_iff.2 fun m' hm' he => hm ?_
    rw [← List.mem_singleton.1 (List.contains_iff_mem.1 he)]
    exact hfields m' hm'
  have hkept : ms.filter (fun m' => names.contains m'.1) = ms :=
    List.filter_eq_self.2 fun m' hm' => List.contains_iff_mem.2 (hfields m' hm')
  have hown : [m.1].contains m.1 = true := List.contains_iff_mem.2 List.mem_cons_self
  have hunknown : ¬names.contains m.1 = true := fun he => hm (List.contains_iff_mem.1 he)
  rw [ofValue?_ofMembers [m.1] hdistinct, ofValue?_ofMembers names hdistinct,
    List.filter_cons, List.filter_cons, if_pos hown, if_neg hunknown, hothers, hkept]
  exact ⟨rfl, rfl⟩

section Fields

variable {r : Record} {name : String} {ofJson? : Value → Option α} {toJson : α → Value}
  (h : Inverts ofJson? toJson)

include h

/-- A field that must be there is read back. -/
theorem required_of_lookup {a : α} (hr : r.lookup name = some (toJson a)) :
    r.required name ofJson? = some a := by
  rw [required, hr]
  exact h.read a

/-- A field that has a default is read back if it is set, and as its default otherwise. -/
theorem optional_of_lookup {a : Option α} (default : α) (hr : r.lookup name = a.map toJson) :
    r.optional name default ofJson? = some (a.getD default) := by
  rw [optional, hr]
  cases a with
  | none => rfl
  | some a => exact h.read a

/-- A field that is left out if it is not set is read back. -/
theorem maybe_of_lookup (hnull : ∀ a, toJson a ≠ .null) {a : Option α}
    (hr : r.lookup name = a.map toJson) : r.maybe name ofJson? = some a := by
  rw [maybe, optional, hr]
  cases a with
  | none => rfl
  | some a =>
    change Value.nullable? ofJson? (toJson a) = some (some a)
    rw [Value.nullable?, h.read, Option.map_some]
    exact hnull a

end Fields

end Record

end PayLink.Json
