import PayLink.Proofs.Json.Reads
/-!
# Both layouts are read back

A value whose numbers are integers and whose strings and keys denote texts is read back from its
text, whether that is compact or spread over lines: either layout puts blanks only where the reader
skips them.
-/

namespace PayLink.Json

/-- A value whose numbers are integers and whose strings and keys denote texts. -/
inductive Value.IsPlain : Value → Prop
  /-- No value. -/
  | null : IsPlain .null
  /-- A truth value. -/
  | bool (b : Bool) : IsPlain (.bool b)
  /-- An integer. -/
  | integer (k : Int) : IsPlain (.number (.integer k))
  /-- A text. -/
  | text (s : String) : IsPlain (.text s)
  /-- A list of such values. -/
  | array {vs : List Value} (h : ∀ v ∈ vs, v.IsPlain) : IsPlain (.array vs)
  /-- Texts with such values. -/
  | object {ms : List (String × Value)} (h : ∀ m ∈ ms, m.2.IsPlain) : IsPlain (.ofMembers ms)

namespace Writer

open Reader (AllBlank Reads ReadsMember)

/-- Items are written one by one. -/
theorem compactItems_eq (vs : List Value) : compactItems vs = vs.map compact := by
  induction vs with
  | nil => rfl
  | cons v vs ih => rw [compactItems, ih, List.map_cons]

/-- Members are written one by one, each with a colon behind its name. -/
theorem compactMembers_eq (ms : List (String × Value)) :
    compactMembers (ms.map fun m => (some m.1, m.2)) =
      ms.map fun m => string (some m.1) ++ ':' :: ([] ++ compact m.2) := by
  induction ms with
  | nil => rfl
  | cons m ms ih =>
    rw [List.map_cons, compactMembers, ih, List.map_cons]
    rfl

/-- Items are written one by one, all at the same level. -/
theorem spreadItems_eq (level : Nat) (vs : List Value) :
    spreadItems level vs = vs.map (spread level) := by
  induction vs with
  | nil => rfl
  | cons v vs ih => rw [spreadItems, ih, List.map_cons]

/-- Members are written one by one, all at the same level, each with a colon and a space behind its
name. -/
theorem spreadMembers_eq (level : Nat) (ms : List (String × Value)) :
    spreadMembers level (ms.map fun m => (some m.1, m.2)) =
      ms.map fun m => string (some m.1) ++ ':' :: ([' '] ++ spread level m.2) := by
  induction ms with
  | nil => rfl
  | cons m ms ih =>
    rw [List.map_cons, spreadMembers, ih, List.map_cons]
    rfl

/-- The texts of items are read if each of them is. -/
theorem readsItems {vs : List Value} {layout : Value → List Char}
    (h : ∀ v ∈ vs, Reads v (layout v)) : List.Forall₂ Reads vs (vs.map layout) := by
  rw [List.forall₂_map_right_iff, List.forall₂_same]
  exact h

/-- The texts of members are read if those of their values are. -/
theorem readsMembers {ms : List (String × Value)} {gap : List Char} (hgap : AllBlank gap)
    {layout : Value → List Char} (h : ∀ m ∈ ms, Reads m.2 (layout m.2)) :
    List.Forall₂ ReadsMember (ms.map fun m => (some m.1, m.2))
      (ms.map fun m => string (some m.1) ++ ':' :: (gap ++ layout m.2)) := by
  rw [List.forall₂_map_left_iff, List.forall₂_map_right_iff, List.forall₂_same]
  exact fun m hm => .intro hgap (h m hm)

/-- No characters at all are blank. -/
theorem allBlank_nil : AllBlank [] :=
  fun _ h => by cases h

/-- The compact text of a plain value is read as it. -/
theorem reads_compact {v : Value} (h : v.IsPlain) : Reads v (compact v) := by
  induction h with
  | null => exact Reader.reads_null
  | bool b => exact Reader.reads_bool b
  | integer k => exact Reader.reads_integer k
  | text s => exact Reader.reads_text s
  | @array vs _ ih =>
    cases vs with
    | nil => exact Reader.reads_emptyArray
    | cons v vs =>
      rw [compact, compactItems_eq]
      exact Reader.enclosed_array.reads allBlank_nil allBlank_nil allBlank_nil (readsItems ih)
        (List.cons_ne_nil _ _)
  | @object ms _ ih =>
    cases ms with
    | nil => exact Reader.reads_emptyObject
    | cons m ms =>
      rw [Value.ofMembers, compact, compactMembers_eq]
      exact Reader.enclosed_object.reads allBlank_nil allBlank_nil allBlank_nil
        (readsMembers allBlank_nil ih) (List.cons_ne_nil _ _)

/-- The start of a new line is blank. -/
theorem allBlank_line (level : Nat) : AllBlank (line level) := by
  intro c hc
  rcases List.mem_cons.1 hc with rfl | hc
  · rfl
  · rw [List.eq_of_mem_replicate hc]
    rfl

/-- Pieces between brackets, if there are any. -/
theorem block_eq (level : Nat) (opening closing : Char) {ps : List (List Char)} (h : ps ≠ []) :
    block level opening closing ps = opening :: (line (level + 1) ++
      (joined (',' :: line (level + 1)) ps ++ (line level ++ [closing]))) := by
  rw [block, if_neg fun he => h (List.isEmpty_iff.1 he)]
  simp only [List.cons_append, List.append_assoc]

/-- The text of a plain value over several lines is read as it. -/
theorem reads_spread {v : Value} (h : v.IsPlain) (level : Nat) : Reads v (spread level v) := by
  induction h generalizing level with
  | null => exact Reader.reads_null
  | bool b =>
    cases b with
    | false => exact Reader.reads_bool false
    | true => exact Reader.reads_bool true
  | integer k => exact Reader.reads_integer k
  | text s => exact Reader.reads_text s
  | @array vs _ ih =>
    cases vs with
    | nil => exact Reader.reads_emptyArray
    | cons v vs =>
      have hitems := readsItems fun w hw => ih w hw (level + 1)
      have hne : (v :: vs).map (spread (level + 1)) ≠ [] := List.cons_ne_nil _ _
      rw [spread, spreadItems_eq, block_eq level '[' ']' hne]
      exact Reader.enclosed_array.reads (allBlank_line _) (allBlank_line _) (allBlank_line _) hitems
        hne
  | @object ms _ ih =>
    cases ms with
    | nil => exact Reader.reads_emptyObject
    | cons m ms =>
      have hblank : AllBlank [' '] := by
        intro c hc
        rw [List.mem_singleton.1 hc]
        rfl
      have hmembers := readsMembers hblank fun m hm => ih m hm (level + 1)
      have hne : ((m :: ms).map fun m =>
          string (some m.1) ++ ':' :: ([' '] ++ spread (level + 1) m.2)) ≠ [] :=
        List.cons_ne_nil _ _
      rw [Value.ofMembers, spread, spreadMembers_eq, block_eq level '{' '}' hne]
      exact Reader.enclosed_object.reads (allBlank_line _) (allBlank_line _) (allBlank_line _)
        hmembers hne

end Writer

namespace Value.IsPlain

variable {v : Value} (h : v.IsPlain)

include h

/-- A plain value is read back from its compact text. -/
theorem read?_compact : read? v.compact = some v := by
  have hread := Reader.read?_of_reads (Writer.reads_compact h) Writer.allBlank_nil
  rwa [List.append_nil] at hread

/-- A plain value is read back from its text over several lines, also with a line end behind it. -/
theorem read?_spread : read? v.spread = some v ∧ read? (v.spread ++ "\n") = some v := by
  have hread := Reader.read?_of_reads (Writer.reads_spread h 0) Writer.allBlank_nil
  have hline := Reader.read?_of_reads (Writer.reads_spread h 0) (Writer.allBlank_line 0)
  rw [List.append_nil] at hread
  rw [String.ofList_append] at hline
  exact ⟨hread, hline⟩

end Value.IsPlain

end PayLink.Json
