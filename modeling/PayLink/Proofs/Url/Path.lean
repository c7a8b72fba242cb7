import Mathlib.Data.List.Basic
import PayLink.Proofs.Url.Legible
import PayLink.Url.FilePath
/-!
# Written paths

The segments that are left of a path hold no separator, nothing that is escaped, and no dots that
stand for nothing. They are therefore the segments of their own text. The segments of a file's path
hold nothing that is escaped either, though drives are read in their own way.
-/

namespace PayLink.Url

/-- What is not escaped in a path is no control, no space and no mark of a query or fragment. -/
theorem inPath_false {c : Char} (h : Percent.inPath c = false) :
    Percent.isControl c = false ∧ c ≠ ' ' ∧ c ≠ '?' ∧ c ≠ '#' := by
  rw [Percent.inPath, Bool.or_eq_false_iff] at h
  have hmarks : ∀ d, d = ' ' ∨ d = '?' ∨ d = '#' →
      " \"#<>?\x60{}".toList.contains d = true := by
    intro d hd
    rcases hd with rfl | rfl | rfl
    all_goals decide
  have hne : ∀ d, d = ' ' ∨ d = '?' ∨ d = '#' → c ≠ d := by
    intro d hd he
    rw [he, hmarks d hd] at h
    exact absurd h.2 (by decide)
  exact ⟨h.1, hne _ (.inl rfl), hne _ (.inr (.inl rfl)), hne _ (.inr (.inr rfl))⟩

/-- No part of an escape is escaped in a path. -/
theorem inPath_of_isEncoded {c : Char} (h : Form.isEncoded c = true) :
    Percent.inPath c = false :=
  Form.forall_isEncoded (P := fun c => Percent.inPath c = false) (by decide) h

namespace Path

/-- Whether a character separates segments. -/
def separates (kind : SchemeKind) (c : Char) : Bool :=
  c = '/' || (kind.isSpecial && c = '\\')

/-- The segments are what lies between the characters that separate them. -/
theorem split_eq (kind : SchemeKind) (cs : List Char) :
    split kind cs = cs.splitOnP (separates kind) := rfl

/-- No part of an escape separates segments. -/
theorem separates_of_isEncoded {kind : SchemeKind} {c : Char} (h : Form.isEncoded c = true) :
    separates kind c = false := by
  have hne : c ≠ '/' ∧ c ≠ '\\' := by
    constructor
    · rintro rfl
      exact absurd h (by decide)
    · rintro rfl
      exact absurd h (by decide)
  simp [separates, hne]

/-- No separator stands in a raw segment. -/
theorem separates_of_mem_split {kind : SchemeKind} {cs s : List Char} (hs : s ∈ split kind cs)
    {c : Char} (hc : c ∈ s) : separates kind c = false := by
  rw [split_eq] at hs
  induction cs generalizing s with
  | nil =>
    rw [List.splitOnP_nil, List.mem_singleton] at hs
    rw [hs] at hc
    cases hc
  | cons d ds ih =>
    rw [List.splitOnP_cons_eq_if_modifyHead] at hs
    split at hs
    · rcases List.mem_cons.1 hs with hnil | hs
      · rw [hnil] at hc
        cases hc
      · exact ih hs hc
    · rename_i hd
      obtain ⟨first, more, hsplit⟩ := List.exists_cons_of_ne_nil (List.splitOnP_ne_nil _ ds)
      rw [hsplit, List.modifyHead_cons] at hs
      rw [hsplit] at ih
      rcases List.mem_cons.1 hs with hfirst | hs
      · rw [hfirst] at hc
        rcases List.mem_cons.1 hc with he | hc
        · rw [he]
          exact eq_false_of_ne_true hd
        · exact ih List.mem_cons_self hc
      · exact ih (List.mem_cons_of_mem _ hs) hc

/-- A segment, written so that it is read as itself. -/
structure IsSegment (kind : SchemeKind) (s : List Char) : Prop where
  /-- Nothing in it is escaped. -/
  plain : ∀ c ∈ s, Percent.inPath c = false
  /-- Nothing in it separates segments. -/
  whole : ∀ c ∈ s, separates kind c = false
  /-- It is not one dot. -/
  notSingle : isSingleDot s = false
  /-- It is not two dots. -/
  notDouble : isDoubleDot s = false

/-- The empty segment is read as itself. -/
theorem isSegment_nil (kind : SchemeKind) : IsSegment kind [] :=
  ⟨fun _ hc => absurd hc List.not_mem_nil, fun _ hc => absurd hc List.not_mem_nil, rfl, rfl⟩

/-- Taking back a segment adds none. -/
theorem mem_of_mem_dropLast {done : List (List Char)} {x : List Char} (h : x ∈ dropLast done) :
    x ∈ done := by
  unfold dropLast at h
  split at h
  · cases h
  · split at h
    · exact h
    · exact List.dropLast_subset _ h

/-- After a step there is nothing new but the segment itself, if it is no dots, and an empty one. -/
theorem mem_step {done : List (List Char)} {s x : List Char} {isLast : Bool}
    (h : x ∈ step done s isLast) :
    x ∈ done ∨ x = [] ∨ (x = s ∧ isSingleDot s = false ∧ isDoubleDot s = false) := by
  have hending : x ∈ (if isLast then [[]] else [] : List (List Char)) → x = [] := by
    intro hx
    split at hx
    · exact List.mem_singleton.1 hx
    · cases hx
  unfold step at h
  dsimp only at h
  split at h
  · rcases List.mem_append.1 h with h | h
    · exact .inl (mem_of_mem_dropLast h)
    · exact .inr (.inl (hending h))
  · rename_i hdouble
    split at h
    · rcases List.mem_append.1 h with h | h
      · exact .inl h
      · exact .inr (.inl (hending h))
    · rename_i hsingle
      rcases List.mem_append.1 h with h | h
      · exact .inl h
      · exact .inr (.inr ⟨List.mem_singleton.1 h, eq_false_of_ne_true hsingle,
          eq_false_of_ne_true hdouble⟩)

/-- After the last step there is a segment. -/
theorem step_last_ne_nil (done : List (List Char)) (s : List Char) : step done s true ≠ [] := by
  unfold step
  dsimp only
  split
  · exact List.append_ne_nil_of_right_ne_nil _ (List.cons_ne_nil _ _)
  · split
    · exact List.append_ne_nil_of_right_ne_nil _ (List.cons_ne_nil _ _)
    · exact List.append_ne_nil_of_right_ne_nil _ (List.cons_ne_nil _ _)

/-- Raw segments without separators and without anything that is escaped leave segments that are
read as themselves. -/
theorem isSegment_of_mem_resolve {kind : SchemeKind} {done raws : List (List Char)}
    (hdone : ∀ s ∈ done, IsSegment kind s)
    (hraws : ∀ s ∈ raws, ∀ c ∈ s, Percent.inPath c = false ∧ separates kind c = false)
    {s : List Char} (h : s ∈ resolve done raws) : IsSegment kind s := by
  induction raws generalizing done with
  | nil => exact hdone s h
  | cons r raws ih =>
    refine ih (fun x hx => ?_) (fun x hx => hraws x (List.mem_cons_of_mem _ hx)) h
    have hr := hraws r List.mem_cons_self
    rcases mem_step hx with hx | hx | ⟨hx, hsingle, hdouble⟩
    · exact hdone x hx
    · rw [hx]
      exact isSegment_nil kind
    · rw [hx]
      exact ⟨fun c hc => (hr c hc).1, fun c hc => (hr c hc).2, hsingle, hdouble⟩

/-- Of raw segments a segment is left. -/
theorem resolve_ne_nil {done raws : List (List Char)} (h : raws ≠ []) :
    resolve done raws ≠ [] := by
  induction raws generalizing done with
  | nil => exact absurd rfl h
  | cons r raws ih =>
    rw [resolve]
    cases raws with
    | nil => exact step_last_ne_nil done r
    | cons next raws => exact ih (List.cons_ne_nil _ _)

/-- Raw segments that are no dots are all left. -/
theorem resolve_eq_append {done raws : List (List Char)}
    (h : ∀ s ∈ raws, isSingleDot s = false ∧ isDoubleDot s = false) :
    resolve done raws = done ++ raws := by
  induction raws generalizing done with
  | nil => rw [resolve, List.append_nil]
  | cons r raws ih =>
    obtain ⟨hsingle, hdouble⟩ := h r List.mem_cons_self
    have hstep : ∀ isLast, step done r isLast = done ++ [r] := by
      intro isLast
      simp [step, hsingle, hdouble]
    rw [resolve, hstep, ih fun s hs => h s (List.mem_cons_of_mem _ hs), List.append_assoc,
      List.singleton_append]

/-- The segments of a text are read as themselves. -/
theorem isSegment_of_mem_segments {kind : SchemeKind} {cs s : List Char}
    (h : s ∈ segments kind cs) : IsSegment kind s := by
  refine isSegment_of_mem_resolve (fun x hx => absurd hx List.not_mem_nil) (fun x hx c hc => ?_) h
  obtain ⟨raw, hraw, rfl⟩ := List.mem_map.1 hx
  refine ⟨not_selected_of_mem_encode (fun _ => inPath_of_isEncoded) hc, ?_⟩
  rcases mem_encode hc with ⟨hc, -⟩ | hencoded
  · exact separates_of_mem_split hraw hc
  · exact separates_of_isEncoded hencoded

/-- A text has a segment. -/
theorem segments_ne_nil (kind : SchemeKind) (cs : List Char) : segments kind cs ≠ [] := by
  refine resolve_ne_nil fun hnil => ?_
  rw [List.map_eq_nil_iff, split_eq] at hnil
  exact List.splitOnP_ne_nil _ _ hnil

/-- The raw segments of joined segments are the segments. -/
theorem split_append_text {kind : SchemeKind} {s : List Char} {ss : List (List Char)}
    (h : ∀ x ∈ s :: ss, ∀ c ∈ x, separates kind c = false) :
    split kind (s ++ (LinkPath.rooted ss).text) = s :: ss := by
  have hone : s.splitOnP (separates kind) = [s] :=
    List.splitOnP_eq_singleton (h s List.mem_cons_self)
  rw [split_eq]
  induction ss generalizing s with
  | nil =>
    rw [LinkPath.text, List.flatMap_nil, List.append_nil, hone]
  | cons t ss ih =>
    have ht : t.splitOnP (separates kind) = [t] :=
      List.splitOnP_eq_singleton (h t (List.mem_cons_of_mem _ List.mem_cons_self))
    have hrest := ih (fun x hx => h x (List.mem_cons_of_mem _ hx)) ht
    have htext : (LinkPath.rooted (t :: ss)).text = '/' :: (t ++ (LinkPath.rooted ss).text) := rfl
    rw [htext, List.splitOnP_append_cons _ _ (by simp [separates]), hone, hrest,
      List.singleton_append]

/-- Segments that are read as themselves stay as they are when they are escaped. -/
theorem map_encode_eq_self {kind : SchemeKind} {ss : List (List Char)}
    (h : ∀ x ∈ ss, IsSegment kind x) : ss.map (Percent.encode Percent.inPath) = ss := by
  refine (List.map_congr_left fun x hx => ?_).trans (List.map_id _)
  exact Percent.encode_eq_self (h x hx).plain

/-- Segments that are read as themselves are the segments of their text. -/
theorem segments_append_text {kind : SchemeKind} {s : List Char} {ss : List (List Char)}
    (h : ∀ x ∈ s :: ss, IsSegment kind x) :
    segments kind (s ++ (LinkPath.rooted ss).text) = s :: ss := by
  rw [segments, split_append_text fun x hx => (h x hx).whole, map_encode_eq_self h,
    resolve_eq_append fun x hx => ⟨(h x hx).notSingle, (h x hx).notDouble⟩, List.nil_append]

/-- A dot before the text of segments is a segment that stands for nothing. -/
theorem segments_dot_text {kind : SchemeKind} {ss : List (List Char)}
    (h : ∀ x ∈ ss, IsSegment kind x) (hne : ss ≠ []) :
    segments kind ('.' :: (LinkPath.rooted ss).text) = ss := by
  have hsplit : split kind ('.' :: (LinkPath.rooted ss).text) = ['.'] :: ss := by
    refine split_append_text (s := ['.']) fun x hx => ?_
    rcases List.mem_cons.1 hx with hdot | hx
    · rw [hdot]
      exact Text.forall_mem_of_all (by cases kind <;> decide)
    · exact (h x hx).whole
  have hdot : step [] ['.'] ss.isEmpty = [] := by
    rw [List.isEmpty_eq_false_iff.2 hne]
    decide
  have hencode : Percent.encode Percent.inPath ['.'] = ['.'] := by decide
  rw [segments, hsplit, List.map_cons, map_encode_eq_self h, hencode, resolve, hdot,
    resolve_eq_append fun x hx => ⟨(h x hx).notSingle, (h x hx).notDouble⟩, List.nil_append]

/-- The segments behind an authority are read as themselves. -/
theorem isSegment_of_mem_afterAuthority {kind : SchemeKind} {cs s : List Char}
    (h : s ∈ afterAuthority kind cs) : IsSegment kind s := by
  unfold afterAuthority at h
  split at h
  · split at h
    · rw [List.mem_singleton.1 h]
      exact isSegment_nil kind
    · cases h
  · split at h
    · exact isSegment_of_mem_segments h
    · exact isSegment_of_mem_segments h

/-- Behind the authority of a link that leads to a host there is a segment. -/
theorem afterAuthority_ne_nil {kind : SchemeKind} (hkind : kind.isSpecial = true)
    (cs : List Char) : afterAuthority kind cs ≠ [] := by
  unfold afterAuthority
  split
  · rw [if_pos hkind]
    exact List.cons_ne_nil _ _
  · split
    · exact segments_ne_nil _ _
    · exact segments_ne_nil _ _

/-- Segments behind an authority are read again. -/
theorem afterAuthority_text {kind : SchemeKind} {ss : List (List Char)}
    (h : ∀ s ∈ ss, IsSegment kind s) (hne : kind.isSpecial = true → ss ≠ []) :
    afterAuthority kind (LinkPath.rooted ss).text = ss := by
  cases ss with
  | nil =>
    have hkind : ¬kind.isSpecial = true := fun hk => hne hk rfl
    exact if_neg hkind
  | cons s ss =>
    have htext : (LinkPath.rooted (s :: ss)).text = '/' :: (s ++ (LinkPath.rooted ss).text) := rfl
    rw [htext, afterAuthority, if_pos (by simp), segments_append_text h]

/-- What is not escaped in segments is not escaped in their text. -/
theorem plain_of_mem_text {ss : List (List Char)}
    (h : ∀ s ∈ ss, ∀ c ∈ s, Percent.inPath c = false) {c : Char}
    (hc : c ∈ (LinkPath.rooted ss).text) : Percent.inPath c = false := by
  obtain ⟨s, hs, hc⟩ := List.mem_flatMap.1 hc
  rcases List.mem_cons.1 hc with hslash | hc
  · rw [hslash]
    decide
  · exact h s hs c hc

end Path

namespace FilePath

/-- Segments without anything that is escaped. -/
def IsPlain (ss : List (List Char)) : Prop :=
  ∀ s ∈ ss, ∀ c ∈ s, Percent.inPath c = false

/-- A step leaves nothing that is escaped. -/
theorem isPlain_step {done : List (List Char)} {s : List Char} (hdone : IsPlain done)
    (hs : ∀ c ∈ s, Percent.inPath c = false) (isLast : Bool) :
    IsPlain (Path.step done s isLast) := by
  intro x hx c hc
  rcases Path.mem_step hx with hx | hx | ⟨hx, -⟩
  · exact hdone x hx c hc
  · rw [hx] at hc
    cases hc
  · rw [hx] at hc
    exact hs c hc

/-- A step of a file's path leaves nothing that is escaped. -/
theorem isPlain_segments_step {st : State} {s : List Char} (hst : IsPlain st.segments)
    (hs : ∀ c ∈ s, Percent.inPath c = false) (isLast : Bool) :
    IsPlain (step st s isLast).segments := by
  have hnone : IsPlain [] := fun x hx => absurd hx List.not_mem_nil
  have hdrive : ∀ a, Percent.inPath a = false → IsPlain [[a, ':']] := by
    intro a ha x hx c hc
    rw [List.mem_singleton.1 hx] at hc
    rcases List.mem_cons.1 hc with rfl | hc
    · exact ha
    · rw [List.mem_singleton.1 hc]
      decide
  unfold step
  split
  · split
    · rename_i a b
      split
      · exact hdrive a (hs a List.mem_cons_self)
      · exact isPlain_step hnone hs isLast
    · rename_i a rest _
      split
      · refine isPlain_step (hdrive a (hs a List.mem_cons_self)) (fun c hc => ?_) isLast
        exact hs c (List.mem_cons_of_mem _ (List.mem_cons_of_mem _ hc))
      · exact isPlain_step hnone hs isLast
    · exact isPlain_step hnone hs isLast
  · exact isPlain_step hst hs isLast

/-- The steps of a file's path leave nothing that is escaped. -/
theorem isPlain_segments_resolve {st : State} {raws : List (List Char)}
    (hst : IsPlain st.segments) (hraws : IsPlain raws) :
    IsPlain (resolve st raws).segments := by
  induction raws generalizing st with
  | nil => exact hst
  | cons r raws ih =>
    have hstep := isPlain_segments_step hst (hraws r List.mem_cons_self) raws.isEmpty
    exact ih hstep fun s hs => hraws s (List.mem_cons_of_mem _ hs)

/-- Nothing is escaped in the segments of a file's path. -/
theorem isPlain_ofText (cs : List Char) : IsPlain (ofText cs).segments := by
  have hresolve : IsPlain (resolve ⟨[], false⟩
      ((Path.split .file cs).map (Percent.encode Percent.inPath))).segments := by
    refine isPlain_segments_resolve (fun x hx => absurd hx List.not_mem_nil) fun s hs c hc => ?_
    obtain ⟨raw, -, rfl⟩ := List.mem_map.1 hs
    exact not_selected_of_mem_encode (fun _ => inPath_of_isEncoded) hc
  intro s hs c hc
  change s ∈ trim _ at hs
  unfold trim at hs
  split at hs
  · rw [List.mem_singleton.1 hs] at hc
    cases hc
  · exact hresolve s (List.dropWhile_sublist _ |>.subset hs) c hc

end FilePath

end PayLink.Url
