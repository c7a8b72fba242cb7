/-!
# Cutting text at a separator

The two sides of the first separator. Nothing is lost: the sides and the separator are the text.
-/

namespace PayLink.Text

/-- What stands before the first `sep`, and what stands after it if there is one. -/
def cut (sep : Char) : List Char → List Char × Option (List Char)
  | [] => ([], none)
  | c :: cs =>
    if c = sep then ([], some cs)
    else ((c :: (cut sep cs).1), (cut sep cs).2)

/-- A text without separator is its own first side. -/
theorem cut_of_not_mem {sep : Char} {cs : List Char} (h : sep ∉ cs) : cut sep cs = (cs, none) := by
  induction cs with
  | nil => rfl
  | cons c cs ih =>
    have hc : c ≠ sep := fun he => h (by simp [he])
    have hs : sep ∉ cs := fun hm => h (by simp [hm])
    simp [cut, hc, ih hs]

/-- The first side ends at the first separator. -/
theorem cut_append {sep : Char} {cs : List Char} (h : sep ∉ cs) (rest : List Char) :
    cut sep (cs ++ sep :: rest) = (cs, some rest) := by
  induction cs with
  | nil => simp [cut]
  | cons c cs ih =>
    have hc : c ≠ sep := fun he => h (by simp [he])
    have hs : sep ∉ cs := fun hm => h (by simp [hm])
    simp [cut, hc, ih hs]

/-- The first side holds no separator. -/
theorem not_mem_cut (sep : Char) (cs : List Char) : sep ∉ (cut sep cs).1 := by
  induction cs with
  | nil => simp [cut]
  | cons c cs ih =>
    simp only [cut]
    split
    · simp
    · rename_i hc
      simpa [ih] using fun h => hc h.symm

end PayLink.Text
