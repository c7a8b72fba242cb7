import PayLink.Proofs.Text.Ascii
import PayLink.Proofs.Text.Cut
import PayLink.Url.Domain
/-!
# Written domain names

The ASCII form of a domain name has no character that a domain name cannot have and none that is
replaced when the name is read. Reading it again therefore gives the same form, if it is read at
all: a label that is given in its ASCII form stays as it is.
-/

namespace PayLink.Url

open PayLink.Text PayLink.Unicode

namespace Punycode

/-- The characters of numbers in a written text. -/
def isNumeral (c : Char) : Bool :=
  c.isLower || c.isDigit

/-- A digit is a lower-case letter or a decimal digit. -/
theorem isNumeral_digit {n : Nat} (h : n < 36) : isNumeral (digit n) = true := by
  have hall : ∀ m < 36, isNumeral (digit m) = true := by decide
  exact hall n h

/-- What has a value is a lower-case letter or a decimal digit. -/
theorem isNumeral_of_value? {c : Char} {d : Nat} (h : value? c = some d) : isNumeral c = true := by
  unfold value? at h
  split at h
  · rename_i hlower
    simp [isNumeral, hlower]
  · split at h
    · rename_i hdigit
      simp [isNumeral, hdigit]
    · cases h

/-- The digits of a number are lower-case letters and decimal digits. -/
theorem isNumeral_of_mem_digits {bias place n : Nat} {c : Char} (h : c ∈ digits bias place n) :
    isNumeral c = true := by
  induction n using Nat.strongRecOn generalizing place with
  | ind n ih =>
    have ht := threshold_bounds bias place
    rw [digits] at h
    split at h
    · rename_i hn
      rw [List.mem_singleton.1 h]
      exact isNumeral_digit (by omega)
    · rename_i hn
      have hmod := Nat.mod_lt (n - threshold bias place)
        (show 0 < 36 - threshold bias place by omega)
      have hless : (n - threshold bias place) / (36 - threshold bias place) < n :=
        Nat.lt_of_le_of_lt (Nat.div_le_self _ _) (by omega)
      rcases List.mem_cons.1 h with hc | hc
      · rw [hc]
        exact isNumeral_digit (by omega)
      · exact ih _ hless hc

/-- Passing a character writes nothing but digits. -/
theorem isNumeral_of_mem_pass {basicLength code : Nat} {w : Writer} {d : Char}
    (hw : ∀ c ∈ w.out, isNumeral c = true) {c : Char}
    (h : c ∈ (Writer.pass basicLength code w d).out) : isNumeral c = true := by
  unfold Writer.pass at h
  split at h
  · exact hw c h
  · split at h
    · rcases List.mem_append.1 h with hc | hc
      · exact hw c hc
      · exact isNumeral_of_mem_digits hc
    · exact hw c h

/-- Passing all characters of a text writes nothing but digits. -/
theorem isNumeral_of_mem_foldl_pass {basicLength code : Nat} {w : Writer} {cs : List Char}
    (hw : ∀ c ∈ w.out, isNumeral c = true) {c : Char}
    (h : c ∈ (cs.foldl (Writer.pass basicLength code) w).out) : isNumeral c = true := by
  induction cs generalizing w with
  | nil => exact hw c h
  | cons d ds ih => exact ih (fun e he => isNumeral_of_mem_pass hw he) h

/-- Writing the characters beyond ASCII writes nothing but digits. -/
theorem isNumeral_of_mem_writeAll {cs : List Char} {basicLength next : Nat} {codes : List Nat}
    {w : Writer} (hw : ∀ c ∈ w.out, isNumeral c = true) {c : Char}
    (h : c ∈ (Writer.writeAll cs basicLength w next codes).out) : isNumeral c = true := by
  induction codes generalizing w next with
  | nil => exact hw c h
  | cons code codes ih =>
    rw [Writer.writeAll] at h
    refine ih ?_ h
    intro d hd
    exact isNumeral_of_mem_foldl_pass (by exact hw) hd

/-- A written text has the ASCII characters of the text, hyphens, and digits. -/
theorem mem_of_mem_encode {c : Char} {cs : List Char} (h : c ∈ encode cs) :
    (c ∈ cs ∧ isBasic c = true) ∨ c = '-' ∨ isNumeral c = true := by
  rcases List.mem_append.1 h with hc | hc
  · split at hc
    · cases hc
    · rcases List.mem_append.1 hc with hc | hc
      · exact .inl (List.mem_filter.1 hc)
      · exact .inr (.inl (List.mem_singleton.1 hc))
  · exact .inr (.inr (isNumeral_of_mem_writeAll (fun d hd => by cases hd) hc))

/-- What stands before the rest of a number has only digits. -/
theorem isNumeral_of_number? {bias place weight n : Nat} {cs rest : List Char}
    (h : number? bias place weight cs = some (n, rest)) {c : Char} (hc : c ∈ cs) :
    isNumeral c = true ∨ c ∈ rest := by
  induction cs generalizing place weight n with
  | nil => cases hc
  | cons d ds ih =>
    rw [number?] at h
    split at h
    · cases h
    · rename_i v hv
      rcases List.mem_cons.1 hc with hcd | hcd
      · rw [hcd]
        exact .inl (isNumeral_of_value? hv)
      · split at h
        · obtain ⟨-, hrest⟩ := Prod.mk.inj (Option.some.inj h)
          exact .inr (hrest ▸ hcd)
        · obtain ⟨⟨m, r⟩, hr, he⟩ := Option.map_eq_some_iff.1 h
          have hrest : r = rest := (Prod.mk.inj he).2
          rw [hrest] at hr
          exact ih hr hcd

/-- Characters that are put into a text leave those that were there, and their numbers are all that
the written form has. -/
theorem mem_of_insertAll? {out cs text : List Char} {bias code place : Nat} {isFirst : Bool}
    (h : insertAll? out bias code place isFirst cs = some text) :
    (∀ c ∈ out, c ∈ text) ∧ ∀ c ∈ cs, isNumeral c = true := by
  fun_induction insertAll? out bias code place isFirst cs with
  | case1 out bias code place isFirst cs hempty =>
    have htext : out = text := Option.some.inj h
    have hcs : cs = [] := List.isEmpty_iff.1 hempty
    constructor
    · intro c hc
      rwa [← htext]
    · intro c hc
      rw [hcs] at hc
      cases hc
  | case2 => cases h
  | case3 out bias code place isFirst cs hne n rest hnumber length code' place' hvalid ih =>
    have hplace : (place + n) % (out.length + 1) ≤ out.length :=
      Nat.le_of_lt_succ (Nat.mod_lt _ (Nat.succ_pos _))
    obtain ⟨hkept, hnumerals⟩ := ih h
    constructor
    · intro c hc
      exact hkept c ((List.mem_insertIdx hplace).2 (.inr hc))
    · intro c hc
      rcases isNumeral_of_number? hnumber hc with hnum | hrest
      · exact hnum
      · exact hnumerals c hrest
  | case4 => cases h

/-- Nothing but a hyphen is lost when a written text is cut into its ASCII characters and its
numbers. -/
theorem mem_split {c : Char} {cs : List Char} (h : c ∈ cs) :
    c ∈ (split cs).1 ∨ c = '-' ∨ c ∈ (split cs).2 := by
  have hsplit : split cs = if (beforeEnd (· ≠ '-') cs).length ≤ 1 then ([], cs)
      else ((beforeEnd (· ≠ '-') cs).dropLast, endWhile (· ≠ '-') cs) := by
    rw [← take_length_sub_endWhile]
    rfl
  rw [hsplit]
  by_cases hshort : (beforeEnd (· ≠ '-') cs).length ≤ 1
  · rw [if_pos hshort]
    exact .inr (.inr h)
  · rw [if_neg hshort]
    rw [← beforeEnd_append_endWhile (· ≠ '-') cs] at h
    rcases List.mem_append.1 h with hfront | hnumbers
    · have hne : beforeEnd (· ≠ '-') cs ≠ [] := List.ne_nil_of_mem hfront
      have hlast := getLast?_beforeEnd (List.getLast?_eq_some_getLast hne)
      have hhyphen : (beforeEnd (· ≠ '-') cs).getLast hne = '-' := by simpa using hlast
      rw [← List.dropLast_concat_getLast hne, hhyphen] at hfront
      rcases List.mem_append.1 hfront with hkept | hmark
      · exact .inl hkept
      · exact .inr (.inl (List.mem_singleton.1 hmark))
    · exact .inr (.inr hnumbers)

/-- The characters of a written text are hyphens, digits, and characters of the text. -/
theorem mem_of_decode? {cs text : List Char} (h : decode? cs = some text) {c : Char} (hc : c ∈ cs) :
    c ∈ text ∨ c = '-' ∨ isNumeral c = true := by
  have hsplit := mem_split hc
  unfold decode? at h
  split at h
  rename_i basic numbers hparts
  rw [hparts] at hsplit
  split at h
  · obtain ⟨hkept, hnumerals⟩ := mem_of_insertAll? h
    rcases hsplit with hb | hb | hb
    · exact .inl (hkept c hb)
    · exact .inr (.inl hb)
    · exact .inr (.inr (hnumerals c hb))
  · cases h

end Punycode

namespace Domain

/-- The characters of a domain name in its ASCII form: those that a name can have and that are not
replaced when it is read. -/
def isWritten (c : Char) : Bool :=
  isAscii c && !isForbidden c && c.toLower = c

/-- A character stands in written names if it is ASCII, allowed in names and in lower case. -/
theorem isWritten_iff {c : Char} :
    isWritten c = true ↔ c.toNat < 0x80 ∧ isForbidden c = false ∧ c.toLower = c := by
  simp [isWritten, isAscii, and_assoc]

/-- Lower-case letters and digits stand in written names. -/
theorem isWritten_of_isNumeral {c : Char} (h : Punycode.isNumeral c = true) :
    isWritten c = true := by
  have hascii : c.toNat < 0x80 := by
    rcases Bool.or_eq_true_iff.1 h with hlower | hdigit
    · exact isAlpha_lt (Bool.or_eq_true_iff.2 (.inr hlower))
    · exact isDigit_lt hdigit
  exact forall_ascii (P := fun c => Punycode.isNumeral c = true → isWritten c = true) (by decide)
    hascii h

/-- An ASCII character that is kept is none that is replaced. -/
theorem toLower_of_fate {c : Char} (hascii : c.toNat < 0x80) (h : fate c = .kept) :
    c.toLower = c := by
  rw [fate, if_pos hascii] at h
  split at h
  · assumption
  · cases h

/-- The ASCII form of a label that may stand in a name is written. -/
theorem Label.isWritten_of_mem {cs : List Char} {l : Label} (h : Label.ofText? cs = some l)
    (hvalid : l.isValid = true) (hcs : ∀ c ∈ cs, isForbidden c = false) {c : Char}
    (hc : c ∈ l.ascii) : Domain.isWritten c = true := by
  have hkept : ∀ d ∈ l.text, fate d = .kept := by
    simp only [Label.isValid, Bool.and_eq_true, List.all_eq_true, decide_eq_true_eq] at hvalid
    exact hvalid.1.1.1.1
  have hmark : ∀ d ∈ asciiMark, Domain.isWritten d = true :=
    forall_mem_of_all (by decide)
  unfold Label.ofText? at h
  split at h
  · rename_i marked hmarked
    have hjoin : asciiMark ++ marked = cs := List.isPrefixOf?_eq_some_iff_append_eq.1 hmarked
    split at h
    · rename_i hall
      obtain ⟨text, htext, h⟩ := Option.bind_eq_some_iff.1 h
      split at h
      · cases h
      · obtain rfl := Option.some.inj h
        have hascii : c.toNat < 0x80 := of_decide_eq_true (List.all_eq_true.1 hall.1 c hc)
        have hc' : c ∈ asciiMark ++ marked := hjoin ▸ hc
        rcases List.mem_append.1 hc' with hm | hm
        · exact hmark c hm
        · rcases Punycode.mem_of_decode? htext hm with hm | hm | hm
          · exact isWritten_iff.2 ⟨hascii, hcs c hc, toLower_of_fate hascii (hkept c hm)⟩
          · rw [hm]
            decide
          · exact isWritten_of_isNumeral hm
    · cases h
  · obtain rfl := Option.some.inj h
    have hown : ∀ d ∈ cs, d.toNat < 0x80 → Domain.isWritten d = true := fun d hd hascii =>
      isWritten_iff.2 ⟨hascii, hcs d hd, toLower_of_fate hascii (hkept d hd)⟩
    dsimp only at hc
    split at hc
    · rename_i hall
      exact hown c hc (of_decide_eq_true (List.all_eq_true.1 hall c hc))
    · rcases List.mem_append.1 hc with hm | hm
      · exact hmark c hm
      · rcases Punycode.mem_of_mem_encode hm with ⟨hm, hbasic⟩ | hm | hm
        · exact hown c hm (of_decide_eq_true hbasic)
        · rw [hm]
          decide
        · exact isWritten_of_isNumeral hm

/-- The ASCII form of a text that is ASCII already is that text. -/
theorem Label.ascii_eq {cs : List Char} {l : Label} (h : Label.ofText? cs = some l)
    (hcs : ∀ c ∈ cs, c.toNat < 0x80) : l.ascii = cs := by
  have hall : cs.all isAscii = true :=
    List.all_eq_true.2 fun c hc => decide_eq_true (hcs c hc)
  unfold Label.ofText? at h
  split at h
  · split at h
    · obtain ⟨text, -, h⟩ := Option.bind_eq_some_iff.1 h
      split at h
      · cases h
      · rw [← Option.some.inj h]
    · cases h
  · rw [← Option.some.inj h]
    exact if_pos hall

/-- Every label is that of a part of the name. -/
theorem exists_part {parts : List (List Char)} {labels : List Label}
    (h : parts.mapM Label.ofText? = some labels) {l : Label} (hl : l ∈ labels) :
    ∃ part ∈ parts, Label.ofText? part = some l := by
  induction parts generalizing labels with
  | nil =>
    rw [List.mapM_nil] at h
    rw [← Option.some.inj h] at hl
    cases hl
  | cons part parts ih =>
    rw [List.mapM_cons] at h
    obtain ⟨first, hfirst, h⟩ := Option.bind_eq_some_iff.1 h
    obtain ⟨rest, hrest, h⟩ := Option.bind_eq_some_iff.1 h
    rw [← Option.some.inj h] at hl
    rcases List.mem_cons.1 hl with hl | hl
    · exact ⟨part, List.mem_cons_self, hl ▸ hfirst⟩
    · obtain ⟨other, hother, htext⟩ := ih hrest hl
      exact ⟨other, List.mem_cons_of_mem _ hother, htext⟩

/-- The labels of ASCII parts have the parts for their ASCII forms. -/
theorem map_ascii_eq {parts : List (List Char)} {labels : List Label}
    (h : parts.mapM Label.ofText? = some labels)
    (hparts : ∀ part ∈ parts, ∀ c ∈ part, c.toNat < 0x80) : labels.map Label.ascii = parts := by
  induction parts generalizing labels with
  | nil =>
    rw [List.mapM_nil] at h
    rw [← Option.some.inj h]
    rfl
  | cons part parts ih =>
    rw [List.mapM_cons] at h
    obtain ⟨first, hfirst, h⟩ := Option.bind_eq_some_iff.1 h
    obtain ⟨rest, hrest, h⟩ := Option.bind_eq_some_iff.1 h
    have hhead := Label.ascii_eq hfirst (hparts part List.mem_cons_self)
    have htail := ih hrest fun other ho => hparts other (List.mem_cons_of_mem _ ho)
    rw [← Option.some.inj h, List.map_cons, hhead, htail]

/-- A name that is read has the ASCII forms of the labels of its composed text, and these may stand
in a name. -/
theorem labels_of_toAscii? {cs name : List Char} (h : toAscii? cs = some name) :
    ∃ text labels, mapped? cs = some text ∧ (∀ c ∈ composed text, isForbidden c = false) ∧
      ((composed text).splitOn '.').mapM Label.ofText? = some labels ∧
      (∀ l ∈ labels, l.isValid = true) ∧ name = ['.'].intercalate (labels.map Label.ascii) := by
  obtain ⟨text, htext, h⟩ := Option.bind_eq_some_iff.1 h
  dsimp only at h
  split at h
  · cases h
  · rename_i hfree
    obtain ⟨labels, hlabels, h⟩ := Option.bind_eq_some_iff.1 h
    split at h
    · rename_i hall
      refine ⟨text, labels, htext, ?_, hlabels, List.all_eq_true.1 hall.1, ?_⟩
      · intro c hc
        exact eq_false_of_ne_true fun hforbidden => hfree (List.any_eq_true.2 ⟨c, hc, hforbidden⟩)
      · exact (Option.some.inj h).symm
    · cases h

/-- The ASCII form of a domain name is written. -/
theorem isWritten_of_toAscii? {cs name : List Char} (h : toAscii? cs = some name) {c : Char}
    (hc : c ∈ name) : isWritten c = true := by
  obtain ⟨text, labels, -, hfree, hlabels, hvalid, hname⟩ := labels_of_toAscii? h
  rw [hname] at hc
  rcases mem_or_mem_of_mem_intercalate hc with hdot | ⟨ascii, hascii, hc⟩
  · rw [hdot]
    decide
  · obtain ⟨l, hl, hform⟩ := List.mem_map.1 hascii
    obtain ⟨part, hpart, htext⟩ := exists_part hlabels hl
    have hsub : ∀ d ∈ part, isForbidden d = false := fun d hd =>
      hfree d (mem_of_mem_splitOn hpart hd)
    exact Label.isWritten_of_mem htext (hvalid l hl) hsub (hform ▸ hc)

/-- A written name that is read is read as itself. -/
theorem toAscii?_eq_self {name name' : List Char} (hname : ∀ c ∈ name, isWritten c = true)
    (h : toAscii? name = some name') : name' = name := by
  have hascii : ∀ c ∈ name, c.toNat < 0x80 := fun c hc => (isWritten_iff.1 (hname c hc)).1
  have hlower : name.map Char.toLower = name :=
    (List.map_congr_left fun c hc => (isWritten_iff.1 (hname c hc)).2.2).trans (List.map_id _)
  have hcomposed : composed name = name :=
    composed_eq_self fun c hc => Nat.lt_trans (hascii c hc) (by decide)
  obtain ⟨text, labels, htext, -, hlabels, -, hname'⟩ := labels_of_toAscii? h
  rw [mapped?_ascii hascii, hlower] at htext
  rw [← Option.some.inj htext, hcomposed] at hlabels
  have hparts : ∀ part ∈ name.splitOn '.', ∀ c ∈ part, c.toNat < 0x80 := fun part hpart c hc =>
    hascii c (mem_of_mem_splitOn hpart hc)
  rw [hname', map_ascii_eq hlabels hparts, List.intercalate_splitOn]

end Domain

end PayLink.Url
