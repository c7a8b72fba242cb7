import PayLink.Link.Transaction
import PayLink.Link.Transfer
import PayLink.Proofs.Address
import PayLink.Proofs.Outcome
/-!
# The parameters of a transfer

Taking parameters into account one after the other finds the first amount, token, label, message and
memo that are not empty, and all references that are not empty, in order. It fails exactly if the
token or a reference that counts names no account.
-/

namespace PayLink.Link

open Url (Form.Pair)
open Transaction (firstText)

/-- The values of a parameter that are not empty, in order. -/
def texts (key : List Char) (ps : List Form.Pair) : List String :=
  (ps.filter fun p => p.1 = key && !p.2.isEmpty).map fun p => String.ofList p.2

/-- The values of a parameter in two lists of pairs, one after the other. -/
theorem texts_append (key : List Char) (ps qs : List Form.Pair) :
    texts key (ps ++ qs) = texts key ps ++ texts key qs := by
  rw [texts, List.filter_append, List.map_append]
  rfl

/-- The first value in two lists of pairs is that of the first list, if it has one. -/
theorem firstText_append (key : List Char) (ps qs : List Form.Pair) :
    firstText key (ps ++ qs) = (firstText key ps).or (firstText key qs) := by
  rw [firstText, List.find?_append, Option.map_or]
  rfl

/-- The first value that is not empty is the first of all that are not. -/
theorem firstText_eq_head? (key : List Char) (ps : List Form.Pair) :
    firstText key ps = (texts key ps).head? := by
  rw [firstText, texts, List.head?_map, List.head?_filter]

/-- One parameter has a value of its own key only, if that is not empty. -/
theorem texts_singleton (key : List Char) (p : Form.Pair) :
    texts key [p] = if p.1 = key ∧ p.2 ≠ [] then [String.ofList p.2] else [] := by
  rw [texts, List.filter_singleton]
  by_cases h : p.1 = key ∧ p.2 ≠ []
  · have hp : (decide (p.1 = key) && !p.2.isEmpty) = true := by
      simpa using h
    rw [if_pos h, hp]
    rfl
  · have hp : (decide (p.1 = key) && !p.2.isEmpty) = false := by
      simpa using h
    rw [if_neg h, hp]
    rfl

/-- The values of pairs that all have the same key, if none is empty. -/
theorem texts_map {α : Type} (key other : List Char) {f : α → List Char} {as : List α}
    (hf : ∀ a ∈ as, f a ≠ []) :
    texts key (as.map fun a => (other, f a)) =
      if other = key then as.map fun a => String.ofList (f a) else [] := by
  induction as with
  | nil =>
    rw [List.map_nil, List.map_nil, ite_self]
    rfl
  | cons a as ih =>
    have ha := texts_singleton key (other, f a)
    rw [List.map_cons, ← List.singleton_append, texts_append, ha,
      ih fun b hb => hf b (List.mem_cons_of_mem a hb)]
    by_cases hkey : other = key
    · rw [if_pos ⟨hkey, hf a List.mem_cons_self⟩, if_pos hkey, if_pos hkey]
      rfl
    · rw [if_neg fun h => hkey h.1, if_neg hkey, if_neg hkey]
      rfl

namespace Transfer.Found

/-- What is found once the parameters `ps` are taken into account too. -/
structure Extends (g : Found) (ps : List Form.Pair) (f : Found) : Prop where
  /-- The amount is the first that is not empty. -/
  amount : f.amount = g.amount.or (firstText amountKey ps)
  /-- The token is the first that is not empty. -/
  token : f.token.map Address.text = (g.token.map Address.text).or (firstText tokenKey ps)
  /-- The references are all that are not empty. -/
  references : f.references.map Address.text =
    g.references.map Address.text ++ texts referenceKey ps
  /-- The label is the first that is not empty. -/
  label : f.label = g.label.or (firstText labelKey ps)
  /-- The message is the first that is not empty. -/
  message : f.message = g.message.or (firstText messageKey ps)
  /-- The memo is the first that is not empty. -/
  memo : f.memo = g.memo.or (firstText memoKey ps)

/-- What is found is there if no parameters are left. -/
theorem Extends.refl (f : Found) : f.Extends [] f := by
  constructor
  all_goals simp [firstText, texts]

/-- Parameters count one after the other. -/
theorem Extends.trans {g m f : Found} {ps qs : List Form.Pair} (h : g.Extends ps m)
    (h' : m.Extends qs f) : g.Extends (ps ++ qs) f where
  amount := by rw [h'.amount, h.amount, firstText_append, Option.or_assoc]
  token := by rw [h'.token, h.token, firstText_append, Option.or_assoc]
  references := by rw [h'.references, h.references, texts_append, List.append_assoc]
  label := by rw [h'.label, h.label, firstText_append, Option.or_assoc]
  message := by rw [h'.message, h.message, firstText_append, Option.or_assoc]
  memo := by rw [h'.memo, h.memo, firstText_append, Option.or_assoc]

/-- What is found is determined by the parameters. -/
theorem Extends.unique {g f f' : Found} {ps : List Form.Pair} (h : g.Extends ps f)
    (h' : g.Extends ps f') : f = f' := by
  have htoken := Option.map_injective Address.text_injective (h.token.trans h'.token.symm)
  have hreferences :=
    List.map_injective_iff.2 Address.text_injective (h.references.trans h'.references.symm)
  cases f
  cases f'
  simp only [mk.injEq]
  exact ⟨h.amount.trans h'.amount.symm, htoken, hreferences, h.label.trans h'.label.symm,
    h.message.trans h'.message.symm, h.memo.trans h'.memo.symm⟩

/-- A parameter that is accepted counts as it should. -/
theorem extends_of_add {g f : Found} {p : Form.Pair} (h : g.add p = .ok f) :
    g.Extends [p] f := by
  obtain ⟨key, value⟩ := p
  unfold add at h
  simp only at h
  split at h
  · rename_i hempty
    have hvalue := List.isEmpty_iff.1 hempty
    cases h
    constructor
    all_goals simp [firstText_eq_head?, texts_singleton, hvalue]
  rename_i hempty
  have hvalue : value ≠ [] := fun he => hempty (List.isEmpty_iff.2 he)
  split at h
  · rename_i hkey
    subst hkey
    cases h
    cases hg : g.amount
    all_goals constructor
    all_goals simp +decide [firstText_eq_head?, texts_singleton, hvalue, hg]
  split at h
  · rename_i hkey
    subst hkey
    cases hg : g.token with
    | none =>
      rw [hg] at h
      simp only [Option.isNone_none, if_true] at h
      obtain ⟨t, ht, hf⟩ := bind_eq_ok_iff.1 h
      rw [Address.parse_eq_ok_iff] at ht
      cases hf
      constructor
      all_goals simp +decide [firstText_eq_head?, texts_singleton, hvalue, hg, ht]
    | some t =>
      rw [hg] at h
      cases h
      constructor
      all_goals simp +decide [firstText_eq_head?, texts_singleton, hvalue, hg]
  split at h
  · rename_i hkey
    subst hkey
    obtain ⟨a, ha, hf⟩ := bind_eq_ok_iff.1 h
    rw [Address.parse_eq_ok_iff] at ha
    cases hf
    constructor
    all_goals simp +decide [firstText_eq_head?, texts_singleton, hvalue, ha]
  split at h
  · rename_i hkey
    subst hkey
    cases h
    cases hg : g.label
    all_goals constructor
    all_goals simp +decide [firstText_eq_head?, texts_singleton, hvalue, hg]
  split at h
  · rename_i hkey
    subst hkey
    cases h
    cases hg : g.message
    all_goals constructor
    all_goals simp +decide [firstText_eq_head?, texts_singleton, hvalue, hg]
  split at h
  · rename_i hkey
    subst hkey
    cases h
    cases hg : g.memo
    all_goals constructor
    all_goals simp +decide [firstText_eq_head?, texts_singleton, hvalue, hg]
  cases h
  constructor
  all_goals simp [firstText_eq_head?, texts_singleton, *]

/-- A parameter that is refused is a token or a reference that counts and names no account. -/
theorem eq_of_add_eq_error {g : Found} {p : Form.Pair} {e : PayError} (h : g.add p = .error e) :
    (g.token = none ∧ ∃ s, firstText tokenKey [p] = some s ∧ e = .invalidAddress .token s ∧
        ∀ a : Address, s ≠ a.text) ∨
      ∃ s ∈ texts referenceKey [p], e = .invalidAddress .reference s ∧
        ∀ a : Address, s ≠ a.text := by
  obtain ⟨key, value⟩ := p
  unfold add at h
  simp only at h
  split at h
  · cases h
  rename_i hempty
  have hvalue : value ≠ [] := fun he => hempty (List.isEmpty_iff.2 he)
  have hown : texts key [(key, value)] = [String.ofList value] := by
    rw [texts_singleton, if_pos ⟨rfl, hvalue⟩]
  split at h
  · cases h
  split at h
  · rename_i hkey
    subst hkey
    split at h
    · rename_i hnone
      rcases bind_eq_error_iff.1 h with ht | ⟨t, -, ht⟩
      · obtain ⟨he, htext⟩ := Address.eq_of_parse_eq_error ht
        exact .inl ⟨Option.isNone_iff_eq_none.1 hnone, _, by rw [firstText_eq_head?, hown]; rfl,
          he, htext⟩
      · cases ht
    · cases h
  split at h
  · rename_i hkey
    subst hkey
    rcases bind_eq_error_iff.1 h with ha | ⟨a, -, ha⟩
    · exact .inr ⟨_, by rw [hown]; exact List.mem_singleton_self _,
        Address.eq_of_parse_eq_error ha⟩
    · cases ha
  split at h
  · cases h
  split at h
  · cases h
  split at h
  · cases h
  · cases h

/-- Parameters that are accepted count as they should. -/
theorem extends_of_foldlM {g f : Found} {ps : List Form.Pair} (h : ps.foldlM add g = .ok f) :
    g.Extends ps f := by
  induction ps generalizing g with
  | nil =>
    cases h
    exact .refl _
  | cons p ps ih =>
    rw [List.foldlM_cons] at h
    obtain ⟨m, hm, hf⟩ := bind_eq_ok_iff.1 h
    exact (extends_of_add hm).trans (ih hf)

/-- Parameters that are refused have a token or a reference that counts and names no account. -/
theorem eq_of_foldlM_eq_error {g : Found} {ps : List Form.Pair} {e : PayError}
    (h : ps.foldlM add g = .error e) :
    (g.token = none ∧ ∃ s, firstText tokenKey ps = some s ∧ e = .invalidAddress .token s ∧
        ∀ a : Address, s ≠ a.text) ∨
      ∃ s ∈ texts referenceKey ps, e = .invalidAddress .reference s ∧
        ∀ a : Address, s ≠ a.text := by
  induction ps generalizing g with
  | nil => cases h
  | cons p ps ih =>
    rw [List.foldlM_cons] at h
    rw [← List.singleton_append, firstText_append, texts_append]
    rcases bind_eq_error_iff.1 h with hp | ⟨m, hm, hps⟩
    · rcases eq_of_add_eq_error hp with ⟨hg, s, hs, he⟩ | ⟨s, hs, he⟩
      · exact .inl ⟨hg, s, by rw [hs]; rfl, he⟩
      · exact .inr ⟨s, List.mem_append_left _ hs, he⟩
    · rcases ih hps with ⟨hnone, s, hs, he⟩ | ⟨s, hs, he⟩
      · have htoken := (extends_of_add hm).token
        rw [hnone, Option.map_none, eq_comm, Option.or_eq_none_iff, Option.map_eq_none_iff]
          at htoken
        exact .inl ⟨htoken.1, s, by rw [htoken.2, Option.none_or, hs], he⟩
      · exact .inr ⟨s, List.mem_append_right _ hs, he⟩

/-- Parameters are accepted exactly if there is what they should count as. -/
theorem foldlM_add_eq_ok_iff {g f : Found} {ps : List Form.Pair} :
    ps.foldlM add g = .ok f ↔ g.Extends ps f := by
  constructor
  · exact extends_of_foldlM
  · intro h
    cases hfold : ps.foldlM add g with
    | ok f' => rw [(extends_of_foldlM hfold).unique h]
    | error e =>
      rcases eq_of_foldlM_eq_error hfold with ⟨hg, s, hs, -, hnone⟩ | ⟨s, hs, -, hnone⟩
      · have htoken := h.token
        rw [hg, hs, Option.map_none, Option.none_or] at htoken
        obtain ⟨a, -, ha⟩ := Option.map_eq_some_iff.1 htoken
        exact absurd ha.symm (hnone a)
      · have hmem : s ∈ f.references.map Address.text := by
          rw [h.references]
          exact List.mem_append_right _ hs
        obtain ⟨a, -, ha⟩ := List.mem_map.1 hmem
        exact absurd ha.symm (hnone a)

end Transfer.Found

namespace Transfer

/-- What parameters count as, without the amount, is what the transfer has. -/
theorem ofPairs_eq {config : PayConfig} {ps : List Form.Pair} {f : Found} (recipient : Address)
    (h : Found.Extends {} ps f) :
    ofPairs config recipient.text ps = (readAmount config f.token f.amount).map fun amount =>
      ⟨recipient, amount, f.token, f.references, f.label, f.message, f.memo⟩ := by
  rw [ofPairs, Address.parse_eq_ok_iff.2 rfl, Found.foldlM_add_eq_ok_iff.2 h]
  change (readAmount config f.token f.amount).bind _ = _
  cases readAmount config f.token f.amount with
  | error e => rfl
  | ok amount => rfl

/-- A transfer is read exactly if the path names its recipient, and its token, references and texts
are what the parameters count as, and its amount is the first one, scaled as the token is. -/
theorem ofPairs_eq_ok_iff {config : PayConfig} {path : String} {ps : List Form.Pair}
    {r : TransferRequest} :
    ofPairs config path ps = .ok r ↔
      path = r.recipient.text ∧
      readAmount config r.token (firstText amountKey ps) = .ok r.amount ∧
      r.token.map Address.text = firstText tokenKey ps ∧
      r.references.map Address.text = texts referenceKey ps ∧
      r.label = firstText labelKey ps ∧
      r.message = firstText messageKey ps ∧
      r.memo = firstText memoKey ps := by
  constructor
  · intro h
    obtain ⟨recipient, hrecipient, h⟩ := bind_eq_ok_iff.1 h
    obtain ⟨f, hf, h⟩ := bind_eq_ok_iff.1 h
    obtain ⟨amount, hamount, h⟩ := bind_eq_ok_iff.1 h
    obtain rfl := Except.ok.inj h
    have hfound := Found.extends_of_foldlM hf
    rw [hfound.amount] at hamount
    exact ⟨Address.parse_eq_ok_iff.1 hrecipient, hamount, hfound.token, hfound.references,
      hfound.label, hfound.message, hfound.memo⟩
  · rintro ⟨rfl, hamount, htoken, hreferences, hlabel, hmessage, hmemo⟩
    have hfound : Found.Extends {} ps ⟨firstText amountKey ps, r.token, r.references, r.label,
        r.message, r.memo⟩ :=
      ⟨rfl, htoken, hreferences, hlabel, hmessage, hmemo⟩
    rw [ofPairs_eq r.recipient hfound, hamount]
    rfl

end Transfer

end PayLink.Link
