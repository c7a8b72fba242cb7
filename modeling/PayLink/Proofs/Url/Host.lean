import PayLink.Proofs.Outcome
import PayLink.Proofs.Url.DomainName
import PayLink.Proofs.Url.Escapes
import PayLink.Proofs.Url.Ipv4
import PayLink.Proofs.Url.Ipv6
import PayLink.Proofs.Url.Legible
/-!
# Written hosts

A host is written either in brackets, with an IPv6 address between them, or without any mark that
ends a host or a part of a link. Reading a written host under a special scheme gives the same host,
if it is read at all; only a name whose labels are too long to be read may be refused.
-/

namespace PayLink.Url.Host

open PayLink.Text

/-- A host as it is written. -/
inductive Written : List Char → Prop
  /-- An IPv6 address in brackets. -/
  | bracketed {gs : List Nat} (h : Ipv6.IsAddress gs) : Written ('[' :: Ipv6.text gs ++ [']'])
  /-- A text without marks and without characters that are escaped. -/
  | plain {host : List Char}
      (h : ∀ c ∈ host, isForbidden c = false ∧ Percent.isControl c = false) : Written host

/-- Brackets that are read hold an address. -/
theorem eq_of_bracketed {inner host : List Char} (h : bracketed inner = .ok host) :
    ∃ gs, Ipv6.IsAddress gs ∧ host = '[' :: Ipv6.text gs ++ [']'] := by
  unfold bracketed at h
  split at h
  · split at h
    · rename_i gs hgs
      exact ⟨gs, Ipv6.isAddress_of_ofText? hgs, (Except.ok.inj h).symm⟩
    · cases h
  · cases h

/-- An address in brackets is read again. -/
theorem bracketed_text {gs : List Nat} (h : Ipv6.IsAddress gs) :
    bracketed (Ipv6.text gs ++ [']']) = .ok ('[' :: Ipv6.text gs ++ [']']) := by
  have hlast : (Ipv6.text gs ++ [']']).getLast? = some ']' := List.getLast?_concat
  rw [bracketed, if_pos hlast, List.dropLast_concat, Ipv6.ofText?_text h]

/-- What stands in a written domain name is no mark and is not escaped. -/
theorem plain_of_isWritten {c : Char} (h : Domain.isWritten c = true) :
    isForbidden c = false ∧ Percent.isControl c = false :=
  forall_ascii (P := fun c => Domain.isWritten c = true →
    isForbidden c = false ∧ Percent.isControl c = false) (by decide)
    (Domain.isWritten_iff.1 h).1 h

/-- A written name that is no address stands for itself, and an address for its four bytes. -/
theorem ofDomain_eq_self {name host : List Char} (hname : ∀ c ∈ name, Domain.isWritten c = true)
    (h : ofDomain name = .ok host) :
    (∀ c ∈ host, Domain.isWritten c = true) ∧ ofDomain host = .ok host := by
  have hagain := h
  unfold ofDomain at h
  split at h
  · cases h
  · split at h
    · split at h
      · rename_i n hn
        have htext : Ipv4.text n = host := Except.ok.inj h
        have hread : Ipv4.ofHost? (Ipv4.text n) = some n :=
          Ipv4.ofHost?_text (Ipv4.lt_of_ofHost? hn)
        rw [← htext]
        constructor
        · intro c hc
          rcases Ipv4.mem_text hc with hpoint | hdigit
          · rw [hpoint]
            decide
          · exact Domain.isWritten_of_isNumeral (Bool.or_eq_true_iff.2 (.inr hdigit))
        · have hne : ¬(Ipv4.text n).isEmpty = true := fun he =>
            Ipv4.text_ne_nil n (List.isEmpty_iff.1 he)
          rw [ofDomain, if_neg hne, hread]
          exact ite_self _
      · cases h
    · obtain rfl := Except.ok.inj h
      exact ⟨hname, hagain⟩

/-- A host under a special scheme is an address in brackets or comes from a written name. -/
theorem special_cases {cs host : List Char} (h : special cs = .ok host) :
    (∃ gs, Ipv6.IsAddress gs ∧ host = '[' :: Ipv6.text gs ++ [']']) ∨
      ((∀ c ∈ host, Domain.isWritten c = true) ∧ ofDomain host = .ok host) := by
  unfold special at h
  split at h
  · exact .inl (eq_of_bracketed h)
  · split at h
    · cases h
    · rename_i name hname
      exact .inr (ofDomain_eq_self (fun c hc => Domain.isWritten_of_toAscii? hname hc) h)

/-- A host under a special scheme is written. -/
theorem written_of_special {cs host : List Char} (h : special cs = .ok host) : Written host := by
  rcases special_cases h with ⟨gs, hgs, hhost⟩ | ⟨hname, -⟩
  · rw [hhost]
    exact .bracketed hgs
  · exact .plain fun c hc => plain_of_isWritten (hname c hc)

/-- What an escape is made of is no mark and is not escaped. -/
theorem plain_of_isEncoded {c : Char} (h : Form.isEncoded c = true) :
    isForbidden c = false ∧ Percent.isControl c = false := by
  exact Form.forall_isEncoded (P := fun c =>
    isForbidden c = false ∧ Percent.isControl c = false) (by decide) h

/-- A host under an ordinary scheme is written. -/
theorem written_of_ordinary {cs host : List Char} (h : ordinary cs = .ok host) :
    Written host := by
  unfold ordinary at h
  split at h
  · obtain ⟨gs, hgs, hhost⟩ := eq_of_bracketed h
    rw [hhost]
    exact .bracketed hgs
  · split at h
    · cases h
    · rename_i hfree
      rw [← Except.ok.inj h]
      refine .plain fun c hc => ?_
      rcases mem_encode hc with ⟨hm, hcontrol⟩ | hencoded
      · exact ⟨eq_false_of_ne_true fun hc => hfree (List.any_eq_true.2 ⟨c, hm, hc⟩), hcontrol⟩
      · exact plain_of_isEncoded hencoded

/-- A host under an ordinary scheme is read as itself. -/
theorem ordinary_of_ordinary {cs host : List Char} (h : ordinary cs = .ok host) :
    ordinary host = .ok host := by
  cases written_of_ordinary h with
  | bracketed hgs => exact bracketed_text hgs
  | plain hplain =>
    unfold ordinary
    split
    · exact absurd (hplain '[' List.mem_cons_self).1 (by decide)
    · have hfree : ¬host.any isForbidden = true := by
        intro hany
        obtain ⟨c, hc, hforbidden⟩ := List.any_eq_true.1 hany
        rw [(hplain c hc).1] at hforbidden
        cases hforbidden
      rw [if_neg hfree, Percent.encode_eq_self fun c hc => (hplain c hc).2]

/-- There is a host under a special scheme. -/
theorem special_ne_nil {cs host : List Char} (h : special cs = .ok host) : host ≠ [] := by
  intro hnil
  rcases special_cases h with ⟨gs, -, hhost⟩ | ⟨-, hdomain⟩
  · rw [hnil] at hhost
    cases hhost
  · rw [hnil] at hdomain
    cases hdomain

/-- The marks that end a host or a part of a link before it, and the space. -/
def marks : List Char :=
  [' ', '#', '/', '?', '@', '\\']

/-- No mark stands in a written host, nor anything that is escaped. -/
theorem Written.plain_of_mem {host : List Char} (h : Written host) {c : Char} (hc : c ∈ host) :
    Percent.isControl c = false ∧ c ∉ marks := by
  cases h with
  | bracketed hgs =>
    have hdigits : ∀ d ∈ marks, Hex.digit? d = none := forall_mem_of_all (by decide)
    rcases List.mem_cons.1 hc with hopen | hc
    · rw [hopen]
      decide
    · rcases List.mem_append.1 hc with hc | hclose
      · rcases Ipv6.mem_text hc with hcolon | hdigit
        · rw [hcolon]
          decide
        · refine ⟨Percent.isControl_of_digit? hdigit, fun hmark => ?_⟩
          rw [hdigits c hmark] at hdigit
          cases hdigit
      · rw [List.mem_singleton.1 hclose]
        decide
  | plain hplain =>
    have hforbidden : ∀ d ∈ marks, isForbidden d = true := forall_mem_of_all (by decide)
    obtain ⟨hfree, hcontrol⟩ := hplain c hc
    refine ⟨hcontrol, fun hmark => ?_⟩
    rw [hforbidden c hmark] at hfree
    cases hfree

/-- A host under a special scheme is read as itself, if it is read at all. -/
theorem special_eq_self {cs host host' : List Char} (h : special cs = .ok host)
    (h' : special host = .ok host') : host' = host := by
  rcases special_cases h with ⟨gs, hgs, hhost⟩ | ⟨hname, hdomain⟩
  · have hread : special host = .ok host := by
      rw [hhost]
      exact bracketed_text hgs
    exact Except.ok.inj (h'.symm.trans hread)
  · have hpercent : '%' ∉ host := fun hm => absurd (hname _ hm) (by decide)
    unfold special at h'
    split at h'
    · rename_i inner
      exact absurd (hname '[' List.mem_cons_self) (by decide)
    · rw [Percent.decode_eq_encode hpercent, Utf8.decodeLenient_encode] at h'
      split at h'
      · cases h'
      · rename_i name' hname'
        rw [Domain.toAscii?_eq_self hname hname', hdomain] at h'
        exact (Except.ok.inj h').symm

end PayLink.Url.Host
