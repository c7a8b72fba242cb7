import PayLink.Proofs.Link.Stability
/-!
# Web links without their annotations

A web link is read as the transaction at the same endpoint. Only its annotations are taken out of
the link: host, path, fragment and all other parameters stay as they are. What is left has no
annotations, and is read as a transaction that keeps it as it is.
-/

namespace PayLink.Link.Transaction

open Url (Form.Pair)

/-- A link has the parts of another one, and of its parameters those that are no annotations. -/
structure IsBare (given bare : Url) : Prop where
  /-- The scheme is the same. -/
  scheme : bare.scheme = given.scheme
  /-- User, host and port are the same. -/
  authority : bare.authority = given.authority
  /-- The path is the same. -/
  path : bare.path = given.path
  /-- The fragment is the same. -/
  fragment : bare.fragment = given.fragment
  /-- The other parameters are the same, in the same order. -/
  pairs : bare.pairs =
    given.pairs.filter fun p => p.1 ≠ "label".toList ∧ p.1 ≠ "message".toList
  /-- There is no query if there are none. -/
  query : bare.query = none ↔ bare.pairs = []

/-- The other parameters are those that are neither a label nor a message. -/
theorem others_eq_filter (ps : List Form.Pair) :
    others ps = ps.filter fun p => p.1 ≠ "label".toList ∧ p.1 ≠ "message".toList := by
  refine List.filter_congr fun p _ => ?_
  rw [Bool.eq_iff_iff, Bool.not_eq_true', annotates_eq_false_iff, decide_eq_true_iff]
  rfl

/-- There is no query exactly if there are no parameters. -/
theorem queryOf_eq_none_iff {ps : List Form.Pair} : queryOf ps = none ↔ ps = [] := by
  rw [queryOf, ← List.isEmpty_iff]
  split
  · rename_i hempty
    exact iff_of_true rfl hempty
  · rename_i hsome
    exact iff_of_false (Option.some_ne_none _) hsome

/-- A link whose query is made of its other parameters is without its annotations. -/
theorem isBare_withPairs (u : Url) : IsBare u (u.withPairs (others u.pairs)) := by
  have hpairs : (u.withPairs (others u.pairs)).pairs = others u.pairs := pairs_of_query rfl
  exact
    { scheme := rfl
      authority := rfl
      path := rfl
      fragment := rfl
      pairs := hpairs.trans (others_eq_filter _)
      query := by
        rw [hpairs]
        exact queryOf_eq_none_iff }

section Web

variable {u : Url} {text : String} (hparse : Url.parse text = .ok u) (hweb : isWeb u = true)

include hparse hweb

/-- A web link is read as itself without its annotations exactly if it is with them. Nothing else
is read of its text. -/
theorem parse_bare_text_eq_ok_iff {v : Url} :
    Url.parse (u.withPairs (others u.pairs)).text = .ok v ↔
      Url.parse u.text = .ok u ∧ v = u.withPairs (others u.pairs) := by
  have hfile := ne_file_of_isWeb hweb
  have hkeeps : Url.parse u.text = .ok u ↔ u.KeepsHost := by
    rw [(Url.written_of_parse hparse).parse_text_eq_ok_iff hfile]
    exact and_iff_left rfl
  rw [(written_without_annotations hparse hweb).parse_text_eq_ok_iff hfile, hkeeps]
  rfl

/-- What is left of a web link is read as a transaction that keeps it exactly if the link is read
as itself. -/
theorem decode_bare_text_iff {config : PayConfig} :
    decode (ofWeb u).link config = .ok (.transaction { link := (ofWeb u).link }) ↔
      Url.parse u.text = .ok u := by
  have hlink : (ofWeb u).link = (u.withPairs (others u.pairs)).text := rfl
  rw [hlink]
  constructor
  · intro hread
    obtain ⟨v, hv, -⟩ := decode_eq_transaction_iff.1 hread
    exact ((parse_bare_text_eq_ok_iff hparse hweb).1 hv).1
  · intro hself
    have hbare := (parse_bare_text_eq_ok_iff hparse hweb).2 ⟨hself, rfl⟩
    have hothers : ∀ p ∈ others u.pairs, annotates p = false := fun p => annotates_of_mem_others
    exact (decode_text_of_isWeb hbare hweb rfl hothers).2 rfl

end Web

/-- A web link is always read as a transaction, whose link is the given one without its annotations
and whose annotations are the first that are not empty. If a link is read back from its text, so is
that of the transaction, which is then read as a transaction with nothing but that link. -/
theorem decode_web_keeps_endpoint {config : PayConfig} {s : String} {u : Url}
    (hparse : Url.parse s = .ok u) (hweb : isWeb u = true) :
    ∃ t v, decode s config = .ok (.transaction t) ∧ t.link = v.text ∧ IsBare u v ∧
      t.label = (texts "label".toList u.pairs).head? ∧
      t.message = (texts "message".toList u.pairs).head? ∧
      (∀ w, Url.parse t.link = .ok w → w = v) ∧
      (Url.parse t.link = .ok v ↔ Url.parse u.text = .ok u) ∧
      (decode t.link config = .ok (.transaction { link := t.link }) ↔
        Url.parse u.text = .ok u) := by
  refine ⟨ofWeb u, u.withPairs (others u.pairs), ?_, rfl, isBare_withPairs u,
    firstText_eq_head? _ _, firstText_eq_head? _ _, ?_, ?_, decode_bare_text_iff hparse hweb⟩
  · exact decode_eq_transaction_iff.2 ⟨u, hparse, .web hweb⟩
  · intro w hw
    exact ((parse_bare_text_eq_ok_iff hparse hweb).1 hw).2
  · exact (parse_bare_text_eq_ok_iff hparse hweb).trans (and_iff_left rfl)

/-- The link of an endpoint with a user, a port, a fragment and two labels, the first one empty. -/
def labelledEndpoint : Url where
  scheme := "https".toList
  authority := some ⟨"shop".toList, "example.com".toList, some 8443⟩
  path := .rooted ["pay".toList]
  query := some "label=&id=7&label=Tea+room&id=8".toList
  fragment := some "top".toList

/-- The transaction of that endpoint has the second label, and both identifiers in its link. -/
theorem decode_web_keeps_endpoint_of_two_labels :
    Url.parse labelledEndpoint.text = .ok labelledEndpoint ∧ isWeb labelledEndpoint = true ∧
      ∃ t v, decode labelledEndpoint.text {} = .ok (.transaction t) ∧ t.link = v.text ∧
        IsBare labelledEndpoint v ∧ t.label = some "Tea room" ∧ t.message = none ∧
        Url.parse t.link = .ok v ∧ decode t.link {} = .ok (.transaction { link := t.link }) := by
  have hread : Url.parse labelledEndpoint.text = .ok labelledEndpoint := by decide +kernel
  have hweb : isWeb labelledEndpoint = true := by decide
  have hlabel : (texts "label".toList labelledEndpoint.pairs).head? = some "Tea room" := by
    decide +kernel
  have hmessage : (texts "message".toList labelledEndpoint.pairs).head? = none := by
    decide +kernel
  obtain ⟨t, v, hdecode, hlink, hbare, hfirst, hsecond, -, hagain, hfixed⟩ :=
    @decode_web_keeps_endpoint {} _ _ hread hweb
  exact ⟨hread, hweb, t, v, hdecode, hlink, hbare, hfirst.trans hlabel, hsecond.trans hmessage,
    hagain.2 hread, hfixed.2 hread⟩

end PayLink.Link.Transaction
