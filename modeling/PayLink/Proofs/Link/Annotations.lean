import PayLink.Proofs.Link.Transaction
import PayLink.Proofs.Url.Written
/-!
# Annotations

The annotations of a transaction are appended to the parameters that its endpoint has already, and
reading takes the first label and the first message that are not empty. What the endpoint says of
itself therefore comes first, and the annotations of the transaction count where it says nothing.
Whether the link is read at all, and which endpoint it names then, does not depend on them.
-/

namespace PayLink.Link.Transaction

open Url (Form.Pair)

/-- A link that is read asks for a transaction. -/
inductive Asks (config : PayConfig) (u : Url) : TransactionRequest → Prop
  /-- A web link does. -/
  | web (isWeb : isWeb u = true) : Asks config u (ofWeb u)
  /-- A link under the payment scheme does if its path without escapes looks like a link. -/
  | placed {path : List Char} (noWeb : isWeb u = false) (isPayment : isPayment config u = true)
      (decoded : Text.Utf8.decode (Url.Percent.decode u.path.text) = .ok path)
      (looksLikeLink : looksLikeLink path = true) : Asks config u (ofPath u path)

/-- What is read as a transaction is a link that asks for it. -/
theorem decode_eq_transaction_iff {config : PayConfig} {s : String} {t : TransactionRequest} :
    decode s config = .ok (.transaction t) ↔ ∃ u, Url.parse s = .ok u ∧ Asks config u t := by
  constructor
  · intro h
    obtain ⟨u, hparse, h⟩ := bind_eq_ok_iff.1 h
    refine ⟨u, parse_eq_ok_iff.1 hparse, ?_⟩
    split at h
    · rename_i hweb
      cases h
      exact .web hweb
    · rename_i hweb
      split at h
      · rename_i hpayment
        obtain ⟨path, hpath, h⟩ := bind_eq_ok_iff.1 h
        split at h
        · rename_i hlink
          cases h
          exact .placed (eq_false_of_ne_true hweb) hpayment (mapError_eq_ok_iff.1 hpath) hlink
        · obtain ⟨r, -, h⟩ := map_eq_ok_iff.1 h
          cases h
      · cases h
  · rintro ⟨u, hparse, hasks⟩
    rw [decode, parse_eq_ok_iff.2 hparse]
    change (if isWeb u = true then _ else if isPayment config u = true then _ else _) = _
    cases hasks with
    | web hweb =>
      rw [if_pos hweb]
      rfl
    | placed hweb hpayment hpath hlink =>
      rw [if_neg (by rw [hweb]; decide), if_pos hpayment, plainPath, hpath]
      exact if_pos hlink

/-- The annotations of a link are its first label and its first message. -/
theorem annotations_of_asks {config : PayConfig} {u : Url} {t : TransactionRequest}
    (h : Asks config u t) :
    t.label = firstText labelKey u.pairs ∧ t.message = firstText messageKey u.pairs := by
  cases h with
  | web => exact ⟨rfl, rfl⟩
  | placed => exact ⟨rfl, rfl⟩

/-- The parameters of annotations are annotations. -/
theorem others_pairs (r : TransactionRequest) : others (pairs r) = [] := by
  refine List.filter_eq_nil_iff.2 fun p hp => ?_
  have hkey : p.1 = labelKey ∨ p.1 = messageKey := by
    rw [pairs, Transfer.textPair_eq, Transfer.textPair_eq] at hp
    rcases List.mem_append.1 hp with hp | hp
    · obtain ⟨t, -, rfl⟩ := List.mem_map.1 hp
      exact .inl rfl
    · obtain ⟨t, -, rfl⟩ := List.mem_map.1 hp
      exact .inr rfl
  rcases hkey with hkey | hkey
  · simp [annotates, hkey]
  · simp [annotates, hkey]

/-- The annotations of a transaction are found among its parameters. -/
theorem firstText_pairs (r : TransactionRequest) :
    firstText labelKey (pairs r) = presentText r.label ∧
      firstText messageKey (pairs r) = presentText r.message := by
  have hkeys : labelKey ≠ messageKey := by decide
  have htexts : ∀ key, texts key (pairs r) =
      (if labelKey = key then (presentText r.label).toList else []) ++
        (if messageKey = key then (presentText r.message).toList else []) := by
    intro key
    rw [pairs, texts_append, Transfer.texts_textPair, Transfer.texts_textPair]
  constructor
  · rw [firstText_eq_head?, htexts, if_pos rfl, if_neg hkeys.symm, List.append_nil,
      Option.head?_toList]
  · rw [firstText_eq_head?, htexts, if_neg hkeys, if_pos rfl, List.nil_append,
      Option.head?_toList]

/-- A request with the annotations of another one where it has none itself. -/
def filledFrom (b r : TransactionRequest) : TransactionRequest :=
  { b with
    label := b.label.or (presentText r.label)
    message := b.message.or (presentText r.message) }

/-- With parameters appended, the other parameters and the first texts are those of both. -/
theorem annotated_append (link : String) (ps : List Form.Pair) (r : TransactionRequest) :
    annotated link (ps ++ pairs r) = filledFrom (annotated link ps) r := by
  obtain ⟨hlabel, hmessage⟩ := firstText_pairs r
  simp only [annotated, filledFrom, firstText_append, hlabel, hmessage]

/-- The other parameters are those that were there before the annotations. -/
theorem others_pairs_appendPairs (u : Url) (r : TransactionRequest) :
    others (u.appendPairs (pairs r)).pairs = others u.pairs := by
  rw [Url.pairs_appendPairs, others, List.filter_append]
  change _ ++ others (pairs r) = _
  rw [others_pairs, List.append_nil]
  rfl

/-- Replacing the query forgets what was appended to it. -/
theorem withPairs_appendPairs (u : Url) (ps qs : List Form.Pair) :
    (u.appendPairs ps).withPairs qs = u.withPairs qs := by
  rw [Url.appendPairs]
  split
  · rfl
  · rfl

/-- A link to which annotations are appended asks for what it asked for before, with the annotations
where it had none. -/
theorem asks_appendPairs {config : PayConfig} {u : Url} {r t : TransactionRequest} :
    Asks config (u.appendPairs (pairs r)) t ↔ ∃ b, Asks config u b ∧ t = filledFrom b r := by
  obtain ⟨hscheme, hpath⟩ := Url.appendPairs_eq u (pairs r)
  have hweb : isWeb (u.appendPairs (pairs r)) = isWeb u := by
    rw [isWeb, isWeb, hscheme]
  have hpayment : isPayment config (u.appendPairs (pairs r)) = isPayment config u := by
    rw [isPayment, isPayment, hscheme]
  have hofWeb : ofWeb (u.appendPairs (pairs r)) = filledFrom (ofWeb u) r := by
    rw [ofWeb, others_pairs_appendPairs, withPairs_appendPairs, Url.pairs_appendPairs,
      annotated_append]
    rfl
  have hofPath : ∀ path, ofPath (u.appendPairs (pairs r)) path = filledFrom (ofPath u path) r := by
    intro path
    rw [ofPath, others_pairs_appendPairs, Url.pairs_appendPairs, annotated_append]
    rfl
  constructor
  · intro h
    cases h with
    | web h =>
      rw [hofWeb]
      exact ⟨_, .web (hweb ▸ h), rfl⟩
    | placed hno hpay hdecoded hlink =>
      rw [hofPath]
      exact ⟨_, .placed (hweb ▸ hno) (hpayment ▸ hpay) (hpath ▸ hdecoded) hlink, rfl⟩
  · rintro ⟨b, hb, rfl⟩
    cases hb with
    | web h =>
      rw [← hofWeb]
      exact .web (hweb.trans h)
    | placed hno hpay hdecoded hlink =>
      rw [← hofPath]
      exact .placed (hweb.trans hno) (hpayment.trans hpay) (by rwa [hpath]) hlink

/-- Annotations that are appended to a link do not change how the link is read. -/
theorem decode_appendPairs {config : PayConfig} {base : Url} (h : base.Written)
    {r t : TransactionRequest} :
    decode (base.appendPairs (pairs r)).text config = .ok (.transaction t) ↔
      ∃ b, decode base.text config = .ok (.transaction b) ∧ t = filledFrom b r := by
  rw [decode_eq_transaction_iff]
  constructor
  · rintro ⟨u, hparse, hasks⟩
    obtain ⟨v, hv, rfl⟩ := h.parse_text_appendPairs.1 hparse
    obtain ⟨b, hb, ht⟩ := asks_appendPairs.1 hasks
    exact ⟨b, decode_eq_transaction_iff.2 ⟨v, hv, hb⟩, ht⟩
  · rintro ⟨b, hread, ht⟩
    obtain ⟨v, hv, hb⟩ := decode_eq_transaction_iff.1 hread
    exact ⟨_, h.parse_text_appendPairs.2 ⟨v, hv, rfl⟩, asks_appendPairs.2 ⟨b, hb, ht⟩⟩

/-- An endpoint under an accepted scheme gives the link of a transaction. -/
theorem encode_of_endpoint {config : PayConfig} {t : TransactionRequest} {base : Url}
    (h : endpoint config (trimmed t.link) = .ok base)
    (hscheme : isPayment config base = true ∨ isWeb base = true) :
    Link.encode (.transaction t) config = .ok (base.appendPairs (pairs t)) := by
  change encode t config = _
  rw [encode, h]
  exact if_pos (Bool.or_eq_true_iff.2 hscheme)

/-- An endpoint is written. -/
theorem written_of_endpoint {config : PayConfig} {link : String} {base : Url}
    (h : endpoint config link = .ok base) : base.Written := by
  obtain ⟨s, hs⟩ := exists_parse_of_endpoint h
  exact Url.written_of_parse hs

/-- The link of a transaction that is read again has the first label and message that its endpoint
has itself, and those of the transaction if the endpoint has none. -/
theorem annotations_of_decode_encode {config : PayConfig} {t t' : TransactionRequest} {u : Url}
    (hwrite : Link.encode (.transaction t) config = .ok u)
    (hread : decode u.text config = .ok (.transaction t')) :
    ∃ base, endpoint config (trimmed t.link) = .ok base ∧ u = base.appendPairs (pairs t) ∧
      t'.label = (firstText labelKey base.pairs).or (presentText t.label) ∧
      t'.message = (firstText messageKey base.pairs).or (presentText t.message) := by
  obtain ⟨base, hbase, -, rfl⟩ := endpoint_of_encode hwrite
  have hwritten := written_of_endpoint hbase
  obtain ⟨b, hb, rfl⟩ := (decode_appendPairs hwritten).1 hread
  obtain ⟨v, hv, hasks⟩ := decode_eq_transaction_iff.1 hb
  obtain ⟨-, -, hquery, -⟩ := hwritten.legible.parse_text_eq_ok_iff.1 hv
  have hpairs : v.pairs = base.pairs := by
    rw [Url.pairs, hquery, ← Url.pairs]
  obtain ⟨hlabel, hmessage⟩ := annotations_of_asks hasks
  refine ⟨base, hbase, rfl, ?_, ?_⟩
  · rw [filledFrom, hlabel, hpairs]
  · rw [filledFrom, hmessage, hpairs]

/-- A label in the query of the endpoint takes the place of the label that is appended to it. -/
theorem label_of_labelled_endpoint :
    ∃ u, Link.encode (.transaction
        { link := "example.com/pay?label=Other", label := some "Shop" }) {} = .ok u ∧
      decode u.text {} =
        .ok (.transaction { link := "example.com/pay", label := some "Other" }) :=
  ⟨⟨"trezoa".toList, none, .rootless "example.com/pay".toList,
    some "label=Other&label=Shop".toList, none⟩, by decide +kernel, by decide +kernel⟩

/-- The label of the endpoint is read, and the message of the transaction. -/
theorem annotations_of_decode_encode_labelled :
    ∃ u base, Link.encode (.transaction
        { link := "example.com/pay?label=Other", label := some "Shop", message := some "Tea" }) {} =
          .ok u ∧
      endpoint {} (trimmed "example.com/pay?label=Other") = .ok base ∧
      u = base.appendPairs [(labelKey, "Shop".toList), (messageKey, "Tea".toList)] ∧
      some "Other" = (firstText labelKey base.pairs).or (some "Shop") ∧
      some "Tea" = (firstText messageKey base.pairs).or (some "Tea") := by
  have hwrite : Link.encode (.transaction
      { link := "example.com/pay?label=Other", label := some "Shop", message := some "Tea" }) {} =
        .ok ⟨"trezoa".toList, none, .rootless "example.com/pay".toList,
          some "label=Other&label=Shop&message=Tea".toList, none⟩ := by
    decide +kernel
  have hread : decode (Url.text ⟨"trezoa".toList, none, .rootless "example.com/pay".toList,
      some "label=Other&label=Shop&message=Tea".toList, none⟩) {} = .ok (.transaction
        { link := "example.com/pay", label := some "Other", message := some "Tea" }) := by
    decide +kernel
  obtain ⟨base, hbase, hu, hlabel, hmessage⟩ := annotations_of_decode_encode hwrite hread
  exact ⟨_, base, hwrite, hbase, hu, hlabel, hmessage⟩

end PayLink.Link.Transaction
