import PayLink.Proofs.Link.Transaction
/-!
# Reading a link and writing it again

However the link of a transfer is spelled, reading it and writing what it asks for gives the one link
that a reader and a writer then agree on: it is read as the same transfer and written as itself. The
reader must therefore accept nothing that the writer cannot write: no amount whose text is too long,
no empty text, and no payment scheme that is not one of its own.
-/

namespace PayLink.Link

/-- Only a payment scheme of its own has links that are read as transfers. -/
theorem hasOwnScheme_of_decode {config : PayConfig} {s : String} {r : TransferRequest}
    (h : decode s config = .ok (.transfer r)) : config.HasOwnScheme := by
  obtain ⟨u, hparse⟩ := parse_of_decode h
  have hpayment := (ofPairs_of_decode hparse h).1
  exact PayConfig.hasOwnScheme_of_parse hparse hpayment fun hpath =>
    decode_ne_transfer hparse hpath r h

namespace Transfer

/-- A first text that is found is not empty. -/
theorem presentText_firstText (key : List Char) (ps : List Url.Form.Pair) :
    presentText (Transaction.firstText key ps) = Transaction.firstText key ps := by
  rw [Transaction.firstText]
  cases hfind : ps.find? fun p => p.1 = key && !p.2.isEmpty with
  | none => rfl
  | some p =>
    have hp := List.find?_some hfind
    have hvalue : p.2 ≠ [] := by
      intro he
      simp [he] at hp
    simp [presentText, hvalue]

/-- What is read from a path and parameters has an amount that can be written and read again, and no
empty text. -/
theorem canonical_of_ofPairs {config : PayConfig} {path : String} {ps : List Url.Form.Pair}
    {r : TransferRequest} (h : ofPairs config path ps = .ok r) :
    r.AmountFits config ∧ r.withoutEmptyTexts = r := by
  obtain ⟨-, hamount, -, -, hlabel, hmessage, hmemo⟩ := ofPairs_eq_ok_iff.1 h
  constructor
  · intro a ha
    cases hfirst : Transaction.firstText amountKey ps with
    | none =>
      rw [hfirst, ha] at hamount
      cases hamount
    | some s =>
      rw [hfirst, readAmount] at hamount
      obtain ⟨b, hb, hsome⟩ := map_eq_ok_iff.1 hamount
      obtain rfl := Option.some.inj (hsome.trans ha)
      exact Amount.textFits_of_parse_eq_ok hb
  · rw [TransferRequest.withoutEmptyTexts, hlabel, hmessage, hmemo, presentText_firstText,
      presentText_firstText, presentText_firstText, ← hlabel, ← hmessage, ← hmemo]

/-- The amount of a transfer is read from its decimal text exactly if it fits, and then as it is. -/
theorem readAmount_decimalText_eq_ok_iff {config : PayConfig} {r : TransferRequest}
    {amount : Option Amount} :
    readAmount config r.token
        (r.amount.map fun a => a.decimalText (config.decimalsFor r.token)) = .ok amount ↔
      r.AmountFits config ∧ amount = r.amount := by
  cases hamount : r.amount with
  | none =>
    have hfits : r.AmountFits config := by
      intro a ha
      rw [hamount] at ha
      cases ha
    rw [Option.map_none, readAmount, Except.ok.injEq, and_iff_right hfits, eq_comm]
  | some a =>
    rw [Option.map_some, readAmount]
    constructor
    · intro h
      obtain ⟨b, hb, rfl⟩ := map_eq_ok_iff.1 h
      have hfits : a.TextFits (config.decimalsFor r.token) := Amount.textFits_of_parse hb
      rw [Amount.parse_decimalText hfits] at hb
      obtain rfl := Except.ok.inj hb
      refine ⟨fun c hc => ?_, rfl⟩
      rw [hamount] at hc
      obtain rfl := Option.some.inj hc
      exact hfits
    · rintro ⟨hfits, rfl⟩
      rw [Amount.parse_decimalText (hfits a hamount)]
      rfl

/-- The link of a transfer under a payment scheme of its own: it is under the scheme, its path is the
text of the recipient, and it is read as the transfer without its empty texts, if the amount fits. -/
theorem exists_encode {config : PayConfig} (hconfig : config.HasOwnScheme) (r : TransferRequest) :
    ∃ u, encode r config = .ok u ∧ isPayment config u = true ∧
      u.path.text = r.recipient.text.toList ∧
      ∀ r', decode u.text config = .ok (.transfer r') ↔
        r.AmountFits config ∧ r' = r.withoutEmptyTexts := by
  obtain ⟨base, hbase, hscheme, hrootless, hpairs⟩ := parse_base hconfig r
  obtain ⟨hsame, -⟩ := Url.appendPairs_eq base (pairs config r)
  have happend := hrootless.appendPairs (pairs config r)
  refine ⟨base.appendPairs (pairs config r), ?_, decide_eq_true (hsame.trans hscheme), ?_, ?_⟩
  · rw [encode, parse_eq_ok_iff.2 hbase]
    rfl
  · rw [happend.path_eq]
    rfl
  · intro r'
    rw [decode_of_recipient hconfig happend (hsame.trans hscheme), Url.pairs_appendPairs, hpairs,
      List.nil_append, ofPairs_eq r.recipient (extends_pairs config r), map_eq_ok_iff]
    simp only [map_eq_ok_iff, readAmount_decimalText_eq_ok_iff, PaymentRequest.transfer.injEq]
    constructor
    · rintro ⟨_, ⟨_, ⟨hfits, rfl⟩, rfl⟩, rfl⟩
      exact ⟨hfits, rfl⟩
    · rintro ⟨hfits, rfl⟩
      exact ⟨_, ⟨_, ⟨hfits, rfl⟩, rfl⟩, rfl⟩

end Transfer

/-- A link that is read as a transfer is put into its written form in one step. -/
theorem encode_of_decode_transfer {config : PayConfig} {s : String} {r : TransferRequest}
    (h : decode s config = .ok (.transfer r)) :
    ∃ w, encode (.transfer r) config = .ok w ∧ decode w.text config = .ok (.transfer r) ∧
      (decode w.text config >>= fun request => encode request config) = .ok w := by
  obtain ⟨u, hparse⟩ := parse_of_decode h
  obtain ⟨-, path, -, -, hpairs⟩ := ofPairs_of_decode hparse h
  obtain ⟨hfits, hpresent⟩ := Transfer.canonical_of_ofPairs hpairs
  obtain ⟨w, hw, -, -, hread⟩ := Transfer.exists_encode (hasOwnScheme_of_decode h) r
  have hagain : decode w.text config = .ok (.transfer r) :=
    (hread r).2 ⟨hfits, hpresent.symm⟩
  refine ⟨w, hw, hagain, ?_⟩
  rw [hagain]
  exact hw

/-- A link of a transfer to the account of 32 zero bytes that is not in its written form: its scheme
has capitals, its first digit is escaped, zeros stand around its amount, and it has a second amount,
an empty memo, an unknown parameter and a fragment. -/
def spelledLink : String :=
  "TREZOA:%31" ++ "1111111111111111111111111111111"
    ++ "?memo=&x=1&amount=01.50&label=Tea%20room&amount=2#top"

/-- The transfer that the link asks for. -/
def spelledRequest : TransferRequest :=
  { recipient := Networks.systemProgram
    amount := Amount.ofNat? 1500000000
    label := some "Tea room" }

/-- The link is read as a transfer, and that transfer is written as a link that is read as it. -/
theorem encode_of_decode_transfer_of_spelling :
    decode spelledLink {} = .ok (.transfer spelledRequest) ∧
      ∃ w, encode (.transfer spelledRequest) {} = .ok w ∧
        decode w.text {} = .ok (.transfer spelledRequest) := by
  have hread : decode spelledLink {} = .ok (.transfer spelledRequest) := by decide +kernel
  obtain ⟨w, hw, hagain, -⟩ := encode_of_decode_transfer hread
  exact ⟨hread, w, hw, hagain⟩

end PayLink.Link
