import PayLink.Proofs.Amount
import PayLink.Proofs.Link.Parameters
import PayLink.Proofs.Link.Scheme
/-!
# Reading back the link of a transfer

Under a payment scheme of its own every transfer has a link, and reading that link gives the
transfer back without its empty texts. Only an amount whose decimal text is too long to be read is
not read back, and then the link is refused for its amount.
-/

namespace PayLink

namespace TransferRequest

/-- The transfer without its empty texts. -/
def withoutEmptyTexts (r : TransferRequest) : TransferRequest :=
  { r with
    label := presentText r.label
    message := presentText r.message
    memo := presentText r.memo }

/-- The amount of the transfer, if it has one, can be read from its decimal text. -/
def AmountFits (r : TransferRequest) (config : PayConfig) : Prop :=
  ∀ a ∈ r.amount, a.TextFits (config.decimalsFor r.token)

instance (r : TransferRequest) (config : PayConfig) : Decidable (r.AmountFits config) :=
  inferInstanceAs (Decidable (∀ a ∈ r.amount, _))

end TransferRequest

namespace Link.Transfer

open Url (Form.Pair)
open Transaction (firstText)

/-- The amount is a parameter if there is one. -/
theorem amountPair_eq (config : PayConfig) (r : TransferRequest) :
    amountPair config r = r.amount.toList.map fun a =>
      (amountKey, (a.decimalText (config.decimalsFor r.token)).toList) := by
  rw [amountPair]
  cases r.amount with
  | none => rfl
  | some a => rfl

/-- The token is a parameter if there is one. -/
theorem tokenPair_eq (r : TransferRequest) :
    tokenPair r = r.token.toList.map fun t => (tokenKey, t.text.toList) := by
  rw [tokenPair]
  cases r.token with
  | none => rfl
  | some t => rfl

/-- The parameter of a text is there if the text is present. -/
theorem textPair_eq (key : List Char) (s : Option String) :
    textPair key s = (presentText s).toList.map fun t => (key, t.toList) := by
  rw [textPair]
  cases presentText s with
  | none => rfl
  | some t => rfl

/-- A text that is present is not empty. -/
theorem toList_ne_nil_of_presentText {s : Option String} {t : String} (h : presentText s = some t) :
    t.toList ≠ [] := by
  obtain ⟨-, ht⟩ := Option.filter_eq_some_iff.1 h
  intro he
  rw [String.toList_eq_nil_iff.1 he] at ht
  cases ht

/-- The values of a parameter among those of one text. -/
theorem texts_textPair (key other : List Char) (s : Option String) :
    texts key (textPair other s) = if other = key then (presentText s).toList else [] := by
  rw [textPair_eq, texts_map]
  · simp only [String.ofList_toList, List.map_id']
  · intro t ht
    exact toList_ne_nil_of_presentText (Option.mem_toList.1 ht)

/-- The values of a parameter among those of a transfer. -/
theorem texts_pairs (config : PayConfig) (r : TransferRequest) (key : List Char) :
    texts key (pairs config r) =
      (if amountKey = key then
        r.amount.toList.map fun a => a.decimalText (config.decimalsFor r.token) else []) ++
      (if tokenKey = key then r.token.toList.map Address.text else []) ++
      (if referenceKey = key then r.references.map Address.text else []) ++
      (if labelKey = key then (presentText r.label).toList else []) ++
      (if messageKey = key then (presentText r.message).toList else []) ++
      (if memoKey = key then (presentText r.memo).toList else []) := by
  simp only [pairs, texts_append, amountPair_eq, tokenPair_eq, texts_textPair]
  rw [texts_map, texts_map, texts_map]
  · simp only [String.ofList_toList]
  · intro a _
    exact a.text_toList_ne_nil
  · intro t _
    exact t.text_toList_ne_nil
  · intro a _
    exact a.decimalText_toList_ne_nil _

/-- What the parameters of a transfer count as. -/
theorem extends_pairs (config : PayConfig) (r : TransferRequest) :
    Found.Extends {} (pairs config r)
      { amount := r.amount.map fun a => a.decimalText (config.decimalsFor r.token)
        token := r.token
        references := r.references
        label := presentText r.label
        message := presentText r.message
        memo := presentText r.memo } := by
  constructor
  all_goals simp +decide [firstText_eq_head?, texts_pairs]

/-- The text of an account is no control. -/
theorem isControl_of_mem_text {a : Address} {c : Char} (h : c ∈ a.text.toList) :
    Url.Percent.isControl c = false := by
  have hletter := Address.isAlphanum_of_mem_text h
  exact Text.forall_ascii (P := fun c => c.isAlphanum = true → Url.Percent.isControl c = false)
    (by decide) (Text.isAlphanum_lt hletter) hletter

/-- Nothing is cut off from the text of an account. -/
theorem tail_of_text (a : Address) : Url.Tail.of a.text.toList = ⟨a.text.toList, none, none⟩ := by
  have hquestion : '?' ∉ a.text.toList := Address.not_mem_text rfl
  have hsign : '#' ∉ a.text.toList := Address.not_mem_text rfl
  have h : Url.Tail.of (a.text.toList ++ Url.marked '?' none ++ Url.marked '#' none) =
      ⟨a.text.toList, none, none⟩ :=
    Url.tail_of_marked hquestion hsign (fun q hq => by cases hq) none
  rwa [Url.marked, Url.marked, List.append_nil, List.append_nil] at h

/-- Nothing is dropped from the text of an account. -/
theorem cleanedEnd_text (a : Address) : Url.cleanedEnd a.text.toList = a.text.toList := by
  refine Url.cleanedEnd_eq_self (fun c hc => ?_) (fun c hc => ?_)
  · exact Url.isBreak_of_isControl (isControl_of_mem_text hc)
  · have hmem := List.mem_of_getLast? hc
    refine Url.isEdge_of_isControl (isControl_of_mem_text hmem) ?_
    rintro rfl
    exact Address.not_mem_text rfl hmem

/-- The link of a transfer without its parameters, in its parts. -/
def plainLink (config : PayConfig) (r : TransferRequest) : Url :=
  ⟨config.linkScheme, none, .rootless r.recipient.text.toList, none, none⟩

/-- Without parameters, the link of a transfer is read as its scheme and the text of the recipient,
which need no escapes. -/
theorem parse_base_eq {config : PayConfig} (hconfig : config.HasOwnScheme) (r : TransferRequest) :
    Url.parse (base config r) = .ok (plainLink config r) ∧
      (plainLink config r).Rootless r.recipient.text.toList := by
  have hplain : Url.Percent.encode Url.Percent.isControl r.recipient.text.toList =
      r.recipient.text.toList :=
    Url.Percent.encode_eq_self fun c hc => isControl_of_mem_text hc
  have hslash : (Url.Tail.of r.recipient.text.toList).front.head? ≠ some '/' := by
    rw [tail_of_text]
    intro hhead
    exact Address.not_mem_text rfl (List.mem_of_head? hhead)
  have hs := hconfig.splitScheme?_cleaned r.recipient.text
  rw [cleanedEnd_text] at hs
  have hu : Url.parse (base config r) = .ok (plainLink config r) := by
    rw [Url.parse, base, Url.ofCleaned_eq_ok_iff hs,
      Url.readFront_rootless hconfig.ordinary hslash, tail_of_text, hplain]
    exact ⟨rfl, rfl, rfl, rfl⟩
  have hrootless := Url.rootless_of_parse (u := plainLink config r) hs hconfig.ordinary hslash hu
  rw [tail_of_text, hplain] at hrootless
  exact ⟨hu, hrootless⟩

/-- Without parameters, the link of a transfer has the text of the recipient for its path. -/
theorem parse_base {config : PayConfig} (hconfig : config.HasOwnScheme) (r : TransferRequest) :
    ∃ u, Url.parse (base config r) = .ok u ∧ u.scheme = config.linkScheme ∧
      u.Rootless r.recipient.text.toList ∧ u.pairs = [] := by
  obtain ⟨hparse, hrootless⟩ := parse_base_eq hconfig r
  exact ⟨plainLink config r, hparse, rfl, hrootless, rfl⟩

/-- There are no escapes in a path that is the text of an account. -/
theorem decode_path_of_recipient {u : Url} {a : Address} (hu : u.Rootless a.text.toList) :
    Url.Percent.decode u.path.text = Text.Utf8.encode a.text.toList := by
  rw [hu.path_eq, LinkPath.text]
  exact Url.Percent.decode_eq_encode (Address.not_mem_text rfl)

/-- A link under the payment scheme whose path is the text of an account is a transfer to it. -/
theorem decode_of_recipient {config : PayConfig} (hconfig : config.HasOwnScheme) {u : Url}
    {a : Address} (hu : u.Rootless a.text.toList) (hscheme : u.scheme = config.linkScheme) :
    decode u.text config = (ofPairs config a.text u.pairs).map .transfer := by
  have hpath : plainPath u.text u = .ok a.text.toList :=
    plainPath_eq (decode_path_of_recipient hu)
  have hlink : looksLikeLink a.text.toList = false :=
    looksLikeLink_of_isAlphanum fun c hc => Address.isAlphanum_of_mem_text hc
  rw [decode_of_isPayment hconfig hu.parse_text (decide_eq_true hscheme), hpath]
  change ofPayment config u a.text.toList = _
  rw [ofPayment, hlink, String.ofList_toList]
  rfl

end Link.Transfer

namespace Link

open Link.Transfer

/-- Every transfer has a link under a payment scheme of its own. The link is read back as the
transfer without its empty texts if the amount can be read, and is otherwise refused for it. -/
theorem decode_encode_transfer {config : PayConfig} (hconfig : config.HasOwnScheme)
    (r : TransferRequest) :
    ∃ u, encode (.transfer r) config = .ok u ∧
      (r.AmountFits config → decode u.text config = .ok (.transfer r.withoutEmptyTexts)) ∧
      (¬r.AmountFits config → ∃ reason, decode u.text config = .error (.invalidAmount reason)) := by
  obtain ⟨base, hbase, hscheme, hrootless, hpairs⟩ := parse_base hconfig r
  refine ⟨base.appendPairs (pairs config r), ?_, ?_⟩
  · rw [encode, Transfer.encode, parse_eq_ok_iff.2 hbase]
    rfl
  have happend : (base.appendPairs (pairs config r)).scheme = config.linkScheme :=
    (Url.appendPairs_eq base (pairs config r)).1.trans hscheme
  rw [decode_of_recipient hconfig (hrootless.appendPairs _) happend, Url.pairs_appendPairs,
    hpairs, List.nil_append, ofPairs_eq r.recipient (extends_pairs config r)]
  cases hamount : r.amount with
  | none =>
    constructor
    · intro _
      rw [Option.map_none, readAmount, TransferRequest.withoutEmptyTexts, hamount]
      rfl
    · intro hfits
      exact absurd (fun a ha => by rw [hamount] at ha; cases ha) hfits
  | some a =>
    rw [Option.map_some, readAmount]
    constructor
    · intro hfits
      rw [Amount.parse_decimalText (hfits a hamount), TransferRequest.withoutEmptyTexts, hamount]
      rfl
    · intro hfits
      have hnone : ∀ b, Amount.parse (a.decimalText (config.decimalsFor r.token))
          (config.decimalsFor r.token) ≠ .ok b := by
        intro b hb
        refine hfits fun a' ha' => ?_
        rw [hamount] at ha'
        cases ha'
        exact Amount.textFits_of_parse hb
      obtain ⟨reason, hreason⟩ := Amount.parse_eq_error hnone
      exact ⟨reason, by rw [hreason]; rfl⟩

/-- The link of a transfer of one and a half native units with an empty memo. -/
theorem decode_encode_transfer_of_native_amount :
    ∃ u, encode (.transfer
        { recipient := Networks.memoProgram
          amount := Amount.ofNat? 1500000000
          message := some "Tea & cake"
          memo := some "" }) {} = .ok u ∧
      decode u.text {} = .ok (.transfer
        { recipient := Networks.memoProgram
          amount := Amount.ofNat? 1500000000
          message := some "Tea & cake" }) := by
  have hconfig : ({} : PayConfig).HasOwnScheme := by decide
  obtain ⟨u, hu, hread, -⟩ := decode_encode_transfer hconfig
    { recipient := Networks.memoProgram
      amount := Amount.ofNat? 1500000000
      message := some "Tea & cake"
      memo := some "" }
  exact ⟨u, hu, hread (by decide)⟩

end Link

end PayLink
