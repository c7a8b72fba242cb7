import PayLink.Proofs.Link.Transfer
/-!
# The text of a transfer's link

The link of a transfer is the payment scheme, the recipient, and a query of the parameters that are
set, in a fixed order. The query needs a few characters only, whatever the texts of the transfer
say, and none of those texts reaches beyond its own parameter.
-/

namespace PayLink

namespace TransferRequest

/-- The texts of a transfer that may say anything. -/
inductive FreeText
  /-- Who asks. -/
  | label
  /-- What for. -/
  | message
  /-- What the transaction records. -/
  | memo
  deriving DecidableEq

/-- The parameter that a text is written to. -/
def FreeText.key : FreeText → String
  | .label => "label"
  | .message => "message"
  | .memo => "memo"

/-- The transfer with another one of its texts. -/
def withText (r : TransferRequest) : FreeText → Option String → TransferRequest
  | .label, text => { r with label := text }
  | .message, text => { r with message := text }
  | .memo, text => { r with memo := text }

end TransferRequest

namespace Link

open Url (Form.Pair)
open TransferRequest (FreeText)

/-- The parameters for the amount and the accounts of a transfer, by name and in order. -/
def accountParameters (config : PayConfig) (r : TransferRequest) : List (String × String) :=
  (r.amount.toList.map fun a => ("amount", a.decimalText (config.decimalsFor r.token)))
    ++ (r.token.toList.map fun t => ("tpl-token", t.text))
    ++ (r.references.map fun a => ("reference", a.text))

/-- The parameter for a text; an empty text has none. -/
def textParameter (name : String) (text : Option String) : List (String × String) :=
  (presentText text).toList.map fun t => (name, t)

/-- The parameters of a transfer that are set, by name and in order. -/
def statedParameters (config : PayConfig) (r : TransferRequest) : List (String × String) :=
  accountParameters config r
    ++ textParameter "label" r.label
    ++ textParameter "message" r.message
    ++ textParameter "memo" r.memo

/-- A name and a value as a pair of a query. -/
def formPair (p : String × String) : Form.Pair :=
  (p.1.toList, p.2.toList)

/-- The text of a transfer's link up to its query. -/
def recipientText (config : PayConfig) (r : TransferRequest) : String :=
  String.ofList (config.scheme.toList.map Char.toLower) ++ ":" ++ r.recipient.text

/-- How the link of a transfer is written. -/
inductive IsLayout (config : PayConfig) (r : TransferRequest) : String → Prop
  /-- Without parameters it ends behind the recipient. -/
  | bare (unset : statedParameters config r = []) : IsLayout config r (recipientText config r)
  /-- Otherwise a query follows that is read as the parameters. -/
  | queried {query : List Char} (isSet : statedParameters config r ≠ [])
      (plain : ∀ c ∈ query, c.isAlphanum = true ∨ c ∈ "&=+%*-._".toList)
      (read : Url.Form.read query = (statedParameters config r).map formPair) :
      IsLayout config r (recipientText config r ++ "?" ++ String.ofList query)

namespace Transfer

/-- The parameters of a transfer are those that it states. -/
theorem pairs_eq_map (config : PayConfig) (r : TransferRequest) :
    pairs config r = (statedParameters config r).map formPair := by
  simp only [pairs, statedParameters, accountParameters, textParameter, amountPair_eq, tokenPair_eq,
    textPair_eq, List.map_append, List.map_map]
  rfl

/-- The link of a transfer has its parameters behind the recipient. -/
theorem encode_eq {config : PayConfig} (hconfig : config.HasOwnScheme) (r : TransferRequest) :
    Link.encode (.transfer r) config =
      .ok ((plainLink config r).appendPairs (pairs config r)) := by
  rw [Link.encode, Transfer.encode, parse_eq_ok_iff.2 (parse_base_eq hconfig r).1]
  rfl

/-- Written pairs need letters, digits and a few marks only. -/
theorem plain_of_mem_write {ps : List Form.Pair} {c : Char} (h : c ∈ Url.Form.write ps) :
    c.isAlphanum = true ∨ c ∈ "&=+%*-._".toList := by
  have hwritten := Url.Form.isWritten_of_mem_write h
  simp only [Url.Form.isWritten, Url.Form.isEncoded, Url.Form.isPlain, Bool.or_eq_true,
    decide_eq_true_eq] at hwritten
  rcases hwritten with (((((((hletter | rfl) | rfl) | rfl) | rfl) | rfl) | rfl) | rfl) | rfl
  · exact .inl hletter
  all_goals exact .inr (by decide)

section Text

variable {config : PayConfig} (hconfig : config.HasOwnScheme) (r : TransferRequest)

include hconfig

/-- The text of a link without parameters ends behind the recipient. -/
theorem text_plainLink : (plainLink config r).text = recipientText config r := by
  have hfront := (parse_base_eq hconfig r).2.front_eq
  have hchars : (plainLink config r).chars =
      config.scheme.toList.map Char.toLower ++ ':' :: r.recipient.text.toList := by
    rw [Url.chars_eq_behind, Url.behind, ← Url.front, hfront]
    simp [plainLink, Url.marked, PayConfig.linkScheme]
  apply String.toList_inj.1
  rw [Url.text, String.toList_ofList, hchars, recipientText]
  simp

/-- The text of a link with parameters goes on with their query. -/
theorem text_appendPairs {ps : List Form.Pair} (hps : ps ≠ []) :
    ((plainLink config r).appendPairs ps).text =
      recipientText config r ++ "?" ++ String.ofList (Url.Form.write ps) := by
  have happend : (plainLink config r).appendPairs ps =
      { plainLink config r with query := some (Url.Form.write ps) } :=
    if_neg (by rwa [List.isEmpty_iff])
  have hchars : { plainLink config r with query := some (Url.Form.write ps) }.chars =
      (plainLink config r).chars ++ '?' :: Url.Form.write ps := by
    simp [plainLink, Url.chars, Url.lead, Url.marked]
  rw [happend, ← text_plainLink hconfig r]
  apply String.toList_inj.1
  rw [Url.text, String.toList_ofList, hchars, Url.text]
  simp

/-- The parameters of a transfer behind the recipient make the text of a link. -/
theorem isLayout_text :
    IsLayout config r ((plainLink config r).appendPairs (pairs config r)).text := by
  by_cases hstated : statedParameters config r = []
  · have hnone : pairs config r = [] := by
      rw [pairs_eq_map, hstated, List.map_nil]
    rw [hnone]
    exact text_plainLink hconfig r ▸ .bare hstated
  · have hsome : pairs config r ≠ [] := by
      rw [pairs_eq_map]
      exact fun h => hstated (List.map_eq_nil_iff.1 h)
    rw [text_appendPairs hconfig r hsome]
    refine .queried hstated (fun c hc => plain_of_mem_write hc) ?_
    rw [Url.Form.read_write, pairs_eq_map]

end Text

/-- The parameters for the amount and the accounts have names of their own. -/
theorem name_ne_of_mem_accountParameters {config : PayConfig} {r : TransferRequest}
    {p : String × String} (h : p ∈ accountParameters config r) (field : FreeText) :
    p.1 ≠ field.key := by
  have hname : p.1 = "amount" ∨ p.1 = "tpl-token" ∨ p.1 = "reference" := by
    rcases List.mem_append.1 h with h | h
    · rcases List.mem_append.1 h with h | h
      · obtain ⟨a, -, rfl⟩ := List.mem_map.1 h
        exact .inl rfl
      · obtain ⟨t, -, rfl⟩ := List.mem_map.1 h
        exact .inr (.inl rfl)
    · obtain ⟨a, -, rfl⟩ := List.mem_map.1 h
      exact .inr (.inr rfl)
  rcases hname with hname | hname | hname
  all_goals
    rw [hname]
    cases field with
    | label => decide
    | message => decide
    | memo => decide

/-- The parameter for a text has the name of the text only. -/
theorem name_ne_of_mem_textParameter {name other : String} {text : Option String}
    {p : String × String} (h : p ∈ textParameter name text) (hother : name ≠ other) :
    p.1 ≠ other := by
  obtain ⟨t, -, rfl⟩ := List.mem_map.1 h
  exact hother

/-- One of the texts stands between parameters that have other names and do not depend on it. -/
theorem exists_statedParameters_withText (config : PayConfig) (r : TransferRequest)
    (field : FreeText) :
    ∃ before after, (∀ p ∈ before ++ after, p.1 ≠ field.key) ∧ ∀ text,
      statedParameters config (r.withText field text) =
        before ++ textParameter field.key text ++ after := by
  cases field with
  | label =>
    refine ⟨accountParameters config r,
      textParameter "message" r.message ++ textParameter "memo" r.memo, ?_, fun text => ?_⟩
    · intro p hp
      simp only [List.mem_append] at hp
      rcases hp with hp | hp | hp
      · exact name_ne_of_mem_accountParameters hp .label
      · exact name_ne_of_mem_textParameter hp (by decide)
      · exact name_ne_of_mem_textParameter hp (by decide)
    · exact List.append_assoc _ _ _
  | message =>
    refine ⟨accountParameters config r ++ textParameter "label" r.label,
      textParameter "memo" r.memo, ?_, fun text => rfl⟩
    intro p hp
    simp only [List.mem_append] at hp
    rcases hp with (hp | hp) | hp
    · exact name_ne_of_mem_accountParameters hp .message
    · exact name_ne_of_mem_textParameter hp (by decide)
    · exact name_ne_of_mem_textParameter hp (by decide)
  | memo =>
    refine ⟨accountParameters config r ++ textParameter "label" r.label ++
      textParameter "message" r.message, [], ?_, fun text => (List.append_nil _).symm⟩
    intro p hp
    simp only [List.mem_append, List.not_mem_nil, or_false] at hp
    rcases hp with (hp | hp) | hp
    · exact name_ne_of_mem_accountParameters hp .memo
    · exact name_ne_of_mem_textParameter hp (by decide)
    · exact name_ne_of_mem_textParameter hp (by decide)

end Transfer

open Link.Transfer

/-- Under a payment scheme of its own every transfer has a link, which is read as it is written, and
its text is laid out. Whatever one of its texts says, the other parameters of the link are the same,
in the same places. -/
theorem encode_transfer_layout {config : PayConfig} (hconfig : config.HasOwnScheme)
    (r : TransferRequest) :
    (∃ u, encode (.transfer r) config = .ok u ∧ Url.parse u.text = .ok u ∧
      IsLayout config r u.text) ∧
    ∀ field, ∃ before after, (∀ p ∈ before ++ after, p.1 ≠ field.key) ∧
      ∀ text, ∃ u, encode (.transfer (r.withText field text)) config = .ok u ∧
        u.pairs = (before ++ textParameter field.key text ++ after).map formPair := by
  constructor
  · have hrootless := (parse_base_eq hconfig r).2.appendPairs (pairs config r)
    exact ⟨_, encode_eq hconfig r, hrootless.parse_text, isLayout_text hconfig r⟩
  · intro field
    obtain ⟨before, after, hnames, hstated⟩ := exists_statedParameters_withText config r field
    refine ⟨before, after, hnames, fun text => ⟨_, encode_eq hconfig _, ?_⟩⟩
    have hnone : (plainLink config (r.withText field text)).pairs = [] := rfl
    rw [Url.pairs_appendPairs, hnone, List.nil_append, pairs_eq_map, hstated]

/-- A transfer whose label is full of marks, and whose message is empty. -/
def markedTransfer : TransferRequest where
  recipient := Networks.memoProgram
  references := [Networks.memoProgram]
  label := some "Tea & cake?amount=1#%41+"
  message := some ""

/-- The label of that transfer stays a label and the message is left out. No memo changes that. -/
theorem encode_transfer_layout_of_marks :
    ({} : PayConfig).HasOwnScheme ∧
      (∃ u, encode (.transfer markedTransfer) {} = .ok u ∧ Url.parse u.text = .ok u ∧
        IsLayout {} markedTransfer u.text) ∧
      statedParameters {} markedTransfer = [("reference", Networks.memoProgram.text),
        ("label", "Tea & cake?amount=1#%41+")] ∧
      ∃ before after, (∀ p ∈ before ++ after, p.1 ≠ "memo") ∧
        ∀ memo, ∃ u, encode (.transfer { markedTransfer with memo := memo }) {} = .ok u ∧
          u.pairs = (before ++ textParameter "memo" memo ++ after).map formPair := by
  have hconfig : ({} : PayConfig).HasOwnScheme := by decide
  obtain ⟨hlink, htexts⟩ := encode_transfer_layout hconfig markedTransfer
  exact ⟨hconfig, hlink, rfl, htexts .memo⟩

/-- That link as it is written: its marks are escaped, and there is neither an amount nor a message. -/
example : (encode (.transfer markedTransfer) {}).map Url.text = .ok
    ("trezoa:MemoSq4gqABAXKb96qnH8TysNcWxMyWCqXgDLGmfcHr" ++
      "?reference=MemoSq4gqABAXKb96qnH8TysNcWxMyWCqXgDLGmfcHr" ++
      "&label=Tea+%26+cake%3Famount%3D1%23%2541%2B") := by
  decide +kernel

end Link

end PayLink
