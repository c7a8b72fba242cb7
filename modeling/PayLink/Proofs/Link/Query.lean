import Mathlib.Data.Set.List
import PayLink.Proofs.Link.Recoding
/-!
# What the query of a transfer says

A link under the payment scheme whose path does not look like a link asks for a transfer, or for
nothing. It asks for one exactly if everything that counts is valid: the account that the path names,
the first token, every reference, and the first amount, read with the decimal places of the token
wherever that stands. What counts does not depend on the order in which different parameters stand,
and is not changed by a parameter that is unknown or empty, or comes after the one that counts.
-/

namespace PayLink.Link

open Url (Form.Pair)
open Transaction (firstText)

/-- A link under the payment scheme whose path, without escapes, does not look like a link. -/
structure IsTransferLink (config : PayConfig) (s : String) (u : Url) (path : List Char) : Prop where
  /-- It is read as a link. -/
  parse : Url.parse s = .ok u
  /-- It is no web link. -/
  notWeb : isWeb u = false
  /-- It is under the payment scheme. -/
  payment : isPayment config u = true
  /-- The path without escapes is a text. -/
  plain : Text.Utf8.decode (Url.Percent.decode u.path.text) = .ok path
  /-- There is neither a slash nor a colon nor a point in it. -/
  marks : ∀ c ∈ path, c ≠ '/' ∧ c ≠ ':' ∧ c ≠ '.'

/-- What such a link asks for is made of its path and its parameters. -/
theorem IsTransferLink.decode_eq {config : PayConfig} {s : String} {u : Url} {path : List Char}
    (h : IsTransferLink config s u path) :
    decode s config =
      (Transfer.ofPairs config (String.ofList path) u.pairs).map .transfer := by
  have hlink : looksLikeLink path = false := looksLikeLink_eq_false_iff.2 h.marks
  have hplain : plainPath s u = .ok path := by
    rw [plainPath, h.plain]
    rfl
  rw [decode, parse_eq_ok_iff.2 h.parse]
  change (if isWeb u = true then _ else if isPayment config u = true then _ else _) = _
  rw [if_neg (by rw [h.notWeb]; decide), if_pos h.payment, hplain]
  change (if looksLikeLink path = true then _ else _) = _
  rw [if_neg (by rw [hlink]; decide)]

/-- Parameters are the same up to the order of those with different keys. -/
def SameByKey (ps qs : List Form.Pair) : Prop :=
  ∀ key, ps.filter (fun p => p.1 = key) = qs.filter fun p => p.1 = key

/-- The values of a parameter are found among the pairs with its key. -/
theorem SameByKey.texts_eq {ps qs : List Form.Pair} (h : SameByKey ps qs) (key : List Char) :
    texts key ps = texts key qs := by
  have hsplit : ∀ ps : List Form.Pair, texts key ps =
      ((ps.filter fun p => p.1 = key).filter fun p => !p.2.isEmpty).map
        fun p => String.ofList p.2 := by
    intro ps
    rw [List.filter_filter, texts]
    simp only [Bool.and_comm]
  rw [hsplit, hsplit, h key]

/-- The parameters of a transfer. -/
def parameterKeys : List (List Char) :=
  [amountKey, tokenKey, referenceKey, labelKey, messageKey, memoKey]

/-- The parameters of which the first one counts. -/
def singleKeys : List (List Char) :=
  [amountKey, tokenKey, labelKey, messageKey, memoKey]

/-- Behind the parameters `front`, the parameter `p` does not count. -/
inductive Ignored (front : List Form.Pair) (p : Form.Pair) : Prop
  /-- It has no value. -/
  | empty (h : p.2 = [])
  /-- It is unknown. -/
  | unknown (h : p.1 ∉ parameterKeys)
  /-- One that counts stands before it. -/
  | repeated (h : p.1 ∈ singleKeys) (hfront : ∃ q ∈ front, q.1 = p.1 ∧ q.2 ≠ [])

/-- Parameters with others that do not count put between them. -/
inductive Padded (ps : List Form.Pair) : List Form.Pair → Prop
  /-- Nothing is put between them. -/
  | none : Padded ps ps
  /-- One more is put between them. -/
  | insert {front back : List Form.Pair} {p : Form.Pair} (h : Padded ps (front ++ back))
      (hp : Ignored front p) : Padded ps (front ++ p :: back)

namespace Transfer

/-- A parameter with a value that is not empty is found. -/
theorem exists_firstText {key : List Char} {ps : List Form.Pair}
    (h : ∃ q ∈ ps, q.1 = key ∧ q.2 ≠ []) : ∃ t, firstText key ps = some t := by
  obtain ⟨q, hq, hkey, hvalue⟩ := h
  have hmem : String.ofList q.2 ∈ texts key ps := by
    refine List.mem_map.2 ⟨q, List.mem_filter.2 ⟨hq, ?_⟩, rfl⟩
    simp [hkey, hvalue]
  rw [firstText_eq_head?]
  cases htexts : texts key ps with
  | nil =>
    rw [htexts] at hmem
    cases hmem
  | cons t ts => exact ⟨t, rfl⟩

/-- A parameter that does not count leaves what has been found. -/
theorem Found.add_eq_self {front : List Form.Pair} {f : Found} {p : Form.Pair}
    (hf : Found.Extends {} front f) (h : Ignored front p) : f.add p = .ok f := by
  obtain ⟨key, value⟩ := p
  unfold Found.add
  dsimp only
  by_cases hvalue : value.isEmpty = true
  · rw [if_pos hvalue]
  rw [if_neg hvalue]
  cases h with
  | empty hnil => exact absurd (List.isEmpty_iff.2 hnil) hvalue
  | unknown hkey =>
    simp only [parameterKeys, List.mem_cons, List.not_mem_nil, or_false, not_or] at hkey
    obtain ⟨hamount, htoken, hreference, hlabel, hmessage, hmemo⟩ := hkey
    rw [if_neg hamount, if_neg htoken, if_neg hreference, if_neg hlabel, if_neg hmessage,
      if_neg hmemo]
  | repeated hkey hfront =>
    obtain ⟨t, ht⟩ := exists_firstText hfront
    dsimp only at ht
    simp only [singleKeys, List.mem_cons, List.not_mem_nil, or_false] at hkey
    rcases hkey with rfl | rfl | rfl | rfl | rfl
    · have hsome : f.amount = some t := hf.amount.trans ht
      rw [if_pos rfl, hsome]
      rfl
    · obtain ⟨a, ha, -⟩ := Option.map_eq_some_iff.1 (hf.token.trans ht)
      rw [if_neg (by decide), if_pos rfl, ha]
      rfl
    · have hsome : f.label = some t := hf.label.trans ht
      rw [if_neg (by decide), if_neg (by decide), if_neg (by decide), if_pos rfl, hsome]
      rfl
    · have hsome : f.message = some t := hf.message.trans ht
      rw [if_neg (by decide), if_neg (by decide), if_neg (by decide), if_neg (by decide),
        if_pos rfl, hsome]
      rfl
    · have hsome : f.memo = some t := hf.memo.trans ht
      rw [if_neg (by decide), if_neg (by decide), if_neg (by decide), if_neg (by decide),
        if_neg (by decide), if_pos rfl, hsome]
      rfl

/-- Among parameters, one that does not count makes no difference, not even to what is refused. -/
theorem Found.foldlM_insert {front back : List Form.Pair} {p : Form.Pair} (h : Ignored front p) :
    (front ++ p :: back).foldlM Found.add {} = (front ++ back).foldlM Found.add {} := by
  rw [List.foldlM_append, List.foldlM_append]
  cases hfront : front.foldlM Found.add {} with
  | error e => rfl
  | ok f =>
    change (p :: back).foldlM Found.add f = back.foldlM Found.add f
    rw [List.foldlM_cons, Found.add_eq_self (Found.extends_of_foldlM hfront) h]
    rfl

/-- Parameters that do not count make no difference to the transfer. -/
theorem ofPairs_padded {config : PayConfig} {path : String} {ps qs : List Form.Pair}
    (h : Padded ps qs) : ofPairs config path qs = ofPairs config path ps := by
  induction h with
  | none => rfl
  | insert _ hp ih =>
    rw [← ih, ofPairs, ofPairs, Found.foldlM_insert hp]

/-- The token that parameters name. -/
def namedToken (ps : List Form.Pair) : Option Address :=
  (firstText tokenKey ps).bind fun t => (Address.parse .token t).toOption

/-- A transfer is what a path and parameters say. -/
structure Says (config : PayConfig) (path : String) (ps : List Form.Pair) (r : TransferRequest) :
    Prop where
  /-- The path is the address of the recipient. -/
  recipient : Address.parse .recipient path = .ok r.recipient
  /-- The amount is the first one, with the decimal places of the token. -/
  amount : r.amount.map .ok =
    (firstText amountKey ps).map fun t => Amount.parse t (config.decimalsFor r.token)
  /-- The token is the first one. -/
  token : r.token.map Address.text = firstText tokenKey ps
  /-- The references are all references, in order. -/
  references : r.references.map Address.text = texts referenceKey ps
  /-- The label is the first one. -/
  label : r.label = firstText labelKey ps
  /-- The message is the first one. -/
  message : r.message = firstText messageKey ps
  /-- The memo is the first one. -/
  memo : r.memo = firstText memoKey ps

/-- An amount is read from its text, if there is one. -/
theorem readAmount_eq_ok_iff {config : PayConfig} {token : Option Address} {s : Option String}
    {amount : Option Amount} :
    readAmount config token s = .ok amount ↔
      amount.map .ok = s.map fun t => Amount.parse t (config.decimalsFor token) := by
  cases s with
  | none =>
    rw [readAmount, Except.ok.injEq, Option.map_none, Option.map_eq_none_iff, eq_comm]
  | some t =>
    rw [readAmount, map_eq_ok_iff, Option.map_some, Option.map_eq_some_iff]
    constructor
    · rintro ⟨a, ha, rfl⟩
      exact ⟨a, rfl, ha.symm⟩
    · rintro ⟨a, rfl, ha⟩
      exact ⟨a, ha.symm, rfl⟩

/-- A path and parameters make the transfer that they say. -/
theorem ofPairs_eq_ok_iff_says {config : PayConfig} {path : String} {ps : List Form.Pair}
    {r : TransferRequest} : ofPairs config path ps = .ok r ↔ Says config path ps r := by
  have hpath : path = r.recipient.text ↔ Address.parse .recipient path = .ok r.recipient :=
    Address.parse_eq_ok_iff.symm
  rw [ofPairs_eq_ok_iff, hpath, readAmount_eq_ok_iff]
  constructor
  · rintro ⟨hrecipient, hamount, htoken, hreferences, hlabel, hmessage, hmemo⟩
    exact ⟨hrecipient, hamount, htoken, hreferences, hlabel, hmessage, hmemo⟩
  · rintro ⟨hrecipient, hamount, htoken, hreferences, hlabel, hmessage, hmemo⟩
    exact ⟨hrecipient, hamount, htoken, hreferences, hlabel, hmessage, hmemo⟩

/-- A token that is the first one is the one that the parameters name. -/
theorem namedToken_eq {ps : List Form.Pair} {token : Option Address}
    (h : token.map Address.text = firstText tokenKey ps) : namedToken ps = token := by
  rw [namedToken, ← h]
  cases token with
  | none => rfl
  | some t =>
    rw [Option.map_some, Option.bind_some, Address.parse_eq_ok_iff.2 rfl]
    rfl

/-- Everything that counts among a path and parameters is valid. -/
structure AllValid (config : PayConfig) (path : String) (ps : List Form.Pair) : Prop where
  /-- The path is an address. -/
  recipient : ∃ a, Address.parse .recipient path = .ok a
  /-- The first token, if there is one, is an address. -/
  token : ∀ t ∈ firstText tokenKey ps, ∃ a, Address.parse .token t = .ok a
  /-- Every reference is an address. -/
  references : ∀ t ∈ texts referenceKey ps, ∃ a, Address.parse .reference t = .ok a
  /-- The first amount, if there is one, is an amount with the decimal places of the token. -/
  amount : ∀ t ∈ firstText amountKey ps,
    ∃ a, Amount.parse t (config.decimalsFor (namedToken ps)) = .ok a

/-- A path and parameters say something exactly if everything that counts is valid. -/
theorem exists_says_iff {config : PayConfig} {path : String} {ps : List Form.Pair} :
    (∃ r, Says config path ps r) ↔ AllValid config path ps := by
  constructor
  · rintro ⟨r, h⟩
    refine ⟨⟨_, h.recipient⟩, fun t ht => ?_, fun t ht => ?_, fun t ht => ?_⟩
    · obtain ⟨a, -, ha⟩ := Option.map_eq_some_iff.1 (h.token.trans ht)
      exact ⟨a, Address.parse_eq_ok_iff.2 ha.symm⟩
    · rw [← h.references] at ht
      obtain ⟨a, -, ha⟩ := List.mem_map.1 ht
      exact ⟨a, Address.parse_eq_ok_iff.2 ha.symm⟩
    · have hamount := h.amount
      rw [Option.mem_def.1 ht, Option.map_some, Option.map_eq_some_iff] at hamount
      obtain ⟨a, -, ha⟩ := hamount
      rw [namedToken_eq h.token]
      exact ⟨a, ha.symm⟩
  · intro h
    obtain ⟨recipient, hrecipient⟩ := h.recipient
    obtain ⟨token, htoken⟩ : ∃ token : Option Address,
        token.map Address.text = firstText tokenKey ps := by
      cases hfirst : firstText tokenKey ps with
      | none => exact ⟨none, rfl⟩
      | some t =>
        obtain ⟨a, ha⟩ := h.token t hfirst
        exact ⟨some a, congrArg some (Address.parse_eq_ok_iff.1 ha).symm⟩
    obtain ⟨references, hreferences⟩ : ∃ as : List Address,
        as.map Address.text = texts referenceKey ps := by
      have hrange : texts referenceKey ps ∈ Set.range (List.map Address.text) := by
        rw [Set.range_list_map]
        intro t ht
        obtain ⟨a, ha⟩ := h.references t ht
        exact ⟨a, (Address.parse_eq_ok_iff.1 ha).symm⟩
      exact hrange
    obtain ⟨amount, hamount⟩ : ∃ amount : Option Amount, amount.map .ok =
        (firstText amountKey ps).map fun t => Amount.parse t (config.decimalsFor token) := by
      cases hfirst : firstText amountKey ps with
      | none => exact ⟨none, rfl⟩
      | some t =>
        obtain ⟨a, ha⟩ := h.amount t hfirst
        rw [namedToken_eq htoken] at ha
        exact ⟨some a, congrArg some ha.symm⟩
    exact ⟨⟨recipient, amount, token, references, firstText labelKey ps, firstText messageKey ps,
      firstText memoKey ps⟩, hrecipient, hamount, htoken, hreferences, rfl, rfl, rfl⟩

/-- What parameters say does not depend on the order of different ones. -/
theorem Says.of_sameByKey {config : PayConfig} {path : String} {ps qs : List Form.Pair}
    {r : TransferRequest} (hsame : SameByKey ps qs) (h : Says config path ps r) :
    Says config path qs r := by
  have hfirst : ∀ key, firstText key ps = firstText key qs := fun key => by
    rw [firstText_eq_head?, firstText_eq_head?, hsame.texts_eq key]
  exact
    { recipient := h.recipient
      amount := by rw [← hfirst, h.amount]
      token := by rw [← hfirst, h.token]
      references := by rw [← hsame.texts_eq, h.references]
      label := by rw [← hfirst, h.label]
      message := by rw [← hfirst, h.message]
      memo := by rw [← hfirst, h.memo] }

end Transfer

/-- A link under the payment scheme whose path does not look like a link asks for something exactly
if everything that counts is valid, and then for the transfer that its path and parameters say. A
link to the same account with its parameters in an order that differs only for different keys asks
for the same or for nothing as well. With parameters put in that are unknown or empty, or that come
after the one that counts, it asks for the same, and is otherwise refused for the same reason. -/
theorem decode_of_parameters {config : PayConfig} {s : String} {u : Url} {path : List Char}
    (h : IsTransferLink config s u path) :
    ((∃ request, decode s config = .ok request) ↔
        Transfer.AllValid config (String.ofList path) u.pairs) ∧
      (∀ request, decode s config = .ok request ↔
        ∃ r, request = .transfer r ∧ Transfer.Says config (String.ofList path) u.pairs r) ∧
      (∀ s' u', IsTransferLink config s' u' path → SameByKey u.pairs u'.pairs →
        ∀ request, decode s config = .ok request ↔ decode s' config = .ok request) ∧
      ∀ s' u', IsTransferLink config s' u' path → Padded u.pairs u'.pairs →
        decode s' config = decode s config := by
  have hread : ∀ {s u}, IsTransferLink config s u path → ∀ request, decode s config = .ok request ↔
      ∃ r, request = .transfer r ∧ Transfer.Says config (String.ofList path) u.pairs r := by
    intro s u h request
    rw [h.decode_eq, map_eq_ok_iff]
    simp only [Transfer.ofPairs_eq_ok_iff_says]
    constructor
    · rintro ⟨r, hr, rfl⟩
      exact ⟨r, rfl, hr⟩
    · rintro ⟨r, rfl, hr⟩
      exact ⟨r, hr, rfl⟩
  refine ⟨?_, hread h, fun s' u' h' hsame request => ?_, fun s' u' h' hpadded => ?_⟩
  · rw [← Transfer.exists_says_iff]
    constructor
    · rintro ⟨request, hrequest⟩
      obtain ⟨r, -, hr⟩ := (hread h request).1 hrequest
      exact ⟨r, hr⟩
    · rintro ⟨r, hr⟩
      exact ⟨_, (hread h _).2 ⟨r, rfl, hr⟩⟩
  · rw [hread h, hread h']
    constructor
    · rintro ⟨r, hrequest, hr⟩
      exact ⟨r, hrequest, hr.of_sameByKey hsame⟩
    · rintro ⟨r, hrequest, hr⟩
      exact ⟨r, hrequest, hr.of_sameByKey fun key => (hsame key).symm⟩
  · rw [h.decode_eq, h'.decode_eq, Transfer.ofPairs_padded hpadded]

/-- The link to an account with some parameters. -/
def accountLink (config : PayConfig) (a : Address) (ps : List Form.Pair) : Url :=
  (Transfer.plainLink config { recipient := a }).appendPairs ps

/-- Under a payment scheme of its own there is such a link for every account and all parameters. -/
theorem isTransferLink_accountLink {config : PayConfig} (hconfig : config.HasOwnScheme)
    (a : Address) (ps : List Form.Pair) :
    IsTransferLink config (accountLink config a ps).text (accountLink config a ps)
      a.text.toList := by
  have hrootless := (Transfer.parse_base_eq hconfig { recipient := a }).2.appendPairs ps
  have hpayment : isPayment config (accountLink config a ps) = true :=
    decide_eq_true (Url.appendPairs_eq _ ps).1
  refine ⟨hrootless.parse_text, hconfig.isWeb_of_isPayment hpayment, hpayment, ?_, ?_⟩
  · rw [accountLink, Transfer.decode_path_of_recipient hrootless, Text.Utf8.decode_encode]
  · exact looksLikeLink_eq_false_iff.1
      (looksLikeLink_of_isAlphanum fun c hc => Address.isAlphanum_of_mem_text hc)

/-- The parameters of the link are those that it was given. -/
theorem pairs_accountLink (config : PayConfig) (a : Address) (ps : List Form.Pair) :
    (accountLink config a ps).pairs = ps :=
  Url.pairs_appendPairs _ ps

/-- One and a half dollar tokens, and a reference that stands twice. The token is behind the amount.
-/
def tokenPairs : List Form.Pair :=
  [(amountKey, "1.5".toList), (tokenKey, "EFewYfHeQhkKpbDzpmyygdT54hn85dUj3VZ8b7dC21KS".toList),
    (referenceKey, "MemoSq4gqABAXKb96qnH8TysNcWxMyWCqXgDLGmfcHr".toList),
    (referenceKey, "MemoSq4gqABAXKb96qnH8TysNcWxMyWCqXgDLGmfcHr".toList)]

/-- The same with an unknown parameter in front, an empty token before the one that counts, and
another amount and another token at the end. -/
def paddedPairs : List Form.Pair :=
  [("x".toList, "1".toList), (amountKey, "1.5".toList), (tokenKey, []),
    (tokenKey, "EFewYfHeQhkKpbDzpmyygdT54hn85dUj3VZ8b7dC21KS".toList),
    (referenceKey, "MemoSq4gqABAXKb96qnH8TysNcWxMyWCqXgDLGmfcHr".toList),
    (referenceKey, "MemoSq4gqABAXKb96qnH8TysNcWxMyWCqXgDLGmfcHr".toList),
    (amountKey, "2".toList), (tokenKey, "GHPjs7ftoZVdvKYvnxCiRD3i5t3dNSkLyQaoBQLRb5PA".toList)]

/-- The link with all of them, as it is written. -/
example : (accountLink {} Networks.systemProgram paddedPairs).text =
    "trezoa:11111111111111111111111111111111?x=1&amount=1.5&tpl-token=" ++
      "&tpl-token=EFewYfHeQhkKpbDzpmyygdT54hn85dUj3VZ8b7dC21KS" ++
      "&reference=MemoSq4gqABAXKb96qnH8TysNcWxMyWCqXgDLGmfcHr" ++
      "&reference=MemoSq4gqABAXKb96qnH8TysNcWxMyWCqXgDLGmfcHr" ++
      "&amount=2&tpl-token=GHPjs7ftoZVdvKYvnxCiRD3i5t3dNSkLyQaoBQLRb5PA" := by
  decide +kernel

/-- What is put between the parameters does not count. -/
theorem padded_tokenPairs : Padded tokenPairs paddedPairs := by
  have hunknown : Padded tokenPairs ([] ++ ("x".toList, "1".toList) :: tokenPairs) :=
    .insert .none (.unknown (by decide))
  have hempty : Padded tokenPairs (paddedPairs.take 2 ++ (tokenKey, []) :: tokenPairs.drop 1) :=
    .insert hunknown (.empty rfl)
  have hamount : Padded tokenPairs (paddedPairs.take 6 ++ (amountKey, "2".toList) :: []) :=
    .insert hempty (.repeated (by decide) ⟨(amountKey, "1.5".toList), by decide, rfl, by decide⟩)
  have htoken : Padded tokenPairs (paddedPairs.take 7 ++
      (tokenKey, "GHPjs7ftoZVdvKYvnxCiRD3i5t3dNSkLyQaoBQLRb5PA".toList) :: []) :=
    .insert hamount (.repeated (by decide)
      ⟨(tokenKey, "EFewYfHeQhkKpbDzpmyygdT54hn85dUj3VZ8b7dC21KS".toList), by decide, rfl, by decide⟩)
  exact htoken

/-- The link with further parameters asks for the same transfer. It does ask for one, whose amount
has the six decimal places of the token that comes after it. -/
theorem decode_of_parameters_padded :
    IsTransferLink {} (accountLink {} Networks.systemProgram tokenPairs).text
        (accountLink {} Networks.systemProgram tokenPairs) Networks.systemProgram.text.toList ∧
      IsTransferLink {} (accountLink {} Networks.systemProgram paddedPairs).text
        (accountLink {} Networks.systemProgram paddedPairs) Networks.systemProgram.text.toList ∧
      Padded tokenPairs paddedPairs ∧
      ({} : PayConfig).decimalsFor (some Networks.usdc.mint) = 6 ∧
      decode (accountLink {} Networks.systemProgram paddedPairs).text {} = .ok (.transfer
        { recipient := Networks.systemProgram
          amount := Amount.ofNat? 1500000
          token := some Networks.usdc.mint
          references := [Networks.memoProgram, Networks.memoProgram] }) := by
  have hconfig : ({} : PayConfig).HasOwnScheme := by decide
  have hlink := isTransferLink_accountLink hconfig Networks.systemProgram tokenPairs
  have hpadded := isTransferLink_accountLink hconfig Networks.systemProgram paddedPairs
  obtain ⟨-, hread, -, hsame⟩ := decode_of_parameters hlink
  rw [pairs_accountLink] at hread hsame
  refine ⟨hlink, hpadded, padded_tokenPairs, by decide +kernel, (hsame _ _ hpadded ?_).trans ?_⟩
  · rw [pairs_accountLink]
    exact padded_tokenPairs
  · refine (hread _).2 ⟨_, rfl, ?_⟩
    constructor
    all_goals decide +kernel

end PayLink.Link
