import PayLink.Proofs.Link.Transfer
import PayLink.Proofs.Url.Rooted
/-!
# When the link of a transaction reads as a transfer

Links do not say whether they are transfers or transactions; the path decides. The link of a
transaction therefore reads as a transfer if its endpoint is the text of an account, and only then.
An endpoint with a slash, a colon or a point is never read as a transfer.
-/

namespace PayLink.Link

/-- A mark of a link that is no part of an escape stays in the text without escapes. -/
theorem mem_of_decode_of_mark {cs path : List Char}
    (h : Text.Utf8.decode (Url.Percent.decode cs) = .ok path) {c : Char}
    (hc : c = '/' ∨ c = ':' ∨ c = '.') (hm : c ∈ cs) : c ∈ path := by
  have hmark : c ≠ '%' ∧ Text.Hex.digit? c = none ∧ c.toNat < 0x80 := by
    rcases hc with rfl | rfl | rfl
    all_goals decide
  have hbyte : (UInt8.ofNat c.toNat).toNat = c.toNat := Text.Utf8.toNat_byte (by omega)
  have hbytes : UInt8.ofNat c.toNat ∈ Url.Percent.decode cs := by
    refine Url.Percent.mem_decode_of_mem hmark.1 hmark.2.1 hm ?_
    rw [Text.Utf8.utf8EncodeChar_ascii hmark.2.2]
    exact List.mem_singleton_self _
  have hpath := Text.Utf8.mem_of_decode h (by omega) hbytes
  rwa [hbyte, Char.ofNat_toNat] at hpath

/-- A path with a mark looks like a link. -/
theorem looksLikeLink_of_mem {path : List Char} {c : Char} (hc : c = '/' ∨ c = ':' ∨ c = '.')
    (hm : c ∈ path) : looksLikeLink path = true := by
  refine List.any_eq_true.2 ⟨c, hm, ?_⟩
  rcases hc with rfl | rfl | rfl
  all_goals rfl

/-- A path that is empty or that a slash begins makes no transfer. -/
theorem decode_ne_transfer {config : PayConfig} {s : String} {u : Url}
    (hparse : Url.parse s = .ok u)
    (hpath : u.path.text = [] ∨ u.path.text.head? = some '/') (r : TransferRequest) :
    decode s config ≠ .ok (.transfer r) := by
  intro h
  obtain ⟨-, path, hplain, hlink, hpairs⟩ := ofPairs_of_decode hparse h
  have hbytes := mapError_eq_ok_iff.1 hplain
  rcases hpath with hpath | hpath
  · rw [hpath] at hbytes
    have hnil : path = [] := Except.ok.inj (hbytes.symm.trans (Text.Utf8.decode_encode []))
    have htext := (Transfer.ofPairs_eq_ok_iff.1 hpairs).1
    rw [hnil] at htext
    exact r.recipient.text_toList_ne_nil (by rw [← htext]; rfl)
  · have hmem := mem_of_decode_of_mark hbytes (.inl rfl) (List.mem_of_head? hpath)
    rw [looksLikeLink_of_mem (.inl rfl) hmem] at hlink
    cases hlink

namespace Transaction

/-- A link as it is placed under the payment scheme. A link that is under it stays as it is. -/
def placed (config : PayConfig) (link : String) : String :=
  match Url.parse link with
  | .ok u => if isPayment config u then link else config.scheme ++ ":" ++ link
  | .error _ => config.scheme ++ ":" ++ link

/-- What a link names under the payment scheme: what stands behind the scheme, without query and
fragment. -/
def subject (config : PayConfig) (link : String) : List Char :=
  let parts := Url.splitScheme? (Url.cleaned (placed config link).toList)
  (parts.map fun p => (Url.Tail.of p.2).front).getD []

/-- An endpoint under the payment scheme is the link that is placed under it. -/
theorem parse_placed {config : PayConfig} {link : String} {u : Url}
    (h : endpoint config link = .ok u) (hu : isPayment config u = true) :
    Url.parse (placed config link) = .ok u := by
  unfold endpoint at h
  unfold placed
  cases hlink : Url.parse link with
  | ok v =>
    rw [hlink] at h
    simp only at h ⊢
    split at h
    · cases h
      rw [if_pos hu, hlink]
    · rename_i hno
      have hv : ¬isPayment config v = true := by
        intro hv
        exact hno (by rw [hv]; rfl)
      rw [if_neg hv]
      exact parse_eq_ok_iff.1 h
  | error flaw =>
    rw [hlink] at h
    cases flaw with
    | relative => exact parse_eq_ok_iff.1 h
    | _ => cases h

/-- The link of a transaction is that of its endpoint, with the annotations appended. -/
theorem endpoint_of_encode {config : PayConfig} {t : TransactionRequest} {u : Url}
    (h : encode t config = .ok u) :
    ∃ base, endpoint config (trimmed t.link) = .ok base ∧
      (isPayment config base = true ∨ isWeb base = true) ∧ u = base.appendPairs (pairs t) := by
  obtain ⟨base, hbase, h⟩ := bind_eq_ok_iff.1 h
  split at h
  · rename_i hscheme
    cases h
    exact ⟨base, hbase, by simpa using hscheme, rfl⟩
  · cases h

/-- An endpoint is a link that was read. -/
theorem exists_parse_of_endpoint {config : PayConfig} {link : String} {u : Url}
    (h : endpoint config link = .ok u) : ∃ s, Url.parse s = .ok u := by
  unfold endpoint at h
  cases hlink : Url.parse link with
  | ok v =>
    rw [hlink] at h
    simp only at h
    split at h
    · cases h
      exact ⟨link, hlink⟩
    · exact ⟨_, parse_eq_ok_iff.1 h⟩
  | error flaw =>
    rw [hlink] at h
    cases flaw with
    | relative => exact ⟨_, parse_eq_ok_iff.1 h⟩
    | _ => cases h

/-- The parts of the link that is placed under a payment scheme of its own. -/
theorem splitScheme?_placed {config : PayConfig} {link : String} {u : Url}
    (h : Url.parse (placed config link) = .ok u) :
    ∃ rest, Url.splitScheme? (Url.cleaned (placed config link).toList) = some (u.scheme, rest) ∧
      (Url.Tail.of rest).front = subject config link := by
  obtain ⟨rest, hs⟩ := Url.splitScheme?_of_ofCleaned h
  exact ⟨rest, hs, by rw [subject, hs]; rfl⟩

end Transaction

open Transaction (placed subject trimmed)

section Reading

variable {config : PayConfig} (hconfig : config.HasOwnScheme) {link : String} {base : Url}
  (hplaced : Url.parse (placed config link) = .ok base) (hbase : isPayment config base = true)

include hconfig hplaced hbase

/-- What does not begin with a slash is the path of the link, and is read again. -/
theorem rootless_of_subject (hslash : (subject config link).head? ≠ some '/') :
    base.Rootless (Url.Percent.encode Url.Percent.isControl (subject config link)) := by
  obtain ⟨rest, hs, hfront⟩ := Transaction.splitScheme?_placed hplaced
  have hscheme : base.scheme = config.linkScheme := of_decide_eq_true hbase
  have ho : SchemeKind.of base.scheme = .ordinary := hscheme ▸ hconfig.ordinary
  rw [← hfront] at hslash ⊢
  exact Url.rootless_of_parse hs ho hslash hplaced

/-- What begins with a slash has segments. -/
theorem rooted_of_subject (hslash : (subject config link).head? = some '/') :
    ∃ segments, base.path = .rooted segments := by
  obtain ⟨rest, hs, hfront⟩ := Transaction.splitScheme?_placed hplaced
  have hscheme : base.scheme = config.linkScheme := of_decide_eq_true hbase
  have ho : SchemeKind.of base.scheme = .ordinary := hscheme ▸ hconfig.ordinary
  rw [← hfront] at hslash
  exact Url.readFront_rooted ho hslash ((Url.ofCleaned_eq_ok_iff hs).1 hplaced).1

end Reading

/-- A link whose path is the escaped form of a text reads as a transfer exactly if the text names the
recipient and the parameters make the transfer. -/
theorem decode_eq_transfer_iff_of_rootless {config : PayConfig} (hconfig : config.HasOwnScheme)
    {u : Url} {cs : List Char}
    (hu : u.Rootless (Url.Percent.encode Url.Percent.isControl cs))
    (hpayment : isPayment config u = true) (r : TransferRequest) :
    decode u.text config = .ok (.transfer r) ↔
      Text.Utf8.decode (Url.Percent.decode cs) = .ok r.recipient.text.toList ∧
        Transfer.ofPairs config r.recipient.text u.pairs = .ok r := by
  have hplain : ∀ path, plainPath u.text u = .ok path ↔
      Text.Utf8.decode (Url.Percent.decode cs) = .ok path := by
    intro path
    rw [plainPath, mapError_eq_ok_iff, hu.path_eq, LinkPath.text,
      Url.Percent.decode_encode_isControl]
  constructor
  · intro h
    obtain ⟨-, path, hpath, -, hpairs⟩ := ofPairs_of_decode hu.parse_text h
    have hname : path = r.recipient.text.toList := by
      rw [← (Transfer.ofPairs_eq_ok_iff.1 hpairs).1, String.toList_ofList]
    rw [hname] at hpath hpairs
    rw [String.ofList_toList] at hpairs
    exact ⟨(hplain _).1 hpath, hpairs⟩
  · rintro ⟨hname, hpairs⟩
    have hlink : looksLikeLink r.recipient.text.toList = false :=
      looksLikeLink_of_isAlphanum fun c hc => Address.isAlphanum_of_mem_text hc
    rw [decode_of_isPayment hconfig hu.parse_text hpayment, (hplain _).2 hname]
    change ofPayment config u r.recipient.text.toList = _
    rw [ofPayment, hlink, String.ofList_toList, hpairs]
    rfl

/-- A mark of a link does not stand in the text of an account. -/
theorem not_mem_of_decode_eq_text {cs : List Char} {a : Address}
    (h : Text.Utf8.decode (Url.Percent.decode cs) = .ok a.text.toList) {c : Char}
    (hc : c = '/' ∨ c = ':' ∨ c = '.') : c ∉ cs := by
  intro hm
  have hmark : c.isAlphanum = false := by
    rcases hc with rfl | rfl | rfl
    all_goals rfl
  exact Address.not_mem_text hmark (mem_of_decode_of_mark h hc hm)

/-- What is read at all is a link. -/
theorem parse_of_decode {config : PayConfig} {s : String} {request : PaymentRequest}
    (h : decode s config = .ok request) : ∃ u, Url.parse s = .ok u := by
  obtain ⟨u, hu, -⟩ := bind_eq_ok_iff.1 h
  exact ⟨u, parse_eq_ok_iff.1 hu⟩

section Appended

variable {config : PayConfig} {s : String} {base : Url} (hparse : Url.parse s = .ok base)
  {ps : List Url.Form.Pair} {r : TransferRequest}

include hparse

/-- A link that reads as a transfer with pairs appended is under the payment scheme. -/
theorem isPayment_of_decode_appendPairs
    (h : decode (base.appendPairs ps).text config = .ok (.transfer r)) :
    isPayment config base = true := by
  obtain ⟨hscheme, hlower⟩ := Url.scheme_of_parse hparse
  obtain ⟨v, hv⟩ := parse_of_decode h
  obtain ⟨hpayment, -⟩ := ofPairs_of_decode hv h
  rw [← (Url.appendPairs_eq base ps).1] at hscheme hlower
  rw [isPayment, Url.scheme_of_parse_text hscheme hlower hv, (Url.appendPairs_eq base ps).1]
    at hpayment
  exact hpayment

/-- A link with segments is no transfer, whatever pairs are appended. -/
theorem decode_appendPairs_ne_transfer (ho : SchemeKind.of base.scheme = .ordinary)
    {segments : List (List Char)} (hpath : base.path = .rooted segments) :
    decode (base.appendPairs ps).text config ≠ .ok (.transfer r) := by
  intro h
  obtain ⟨hscheme, hlower⟩ := Url.scheme_of_parse hparse
  obtain ⟨v, hv⟩ := parse_of_decode h
  rw [← (Url.appendPairs_eq base ps).1] at hscheme hlower ho
  rw [← (Url.appendPairs_eq base ps).2] at hpath
  exact decode_ne_transfer hv (Url.path_of_parse_text hscheme hlower ho hpath hv) r h

end Appended

/-- The link of a transaction reads as a transfer exactly if it is under the payment scheme, what it
names is the text of the recipient, and its parameters make the transfer. So it never does if it
names something with a slash, a colon or a point. -/
theorem decode_encode_transaction_eq_transfer_iff {config : PayConfig}
    (hconfig : config.HasOwnScheme) {t : TransactionRequest} {u : Url}
    (h : encode (.transaction t) config = .ok u) :
    (∀ r, decode u.text config = .ok (.transfer r) ↔
      isPayment config u = true ∧
      Text.Utf8.decode (Url.Percent.decode (subject config (trimmed t.link))) =
        .ok r.recipient.text.toList ∧
      Transfer.ofPairs config r.recipient.text u.pairs = .ok r) ∧
    ((∃ c ∈ subject config (trimmed t.link), c = '/' ∨ c = ':' ∨ c = '.') →
      ∀ r, decode u.text config ≠ .ok (.transfer r)) := by
  obtain ⟨base, hendpoint, -, rfl⟩ := Transaction.endpoint_of_encode h
  obtain ⟨source, hsource⟩ := Transaction.exists_parse_of_endpoint hendpoint
  have hpayment : isPayment config (base.appendPairs (Transaction.pairs t)) =
      isPayment config base := by
    rw [isPayment, isPayment, (Url.appendPairs_eq base _).1]
  have hmain : ∀ r, decode (base.appendPairs (Transaction.pairs t)).text config =
      .ok (.transfer r) ↔ isPayment config (base.appendPairs (Transaction.pairs t)) = true ∧
      Text.Utf8.decode (Url.Percent.decode (subject config (trimmed t.link))) =
        .ok r.recipient.text.toList ∧
      Transfer.ofPairs config r.recipient.text
        (base.appendPairs (Transaction.pairs t)).pairs = .ok r := by
    intro r
    rw [hpayment]
    by_cases hbase : isPayment config base = true
    · have hplaced := Transaction.parse_placed hendpoint hbase
      by_cases hslash : (subject config (trimmed t.link)).head? = some '/'
      · obtain ⟨segments, hsegments⟩ := rooted_of_subject hconfig hplaced hbase hslash
        have ho : SchemeKind.of base.scheme = .ordinary :=
          of_decide_eq_true hbase ▸ hconfig.ordinary
        constructor
        · intro hr
          exact absurd hr (decode_appendPairs_ne_transfer hsource ho hsegments)
        · rintro ⟨-, hr, -⟩
          exact absurd (List.mem_of_head? hslash) (not_mem_of_decode_eq_text hr (.inl rfl))
      · have hrootless := rootless_of_subject hconfig hplaced hbase hslash
        rw [decode_eq_transfer_iff_of_rootless hconfig (hrootless.appendPairs _)
          (hpayment.trans hbase), and_iff_right hbase]
    · constructor
      · intro hr
        exact absurd (isPayment_of_decode_appendPairs hsource hr) hbase
      · intro hr
        exact absurd hr.1 hbase
  refine ⟨hmain, ?_⟩
  rintro ⟨c, hc, hmark⟩ r hr
  exact not_mem_of_decode_eq_text ((hmain r).1 hr).2.1 hmark hc

/-- The text of an account is an endpoint whose link reads as a transfer to the account. -/
theorem decode_encode_transaction_of_account_text :
    ∃ u, encode (.transaction { link := "11111111111111111111111111111111" }) {} = .ok u ∧
      decode u.text {} = .ok (.transfer { recipient := Networks.systemProgram }) :=
  ⟨⟨"trezoa".toList, none, .rootless "11111111111111111111111111111111".toList, none, none⟩,
    by decide +kernel, by decide +kernel⟩

/-- An endpoint on a host is never read as a transfer. -/
theorem decode_encode_transaction_of_host :
    ∃ u, encode (.transaction { link := "example.com/pay" }) {} = .ok u ∧
      ∀ r, decode u.text {} ≠ .ok (.transfer r) := by
  have hencode : encode (.transaction { link := "example.com/pay" }) {} =
      .ok ⟨"trezoa".toList, none, .rootless "example.com/pay".toList, none, none⟩ := by
    decide +kernel
  exact ⟨_, hencode, (decode_encode_transaction_eq_transfer_iff (by decide) hencode).2
    ⟨'/', by decide +kernel, .inl rfl⟩⟩

end PayLink.Link
