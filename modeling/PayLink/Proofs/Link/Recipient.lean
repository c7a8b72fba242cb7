import PayLink.Proofs.Link.Recoding
/-!
# When the link of a transfer names its recipient

The text of the recipient is placed behind the payment scheme and a colon, and the link of a transfer
is whatever that text reads as. So the link is under the payment scheme, and its path is the text of
the recipient, exactly if the scheme is one of its own. With any other text for a scheme there may be
a link all the same: its scheme is then only the first part of that text, or the recipient is read as
a host. Such a link is never read as a transfer under the same scheme.
-/

namespace PayLink.Link

namespace Transfer

variable {config : PayConfig} {r : TransferRequest}

/-- The link of a transfer has the scheme and the path of the link without parameters. -/
theorem base_of_encode {u : Url} (h : encode r config = .ok u) :
    ∃ b, Url.parse (base config r) = .ok b ∧ u.scheme = b.scheme ∧ u.path = b.path := by
  obtain ⟨b, hb, h⟩ := bind_eq_ok_iff.1 h
  cases h
  have hsame := Url.appendPairs_eq b (pairs config r)
  exact ⟨b, parse_eq_ok_iff.1 hb, hsame.1, hsame.2⟩

/-- A transfer that has no link is refused for its link. -/
theorem exists_reason_of_encode {e : PayError} (h : encode r config = .error e) :
    ∃ reason, e = .invalidLink reason := by
  rcases bind_eq_error_iff.1 h with hparse | ⟨b, -, hb⟩
  · rw [parse] at hparse
    cases hbase : Url.parse (base config r) with
    | ok u =>
      rw [hbase] at hparse
      cases hparse
    | error flaw =>
      rw [hbase] at hparse
      cases hparse
      exact ⟨_, rfl⟩
  · cases hb

/-- The text of an account is neither empty nor begun by a slash. -/
theorem text_not_rooted (a : Address) :
    ¬(a.text.toList = [] ∨ a.text.toList.head? = some '/') := by
  rintro (hempty | hslash)
  · exact a.text_toList_ne_nil hempty
  · exact Address.not_mem_text rfl (List.mem_of_head? hslash)

/-- The link of a transfer is under the payment scheme and has the text of the recipient for its path
exactly if the scheme is one of its own. -/
theorem names_recipient_iff {u : Url} (h : encode r config = .ok u) :
    isPayment config u = true ∧ u.path.text = r.recipient.text.toList ↔ config.HasOwnScheme := by
  constructor
  · rintro ⟨hpayment, hpath⟩
    obtain ⟨b, hb, hscheme, hsame⟩ := base_of_encode h
    rw [isPayment, hscheme] at hpayment
    have hnot : ¬(b.path.text = [] ∨ b.path.text.head? = some '/') := by
      rw [← hsame, hpath]
      exact text_not_rooted r.recipient
    exact PayConfig.hasOwnScheme_of_parse hb hpayment hnot
  · intro hconfig
    obtain ⟨v, hv, hpayment, hpath, -⟩ := exists_encode hconfig r
    obtain rfl := Except.ok.inj (hv.symm.trans h)
    exact ⟨hpayment, hpath⟩

/-- The link of a transfer is read as a transfer only under a payment scheme of its own, only if the
amount fits, and then as the transfer without its empty texts. -/
theorem decode_eq_transfer_iff {u : Url} (h : encode r config = .ok u) (r' : TransferRequest) :
    decode u.text config = .ok (.transfer r') ↔
      config.HasOwnScheme ∧ r.AmountFits config ∧ r' = r.withoutEmptyTexts := by
  by_cases hconfig : config.HasOwnScheme
  · obtain ⟨v, hv, -, -, hread⟩ := exists_encode hconfig r
    obtain rfl := Except.ok.inj (hv.symm.trans h)
    rw [hread, and_iff_right hconfig]
  · constructor
    · intro hr
      exact absurd (hasOwnScheme_of_decode hr) hconfig
    · intro hr
      exact absurd hr.1 hconfig

end Transfer

/-- A transfer has a link under every payment scheme of its own, and is otherwise refused for its
link or has a link that does not name the recipient. The link is under the payment scheme and its path
is the text of the recipient exactly if the scheme is one of its own; it is then read as the transfer
if the amount fits, and in no other case as any transfer. -/
theorem encode_transfer_names_recipient_iff (config : PayConfig) (r : TransferRequest) :
    (config.HasOwnScheme → ∃ u, encode (.transfer r) config = .ok u) ∧
    (∀ e, encode (.transfer r) config = .error e → ∃ reason, e = .invalidLink reason) ∧
    ∀ u, encode (.transfer r) config = .ok u →
      (isPayment config u = true ∧ u.path.text = r.recipient.text.toList ↔
        config.HasOwnScheme) ∧
      ∀ r', decode u.text config = .ok (.transfer r') ↔
        config.HasOwnScheme ∧ r.AmountFits config ∧ r' = r.withoutEmptyTexts := by
  refine ⟨fun hconfig => ?_, fun e he => Transfer.exists_reason_of_encode he, fun u hu => ?_⟩
  · obtain ⟨u, hu, -⟩ := Transfer.exists_encode hconfig r
    exact ⟨u, hu⟩
  · exact ⟨Transfer.names_recipient_iff hu, Transfer.decode_eq_transfer_iff hu⟩

/-- Neither a text with a colon in it nor a scheme that leads to a host is refused as a payment
scheme. The link under `trezoa:pay` is under another scheme and names the recipient behind `pay:`; the
link under `ws` has the recipient in lower case for a host, and an empty segment for its path. -/
theorem encode_transfer_of_unchecked_scheme :
    (∃ u, encode (.transfer { recipient := Networks.memoProgram }) { scheme := "trezoa:pay" } =
        .ok u ∧
      isPayment { scheme := "trezoa:pay" } u = false ∧
      u.path.text = "pay:".toList ++ Networks.memoProgram.text.toList) ∧
    ∃ u, encode (.transfer { recipient := Networks.memoProgram }) { scheme := "ws" } = .ok u ∧
      u.authority = some ⟨[], Networks.memoProgram.text.toList.map Char.toLower, none⟩ ∧
      u.path.text = ['/'] := by
  let behind : Url :=
    ⟨"trezoa".toList, none, .rootless ("pay:".toList ++ Networks.memoProgram.text.toList), none,
      none⟩
  let host : Authority := ⟨[], Networks.memoProgram.text.toList.map Char.toLower, none⟩
  refine ⟨⟨behind, ?_, ?_, ?_⟩, ⟨"ws".toList, some host, .rooted [[]], none, none⟩, ?_, ?_, ?_⟩
  all_goals decide +kernel

end PayLink.Link
