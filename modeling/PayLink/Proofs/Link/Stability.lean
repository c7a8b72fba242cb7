import PayLink.Proofs.Link.Recoding
import PayLink.Proofs.Link.Relative
/-!
# Passing transactions on

A transaction that was read from a link can be written as a link and read again, any number of
times. It is kept exactly if its link, without the slashes that are dropped from it, names an
endpoint that is read as that link. If one round keeps it, every further one does. A web link keeps
its annotations, and so does a path without escapes; each loses a slash at the end of its path, but
a web link keeps that of the root.
-/

namespace PayLink.Link

open Transaction (trimmed dropLastSlash endpoint others relativeLink annotates ofWeb filledFrom
  RelativePath IsPlaced placedLink queryOf)

/-- A request that is passed on `n` times: written as a link, and read again. -/
def relayed (config : PayConfig) : Nat → PaymentRequest → Except PayError PaymentRequest
  | 0, request => .ok request
  | n + 1, request =>
    encode request config >>= fun u => decode u.text config >>= relayed config n

/-- A request is kept however often it is passed on, if it is kept once. -/
theorem relayed_eq_self_iff {config : PayConfig} {request : PaymentRequest} {w : Url}
    (hwrite : encode request config = .ok w) :
    (∀ n, relayed config n request = .ok request) ↔ decode w.text config = .ok request := by
  constructor
  · intro h
    obtain ⟨u, hu, hround⟩ := bind_eq_ok_iff.1 (h 1)
    obtain ⟨again, hread, hagain⟩ := bind_eq_ok_iff.1 hround
    rw [Except.ok.inj (hwrite.symm.trans hu), hread]
    exact hagain
  · intro h n
    induction n with
    | zero => rfl
    | succ n ih => exact bind_eq_ok_iff.2 ⟨w, hwrite, bind_eq_ok_iff.2 ⟨request, h, ih⟩⟩

namespace Transaction

/-- What is read of a link has no empty annotations. -/
theorem presentText_of_asks {config : PayConfig} {u : Url} {t : TransactionRequest}
    (h : Asks config u t) : presentText t.label = t.label ∧ presentText t.message = t.message := by
  obtain ⟨hlabel, hmessage⟩ := annotations_of_asks h
  rw [hlabel, hmessage]
  exact ⟨Transfer.presentText_firstText _ _, Transfer.presentText_firstText _ _⟩

/-- A transaction with another link is the same one exactly if the link is. -/
theorem withLink_eq_self_iff {t : TransactionRequest} {link : String} :
    { t with link := link } = t ↔ link = t.link := by
  constructor
  · intro h
    exact congrArg TransactionRequest.link h
  · intro h
    rw [h]

/-- The link of a transaction is that of its endpoint, so it is kept exactly if the endpoint is read
as that link, with no annotations of its own but those of the transaction. -/
theorem decode_encode_eq_self_iff {config : PayConfig} {t : TransactionRequest} {w : Url}
    (hwrite : Link.encode (.transaction t) config = .ok w) :
    decode w.text config = .ok (.transaction t) ↔
      ∃ base b, endpoint config (trimmed t.link) = .ok base ∧
        decode base.text config = .ok (.transaction b) ∧ t = filledFrom b t := by
  obtain ⟨base, hbase, -, rfl⟩ := endpoint_of_encode hwrite
  rw [decode_appendPairs (written_of_endpoint hbase)]
  constructor
  · rintro ⟨b, hb, ht⟩
    exact ⟨base, b, hbase, hb, ht⟩
  · rintro ⟨base', b, hbase', hb, ht⟩
    rw [Except.ok.inj (hbase.symm.trans hbase')]
    exact ⟨b, hb, ht⟩

section Web

variable {config : PayConfig} {u w : Url} {text : String} (hparse : Url.parse text = .ok u)
  (hweb : isWeb u = true)

include hparse hweb

/-- A web link without its annotations is written. -/
theorem written_without_annotations : (u.withPairs (others u.pairs)).Written := by
  have hwritten := Url.written_of_parse hparse
  obtain ⟨_, _, _, -, hpath, -⟩ := exists_authority hwritten (special_of_isWeb hweb)
  exact hwritten.withPairs hpath _

/-- The transaction of a web link is passed on with its annotations. Its link is then the text of
the endpoint that is read once slashes are dropped. -/
theorem decode_encode_of_isWeb
    (hwrite : Link.encode (.transaction (ofWeb u)) config = .ok w) :
    ∃ b, Url.parse (trimmed (ofWeb u).link) = .ok b ∧
      decode w.text config = .ok (.transaction { ofWeb u with link := b.text }) := by
  have hspecial := special_of_isWeb hweb
  have hwritten := written_without_annotations hparse hweb
  have hothers : ∀ p ∈ others u.pairs, annotates p = false := fun p => annotates_of_mem_others
  have hmarks : ∀ q, queryOf (others u.pairs) = some q → '?' ∉ q ∧ '/' ∉ q := fun q hq =>
    not_mem_queryOf hq
  obtain ⟨base, hbase, -, rfl⟩ := endpoint_of_encode hwrite
  obtain ⟨b, hb⟩ := exists_parse_of_ne_relative hbase
    (parse_trimmed_text_ne_relative hwritten hspecial hmarks)
  obtain ⟨pathText, fragment, -, hread⟩ := parse_trimmed_text hwritten hspecial hmarks
  obtain ⟨hkeeps, heq⟩ := (hread b).1 hb
  have hscheme : b.scheme = u.scheme := by
    rw [heq]
    rfl
  have hquery : b.query = queryOf (others u.pairs) := by
    rw [heq]
    rfl
  have hkeepsB : b.KeepsHost := by
    rw [heq]
    exact hkeeps
  have hwebB : isWeb b = true := by
    rw [isWeb, hscheme]
    exact hweb
  have hreadB : Url.parse b.text = .ok b :=
    ((Url.written_of_parse hb).parse_text_eq_ok_iff (ne_file_of_isWeb hwebB)).2 ⟨hkeepsB, rfl⟩
  obtain rfl := Except.ok.inj ((endpoint_of_isWeb hb hwebB).symm.trans hbase)
  have hbare : decode b.text config = .ok (.transaction { link := b.text }) :=
    (decode_text_of_isWeb hreadB hwebB hquery hothers).2 rfl
  obtain ⟨hlabel, hmessage⟩ := presentText_of_asks (.web hweb : Asks config u (ofWeb u))
  have hfilled := filledFrom_link hlabel hmessage b.text
  exact ⟨b, hb, (decode_appendPairs (Url.written_of_parse hb)).2 ⟨_, hbare, hfilled.symm⟩⟩

/-- A web link without a fragment names itself once slashes are dropped exactly if its path is the
root or ends with no slash. -/
theorem text_eq_link_iff {b : Url} (hfragment : u.fragment = none)
    (hb : Url.parse (trimmed (ofWeb u).link) = .ok b) :
    b.text = (ofWeb u).link ↔ u.path.text = ['/'] ∨ u.path.text.getLast? ≠ some '/' := by
  have hspecial := special_of_isWeb hweb
  have hwritten := written_without_annotations hparse hweb
  have hmarks : ∀ q, queryOf (others u.pairs) = some q → '?' ∉ q ∧ '/' ∉ q := fun q hq =>
    not_mem_queryOf hq
  have hlink : (ofWeb u).link = (u.withPairs (others u.pairs)).text := rfl
  have hfragment' : (u.withPairs (others u.pairs)).fragment = none := hfragment
  have hpath : (u.withPairs (others u.pairs)).path = u.path := rfl
  rw [hlink] at hb ⊢
  rw [← hpath]
  constructor
  · intro htext
    exact root_or_noSlash_of_parse_trimmed_text hwritten hspecial hmarks hfragment' hb htext
  · intro hslash
    obtain ⟨-, heq⟩ :=
      (parse_trimmed_text_eq_self hwritten hspecial hmarks hfragment' hslash).1 hb
    rw [heq]

end Web

section Relative

variable {config : PayConfig} (hconfig : config.HasOwnScheme) {path : List Char}
  {ps : List Url.Form.Pair} {t : TransactionRequest} {w : Url} (hpath : RelativePath path)
  (hothers : ∀ p ∈ ps, annotates p = false) (hlink : t.link = relativeLink path ps)
  (hplaced : IsPlaced config (trimmed t.link))
  (hlabel : presentText t.label = t.label) (hmessage : presentText t.message = t.message)
  (hwrite : Link.encode (.transaction t) config = .ok w)

include hconfig hpath hothers hlink hplaced hlabel hmessage hwrite

/-- The transaction of a path without escapes is passed on with its annotations and without the
slash at the end of the path, if what is left of the path looks like a link. -/
theorem decode_encode_relative_iff {t' : TransactionRequest} :
    decode w.text config = .ok (.transaction t') ↔
      looksLikeLink (dropLastSlash path) = true ∧
        t' = { t with link := relativeLink (dropLastSlash path) ps } := by
  have hquestion : '?' ∉ path := fun hm => (hpath.plain _ hm).2.2.1 rfl
  have htrimmed : trimmed t.link = relativeLink (dropLastSlash path) ps := by
    rw [hlink, trimmed_relativeLink hquestion]
  rw [htrimmed] at hplaced
  have hendpoint := endpoint_relativeLink hconfig hpath.dropLastSlash hplaced
  obtain ⟨base, hbase, -, rfl⟩ := endpoint_of_encode hwrite
  rw [htrimmed] at hbase
  obtain rfl := Except.ok.inj (hendpoint.symm.trans hbase)
  rw [decode_appendPairs (written_of_endpoint hendpoint), ← filledFrom_link hlabel hmessage]
  have hread : ∀ {r}, decode (placedLink config (dropLastSlash path) ps).text config =
      .ok (.transaction r) ↔ looksLikeLink (dropLastSlash path) = true ∧
        r = { link := relativeLink (dropLastSlash path) ps } :=
    decode_placedLink hconfig hpath.dropLastSlash hothers
  constructor
  · rintro ⟨r, hr, ht⟩
    obtain ⟨hlooks, rfl⟩ := hread.1 hr
    exact ⟨hlooks, ht⟩
  · rintro ⟨hlooks, ht⟩
    exact ⟨_, hread.2 ⟨hlooks, rfl⟩, ht⟩

/-- The transaction of a path without escapes that looks like a link is kept exactly if no slash
ends the path. -/
theorem decode_encode_relative_eq_self_iff (hlooks : looksLikeLink path = true) :
    decode w.text config = .ok (.transaction t) ↔ path.getLast? ≠ some '/' := by
  rw [decode_encode_relative_iff hconfig hpath hothers hlink hplaced hlabel hmessage hwrite,
    eq_comm (a := t), withLink_eq_self_iff, hlink, relativeLink_inj, dropLastSlash_eq_self_iff]
  constructor
  · intro h
    exact h.2
  · intro hlast
    rw [dropLastSlash_eq_self_iff.2 hlast]
    exact ⟨hlooks, hlast⟩

end Relative

end Transaction

/-- Whether a transaction is kept when it is passed on shows after one round. It is kept exactly if
its endpoint is read as its link and has no other annotations. Of a web transaction only the link
can change, and without a fragment it does exactly if a slash ends its path and is not the root. The
link of a path without escapes loses a slash at its end and nothing else. -/
theorem relayed_of_decode {config : PayConfig} {s : String} {t : TransactionRequest} {w : Url}
    (hread : decode s config = .ok (.transaction t))
    (hwrite : encode (.transaction t) config = .ok w) :
    ((∀ n, relayed config n (.transaction t) = .ok (.transaction t)) ↔
      decode w.text config = .ok (.transaction t)) ∧
    (decode w.text config = .ok (.transaction t) ↔
      ∃ base b, endpoint config (trimmed t.link) = .ok base ∧
        decode base.text config = .ok (.transaction b) ∧ t = filledFrom b t) ∧
    (∀ u, Url.parse s = .ok u → isWeb u = true →
      ∃ b, Url.parse (trimmed t.link) = .ok b ∧
        decode w.text config = .ok (.transaction { t with link := b.text }) ∧
        (u.fragment = none →
          (b.text = t.link ↔ u.path.text = ['/'] ∨ u.path.text.getLast? ≠ some '/'))) ∧
    (config.HasOwnScheme → ∀ u path, Url.parse s = .ok u → isWeb u = false →
      Text.Utf8.decode (Url.Percent.decode u.path.text) = .ok path → RelativePath path →
      IsPlaced config (trimmed t.link) →
      (∀ t', decode w.text config = .ok (.transaction t') ↔
        looksLikeLink (dropLastSlash path) = true ∧
          t' = { t with link := relativeLink (dropLastSlash path) (others u.pairs) }) ∧
      (decode w.text config = .ok (.transaction t) ↔ path.getLast? ≠ some '/')) := by
  obtain ⟨u, hparse, hasks⟩ := Transaction.decode_eq_transaction_iff.1 hread
  obtain ⟨hlabel, hmessage⟩ := Transaction.presentText_of_asks hasks
  refine ⟨relayed_eq_self_iff hwrite, Transaction.decode_encode_eq_self_iff hwrite, ?_, ?_⟩
  · intro u' hu' hweb
    obtain rfl := Except.ok.inj (hparse.symm.trans hu')
    cases hasks with
    | placed hno =>
      rw [hno] at hweb
      cases hweb
    | web =>
      obtain ⟨b, hb, hagain⟩ := Transaction.decode_encode_of_isWeb hparse hweb hwrite
      exact ⟨b, hb, hagain, fun hfragment => Transaction.text_eq_link_iff hparse hweb hfragment hb⟩
  · intro hconfig u' path hu' hno hdecoded hpath hplaced
    obtain rfl := Except.ok.inj (hparse.symm.trans hu')
    have hothers : ∀ p ∈ others u.pairs, annotates p = false := fun p =>
      Transaction.annotates_of_mem_others
    cases hasks with
    | web hweb =>
      rw [hno] at hweb
      cases hweb
    | placed _ _ hgiven hlooks =>
      obtain rfl := Except.ok.inj (hdecoded.symm.trans hgiven)
      exact ⟨fun t' => Transaction.decode_encode_relative_iff hconfig hpath hothers rfl hplaced
          hlabel hmessage hwrite,
        Transaction.decode_encode_relative_eq_self_iff hconfig hpath hothers rfl hplaced hlabel
          hmessage hwrite hlooks⟩

/-- The slash at the end of a path is lost when its transaction is passed on. -/
theorem relayed_of_last_slash :
    decode "trezoa:example.com/pay/" {} = .ok (.transaction { link := "example.com/pay/" }) ∧
      ∃ w, encode (.transaction { link := "example.com/pay/" }) {} = .ok w ∧
        decode w.text {} = .ok (.transaction { link := "example.com/pay" }) ∧
        decode w.text {} ≠ .ok (.transaction { link := "example.com/pay/" }) :=
  ⟨by decide +kernel, ⟨"trezoa".toList, none, .rootless "example.com/pay".toList, none, none⟩,
    by decide +kernel, by decide +kernel, by decide +kernel⟩

/-- The transaction of a path with a parameter and a label is kept however often it is passed on. -/
theorem relayed_of_decode_labelled :
    decode "trezoa:example.com/pay?id=7&label=Shop" {} =
        .ok (.transaction { link := "example.com/pay?id=7", label := some "Shop" }) ∧
      ∀ n, relayed {} n (.transaction { link := "example.com/pay?id=7", label := some "Shop" }) =
        .ok (.transaction { link := "example.com/pay?id=7", label := some "Shop" }) := by
  have hread : decode "trezoa:example.com/pay?id=7&label=Shop" {} =
      .ok (.transaction { link := "example.com/pay?id=7", label := some "Shop" }) := by
    decide +kernel
  have hwrite : encode (.transaction { link := "example.com/pay?id=7", label := some "Shop" }) {} =
      .ok ⟨"trezoa".toList, none, .rootless "example.com/pay".toList,
        some "id=7&label=Shop".toList, none⟩ := by
    decide +kernel
  have hparse : Url.parse "trezoa:example.com/pay?id=7&label=Shop" =
      .ok ⟨"trezoa".toList, none, .rootless "example.com/pay".toList,
        some "id=7&label=Shop".toList, none⟩ := by
    decide +kernel
  have hdecoded : Text.Utf8.decode (Url.Percent.decode "example.com/pay".toList) =
      .ok "example.com/pay".toList := by
    decide +kernel
  have hpath : RelativePath "example.com/pay".toList :=
    ⟨Text.forall_mem_of_all (by decide), by decide⟩
  have hplaced : IsPlaced {} (trimmed "example.com/pay?id=7") := .inl (by decide +kernel)
  obtain ⟨hrounds, -, -, hrelative⟩ := relayed_of_decode hread hwrite
  obtain ⟨-, hkept⟩ := hrelative (by decide) _ _ hparse (by decide) hdecoded hpath hplaced
  exact ⟨hread, hrounds.2 (hkept.2 (by decide))⟩

end PayLink.Link
