import PayLink.Proofs.Link.Web
/-!
# Links relative to the payment scheme

The endpoint of a transaction may be a path, such as that of a host, with parameters. It is placed
under the payment scheme, where its characters beyond ASCII are escaped, and reading takes the
escapes out again. Nothing is lost on the way as long as the path has no escapes of its own and no
marks that would end it.
-/

namespace PayLink.Link.Transaction

open Url (Form.Pair)

/-- A path that can be placed under a scheme as it is: it has no blanks, no controls, no escapes and
no marks of a query or fragment, and no slash begins it. -/
structure RelativePath (path : List Char) : Prop where
  /-- There is nothing in it that ends it or stands for something else. -/
  plain : ∀ c ∈ path, 0x20 < c.toNat ∧ c ≠ '%' ∧ c ≠ '?' ∧ c ≠ '#'
  /-- No slash begins it. -/
  noSlash : path.head? ≠ some '/'

/-- A link is placed under the payment scheme: it has no scheme, or one that leads nowhere. -/
def IsPlaced (config : PayConfig) (link : String) : Prop :=
  Url.parse link = .error .relative ∨ ∃ u, Url.parse link = .ok u ∧ u.hasHost = false ∧
    isPayment config u = false ∧ isWeb u = false

/-- The link of a path and parameters under the payment scheme. -/
def placedLink (config : PayConfig) (path : List Char) (ps : List Form.Pair) : Url where
  scheme := config.linkScheme
  authority := none
  path := .rootless (Url.Percent.encode Url.Percent.isControl path)
  query := queryOf ps
  fragment := none

/-- The text of a path and parameters. -/
theorem toList_relativeLink (path : List Char) (ps : List Form.Pair) :
    (relativeLink path ps).toList = path ++ Url.marked '?' (queryOf ps) := by
  rw [relativeLink, String.toList_ofList, queryOf]
  split
  · rw [Url.marked, List.append_nil]
  · rfl

/-- With the same parameters, different paths make different texts. -/
theorem relativeLink_inj {path path' : List Char} {ps : List Form.Pair} :
    relativeLink path ps = relativeLink path' ps ↔ path = path' := by
  constructor
  · intro h
    have htext := congrArg String.toList h
    rw [toList_relativeLink, toList_relativeLink] at htext
    exact List.append_cancel_right htext
  · intro h
    rw [h]

/-- A path with parameters loses the slash at its end. -/
theorem trimmed_relativeLink {path : List Char} (h : '?' ∉ path) (ps : List Form.Pair) :
    trimmed (relativeLink path ps) = relativeLink (dropLastSlash path) ps := by
  have htext : ∀ p, relativeLink p ps =
      String.ofList (p ++ Url.marked '?' (queryOf ps) ++ Url.marked '#' none) := by
    intro p
    rw [Url.marked, List.append_nil, ← toList_relativeLink, String.ofList_toList]
  have hquery : ∀ q, queryOf ps = some q → '?' ∉ q ∧ '/' ∉ q := fun q hq => not_mem_queryOf hq
  have hparts : ∃ front fragment, Trimmed path none front fragment ∧
      trimmed (relativeLink path ps) =
        String.ofList (front ++ Url.marked '?' (queryOf ps) ++ Url.marked '#' fragment) := by
    rw [htext]
    exact trimmed_parts h hquery none
  obtain ⟨front, fragment, hleft, hparts⟩ := hparts
  obtain ⟨hnone, hfront⟩ := hleft.without rfl
  rw [hparts, hnone, hfront, ← htext]

namespace RelativePath

variable {path : List Char} (h : RelativePath path)

include h

/-- Nothing in a path is a blank. -/
theorem isEdge_of_mem {c : Char} (hc : c ∈ path) : Url.isEdge c = false := by
  have hlow := (h.plain c hc).1
  simp only [Url.isEdge, decide_eq_false_iff_not]
  omega

/-- Without the slash at its end it is such a path again. -/
theorem dropLastSlash : RelativePath (dropLastSlash path) := by
  refine ⟨fun c hc => h.plain c (mem_of_mem_dropLastSlash hc), fun hslash => h.noSlash ?_⟩
  cases path with
  | nil => cases hslash
  | cons c cs =>
    by_cases hcs : cs = []
    · rw [hcs] at hslash
      by_cases hlast : [c].getLast? = some '/'
      · rw [Transaction.dropLastSlash, if_pos hlast] at hslash
        cases hslash
      · rw [Transaction.dropLastSlash, if_neg hlast] at hslash
        exact hslash
    · rw [← List.singleton_append, dropLastSlash_append_of_ne_nil _ hcs] at hslash
      exact hslash

/-- Nothing in a path and parameters is a blank. -/
theorem isEdge_of_mem_relativeLink {ps : List Form.Pair} {c : Char}
    (hc : c ∈ (relativeLink path ps).toList) : Url.isEdge c = false := by
  rw [toList_relativeLink] at hc
  rcases List.mem_append.1 hc with hc | hc
  · exact h.isEdge_of_mem hc
  · rcases Url.mem_marked hc with hmark | ⟨q, hq, hc⟩
    · rw [hmark]
      decide
    · obtain ⟨hcontrol, hspace, -⟩ := Url.inQuery_false (inQuery_of_mem_queryOf hq hc)
      exact Url.isEdge_of_isControl hcontrol hspace

/-- A path and parameters that are placed under the payment scheme are read as they are. -/
theorem parse_placedLink {config : PayConfig} (hconfig : config.HasOwnScheme)
    (ps : List Form.Pair) :
    Url.parse (config.scheme ++ ":" ++ relativeLink path ps) = .ok (placedLink config path ps) := by
  have hedge : ∀ c ∈ (relativeLink path ps).toList, Url.isEdge c = false := fun c hc =>
    h.isEdge_of_mem_relativeLink hc
  have hbreak : ∀ c ∈ (relativeLink path ps).toList, Url.isBreak c = false := by
    intro c hc
    refine eq_false_of_ne_true fun hb => ?_
    have he := hedge c hc
    rw [Url.isEdge_of_isBreak hb] at he
    cases he
  have hclean : Url.cleanedEnd (relativeLink path ps).toList = (relativeLink path ps).toList :=
    Url.cleanedEnd_eq_self hbreak fun c hc => hedge c (List.mem_of_getLast? hc)
  have hquestion : '?' ∉ path := fun hm => (h.plain _ hm).2.2.1 rfl
  have hsign : '#' ∉ path := fun hm => (h.plain _ hm).2.2.2 rfl
  have hquery : ∀ q, queryOf ps = some q → '#' ∉ q := fun q hq hm =>
    (Url.inQuery_false (inQuery_of_mem_queryOf hq hm)).2.2 rfl
  have htail : Url.Tail.of (relativeLink path ps).toList = ⟨path, queryOf ps, none⟩ := by
    have hmarked := Url.tail_of_marked hquestion hsign hquery none
    rwa [Url.marked, List.append_nil, ← toList_relativeLink] at hmarked
  have hs := hconfig.splitScheme?_cleaned (relativeLink path ps)
  rw [hclean] at hs
  have hrule : Url.queryRule config.linkScheme = Url.Percent.inQuery := by
    rw [Url.queryRule, hconfig.ordinary]
    rfl
  rw [Url.parse, Url.ofCleaned_eq_ok_iff hs, htail, hrule]
  refine ⟨Url.readFront_rootless hconfig.ordinary h.noSlash, rfl, ?_, rfl⟩
  change queryOf ps = _
  cases hq : queryOf ps with
  | none => rfl
  | some q =>
    rw [Option.map_some, Url.Percent.encode_eq_self fun c hc => inQuery_of_mem_queryOf hq hc]

end RelativePath

/-- A path with parameters that leads nowhere else is an endpoint under the payment scheme. -/
theorem endpoint_relativeLink {config : PayConfig} (hconfig : config.HasOwnScheme)
    {path : List Char} (h : RelativePath path) {ps : List Form.Pair}
    (hplaced : IsPlaced config (relativeLink path ps)) :
    endpoint config (relativeLink path ps) = .ok (placedLink config path ps) := by
  have hparse := parse_eq_ok_iff.2 (h.parse_placedLink hconfig ps)
  rw [endpoint]
  rcases hplaced with hrelative | ⟨u, hu, hhost, hpayment, hweb⟩
  · rw [hrelative]
    exact hparse
  · rw [hu]
    simp only [hhost, hpayment, hweb, Bool.or_self, Bool.false_eq_true, if_false]
    exact hparse

section Placed

variable {config : PayConfig} (hconfig : config.HasOwnScheme) {path : List Char}
  (h : RelativePath path) {ps : List Form.Pair} (hothers : ∀ p ∈ ps, annotates p = false)

include hconfig h hothers

/-- A link under the payment scheme asks for its path and parameters if the path looks like a
link. -/
theorem asks_placedLink {b : TransactionRequest} :
    Asks config (placedLink config path ps) b ↔
      looksLikeLink path = true ∧ b = { link := relativeLink path ps } := by
  have hpayment : isPayment config (placedLink config path ps) = true := decide_eq_true rfl
  have hweb := hconfig.isWeb_of_isPayment hpayment
  have hpercent : '%' ∉ path := fun hm => (h.plain _ hm).2.1 rfl
  have hpath : Text.Utf8.decode (Url.Percent.decode (placedLink config path ps).path.text) =
      .ok path := by
    change Text.Utf8.decode (Url.Percent.decode (Url.Percent.encode _ path)) = _
    rw [Url.Percent.decode_encode_isControl, Url.Percent.decode_eq_encode hpercent,
      Text.Utf8.decode_encode]
  obtain ⟨hall, hlabel, hmessage⟩ := others_eq_self hothers
  have hrequest : ofPath (placedLink config path ps) path = { link := relativeLink path ps } := by
    rw [ofPath, pairs_of_query rfl, hall, annotated, hlabel, hmessage]
  constructor
  · intro hasks
    cases hasks with
    | web hyes =>
      rw [hweb] at hyes
      cases hyes
    | placed _ _ hdecoded hlooks =>
      obtain rfl := Except.ok.inj (hpath.symm.trans hdecoded)
      exact ⟨hlooks, hrequest⟩
  · rintro ⟨hlooks, rfl⟩
    rw [← hrequest]
    exact .placed hweb hpayment hpath hlooks

/-- A path and parameters are read back from the link that they are placed in if the path looks like
a link. -/
theorem decode_placedLink {b : TransactionRequest} :
    decode (placedLink config path ps).text config = .ok (.transaction b) ↔
      looksLikeLink path = true ∧ b = { link := relativeLink path ps } := by
  have hfile : SchemeKind.of (placedLink config path ps).scheme ≠ .file := hconfig.ne_file
  have hwritten := Url.written_of_parse (h.parse_placedLink hconfig ps)
  have hparse : Url.parse (placedLink config path ps).text = .ok (placedLink config path ps) :=
    (hwritten.parse_text_eq_ok_iff hfile).2 ⟨Url.keepsHost_of_none rfl, rfl⟩
  rw [decode_eq_transaction_iff, ← asks_placedLink hconfig h hothers]
  constructor
  · rintro ⟨u, hu, hasks⟩
    rwa [Except.ok.inj (hparse.symm.trans hu)]
  · intro hasks
    exact ⟨_, hparse, hasks⟩

end Placed

/-- A path with parameters that leads nowhere else is the endpoint of a link under the payment
scheme, and the transaction is read back from it, if the path looks like a link and no slash ends
it. -/
theorem decode_encode_relative {config : PayConfig} (hconfig : config.HasOwnScheme)
    {path : List Char} {ps : List Form.Pair} {t : TransactionRequest} (hpath : RelativePath path)
    (hlooks : looksLikeLink path = true) (hlast : path.getLast? ≠ some '/')
    (hothers : ∀ p ∈ ps, annotates p = false) (hlink : t.link = relativeLink path ps)
    (hplaced : IsPlaced config t.link) (hlabel : t.label ≠ some "")
    (hmessage : t.message ≠ some "") :
    ∃ w, Link.encode (.transaction t) config = .ok w ∧ isPayment config w = true ∧
      decode w.text config = .ok (.transaction t) := by
  have hquestion : '?' ∉ path := fun hm => (hpath.plain _ hm).2.2.1 rfl
  have htrimmed : trimmed t.link = relativeLink path ps := by
    rw [hlink, trimmed_relativeLink hquestion, dropLastSlash_eq_self_iff.2 hlast]
  have hendpoint : endpoint config (trimmed t.link) = .ok (placedLink config path ps) := by
    rw [htrimmed]
    exact endpoint_relativeLink hconfig hpath (hlink ▸ hplaced)
  have hpayment : isPayment config (placedLink config path ps) = true := decide_eq_true rfl
  have hbare : decode (placedLink config path ps).text config =
      .ok (.transaction { link := t.link }) :=
    (decode_placedLink hconfig hpath hothers).2 ⟨hlooks, by rw [hlink]⟩
  refine ⟨_, encode_of_endpoint hendpoint (.inl hpayment), ?_, ?_⟩
  · rw [isPayment, (Url.appendPairs_eq _ _).1]
    exact hpayment
  · refine (decode_appendPairs (written_of_endpoint hendpoint)).2 ⟨_, hbare, ?_⟩
    exact (filledFrom_link (presentText_eq_self hlabel) (presentText_eq_self hmessage) t.link).symm

/-- A host with a port, and a path with a letter beyond ASCII and a parameter, are read back. -/
theorem decode_encode_relative_of_port :
    PayConfig.HasOwnScheme {} ∧ RelativePath "localhost:3000/café".toList ∧
      looksLikeLink "localhost:3000/café".toList = true ∧
      ("localhost:3000/café".toList.getLast? ≠ some '/') ∧
      IsPlaced {} "localhost:3000/café?id=7" ∧
      ∃ w, Link.encode (.transaction
          { link := "localhost:3000/café?id=7", message := some "Tea" }) {} = .ok w ∧
        isPayment {} w = true ∧
        decode w.text {} =
          .ok (.transaction { link := "localhost:3000/café?id=7", message := some "Tea" }) := by
  have hconfig : PayConfig.HasOwnScheme {} := by decide
  have hpath : RelativePath "localhost:3000/café".toList :=
    ⟨Text.forall_mem_of_all (by decide), by decide⟩
  have hlooks : looksLikeLink "localhost:3000/café".toList = true := by decide
  have hlast : "localhost:3000/café".toList.getLast? ≠ some '/' := by decide
  have hplaced : IsPlaced {} "localhost:3000/café?id=7" :=
    .inr ⟨⟨"localhost".toList, none, .rootless "3000/caf%C3%A9".toList, some "id=7".toList, none⟩,
      by decide +kernel, rfl, by decide, by decide⟩
  have hlink : "localhost:3000/café?id=7" =
      relativeLink "localhost:3000/café".toList [("id".toList, "7".toList)] := by decide +kernel
  exact ⟨hconfig, hpath, hlooks, hlast, hplaced,
    decode_encode_relative hconfig hpath hlooks hlast (by decide) hlink hplaced (by decide)
      (by decide)⟩

end PayLink.Link.Transaction
