import PayLink.Proofs.Link.Annotations
import PayLink.Proofs.Link.Trimming
import PayLink.Proofs.Url.Flaws
/-!
# Hosts under the payment scheme

A link under the payment scheme may name a host and a port, and an endpoint may name them too, with
the scheme before it or without. They are read and written like those of any link, but the request
that is read from a link is made of its path and its parameters alone. Links with different hosts
therefore ask for the same endpoint, and an endpoint loses its host when it is written and read
again.
-/

namespace PayLink.Link

namespace Transaction

/-- A text without the slashes that are dropped before it is read. -/
def withoutSlashes (cs : List Char) : List Char :=
  dropLastSlash (dropSlashBeforeQuery cs)

/-- The slash that begins a text stays, unless it stands before a question mark. -/
theorem exists_dropSlashBeforeQuery_eq_cons {rest : List Char} (hslash : rest.head? = some '/') :
    ∃ c more, dropSlashBeforeQuery rest = c :: more ∧ (c = '/' ∨ c = '?') := by
  obtain ⟨cs, rfl⟩ := List.head?_eq_some_iff.1 hslash
  unfold dropSlashBeforeQuery
  split
  · exact ⟨_, _, rfl, .inr rfl⟩
  · rename_i hcons
    cases hcons
    exact ⟨_, _, rfl, .inl rfl⟩
  · rename_i hcons
    cases hcons

/-- What stands before a slash, without a question mark, loses none. -/
theorem trimmed_append {before rest : List Char} (hquestion : '?' ∉ before)
    (hslash : rest.head? = some '/') :
    trimmed (String.ofList (before ++ rest)) = String.ofList (before ++ withoutSlashes rest) := by
  have hhead : rest.head? ≠ some '?' := by
    rw [hslash]
    decide
  obtain ⟨c, more, hcons, -⟩ := exists_dropSlashBeforeQuery_eq_cons hslash
  have hne : dropSlashBeforeQuery rest ≠ [] := by
    rw [hcons]
    exact List.cons_ne_nil _ _
  rw [trimmed, String.toList_ofList, dropSlashBeforeQuery_append hquestion (.inr hhead),
    dropLastSlash_append_of_ne_nil before hne, withoutSlashes]

/-- What is left of a text that a slash begins has a front that a slash begins, or an empty one. -/
theorem front_withoutSlashes {rest : List Char} (hslash : rest.head? = some '/') :
    (Url.Tail.of (Url.cleanedEnd (withoutSlashes rest))).front = [] ∨
      (Url.Tail.of (Url.cleanedEnd (withoutSlashes rest))).front.head? = some '/' := by
  obtain ⟨c, more, hcons, hc⟩ := exists_dropSlashBeforeQuery_eq_cons hslash
  have hleft : withoutSlashes rest = [] ∨ ∃ more', withoutSlashes rest = c :: more' := by
    rw [withoutSlashes, hcons]
    by_cases hmore : more = []
    · rw [hmore, dropLastSlash]
      split
      · exact .inl rfl
      · exact .inr ⟨[], rfl⟩
    · exact .inr ⟨_, dropLastSlash_append_of_ne_nil [c] hmore⟩
  rcases hleft with hnil | ⟨more', hleft⟩
  · rw [hnil]
    exact .inl rfl
  · have hedge : Url.isEdge c = false := by
      rcases hc with rfl | rfl
      all_goals rfl
    rw [hleft, Url.cleanedEnd_cons hedge, Url.front_cons]
    rcases hc with rfl | rfl
    · exact .inr rfl
    · exact .inl rfl

/-- A text that a slash begins is an endpoint under the payment scheme, with the scheme before it or
without. -/
theorem endpoint_of_slash {config : PayConfig} {lead link : String} {u : Url}
    (hlead : lead = "" ∨ lead = config.scheme ++ ":") (hslash : link.toList.head? = some '/')
    (hparse : Url.parse (config.scheme ++ ":" ++ link) = .ok u) (hu : isPayment config u = true) :
    endpoint config (lead ++ link) = .ok u := by
  rw [endpoint]
  rcases hlead with rfl | rfl
  · rw [String.empty_append, Url.parse_eq_relative_of_slash hslash]
    exact parse_eq_ok_iff.2 hparse
  · rw [hparse]
    exact if_pos (by rw [hu]; rfl)

/-- The link under the payment scheme of an authority and what stands behind it. -/
def hostLink (config : PayConfig) (a : Authority) (rest : List Char) : Url :=
  let tail := Url.Tail.of (Url.cleanedEnd rest)
  { scheme := config.linkScheme
    authority := some a
    path := .rooted (Url.Path.afterAuthority .ordinary tail.front)
    query := tail.query.map (Url.Percent.encode Url.Percent.inQuery)
    fragment := tail.fragment.map (Url.Percent.encode Url.Percent.inFragment) }

/-- With parameters appended, a link has its authority, and the links of two authorities differ in
nothing else. -/
theorem appendPairs_hostLink (config : PayConfig) (a b : Authority) (rest : List Char)
    (ps : List Url.Form.Pair) :
    ((hostLink config a rest).appendPairs ps).authority = some a ∧
      (hostLink config b rest).appendPairs ps =
        ((hostLink config a rest).appendPairs ps).withAuthority b := by
  rw [Url.appendPairs, Url.appendPairs]
  split
  · exact ⟨rfl, rfl⟩
  · exact ⟨rfl, rfl⟩

section Host

variable {config : PayConfig} (hconfig : config.HasOwnScheme) {a : Authority}
  (ha : a.Written config.linkScheme)

include hconfig ha

/-- Under the payment scheme an authority is read, and what stands behind it. -/
theorem parse_hostLink {rest : List Char}
    (hrest : (Url.Tail.of (Url.cleanedEnd rest)).front = [] ∨
      (Url.Tail.of (Url.cleanedEnd rest)).front.head? = some '/') :
    Url.parse (config.scheme ++ ":" ++ String.ofList ('/' :: '/' :: a.text ++ rest)) =
      .ok (hostLink config a rest) := by
  have ho := hconfig.ordinary
  have hplain : ∀ c ∈ '/' :: '/' :: a.text, Url.isEdge c = false ∧ c ≠ '?' ∧ c ≠ '#' := by
    intro c hc
    rcases List.mem_cons.1 hc with rfl | hc
    · decide
    rcases List.mem_cons.1 hc with rfl | hc
    · decide
    obtain ⟨hcontrol, hmarks⟩ := ha.plain_of_mem hc
    have hne : ∀ d, d = ' ' ∨ d = '?' ∨ d = '#' → c ≠ d := by
      rintro d hd rfl
      rcases hd with rfl | rfl | rfl
      all_goals exact absurd hmarks (by decide)
    exact ⟨Url.isEdge_of_isControl hcontrol (hne ' ' (.inl rfl)), hne '?' (.inr (.inl rfl)),
      hne '#' (.inr (.inr rfl))⟩
  have hs := hconfig.splitScheme?_cleaned (String.ofList ('/' :: '/' :: a.text ++ rest))
  rw [String.toList_ofList, Url.cleanedEnd_append fun c hc => (hplain c hc).1] at hs
  have htail := Url.tail_append (fun hm => (hplain _ hm).2.1 rfl) (fun hm => (hplain _ hm).2.2 rfl)
    (Url.cleanedEnd rest)
  have hrule : Url.queryRule config.linkScheme = Url.Percent.inQuery := by
    rw [Url.queryRule, ho]
    rfl
  rw [Url.parse, Url.ofCleaned_eq_ok_iff hs, htail, hrule]
  refine ⟨?_, rfl, rfl, rfl⟩
  rw [List.cons_append, List.cons_append, Url.readFront_behind hconfig.ne_file ha hrest, ho]
  exact ⟨Url.keepsHost_of_ordinary ho ha, rfl, rfl⟩

/-- An endpoint on a host is written with its authority, whether the payment scheme stands before it
or not. -/
theorem encode_hostLink {lead rest : String} (hlead : lead = "" ∨ lead = config.scheme ++ ":")
    (hslash : rest.toList.head? = some '/') (t : TransactionRequest) :
    Link.encode (.transaction { t with link := lead ++ "//" ++ String.ofList a.text ++ rest })
        config =
      .ok ((hostLink config a (withoutSlashes rest.toList)).appendPairs (pairs t)) := by
  have hmark : '?' ∉ lead.toList ++ '/' :: '/' :: a.text := by
    intro hm
    rcases List.mem_append.1 hm with hm | hm
    · rcases hlead with rfl | rfl
      · cases hm
      · rw [String.toList_append] at hm
        rcases List.mem_append.1 hm with hm | hm
        · exact absurd (Url.isSchemeChar_of_mem hconfig.isScheme hm) (by decide)
        · exact absurd hm (by decide)
    · rcases List.mem_cons.1 hm with hm | hm
      · exact absurd hm (by decide)
      rcases List.mem_cons.1 hm with hm | hm
      · exact absurd hm (by decide)
      · exact absurd (ha.plain_of_mem hm).2 (by decide)
  have htext : lead ++ "//" ++ String.ofList a.text ++ rest =
      String.ofList ((lead.toList ++ '/' :: '/' :: a.text) ++ rest.toList) := by
    refine String.toList_inj.1 ?_
    simp [String.toList_append]
  have htrimmed : trimmed (lead ++ "//" ++ String.ofList a.text ++ rest) =
      lead ++ String.ofList ('/' :: '/' :: a.text ++ withoutSlashes rest.toList) := by
    rw [htext, trimmed_append hmark hslash]
    refine String.toList_inj.1 ?_
    simp [String.toList_append]
  have hparse := parse_hostLink hconfig ha (front_withoutSlashes hslash)
  have hpayment : isPayment config (hostLink config a (withoutSlashes rest.toList)) = true :=
    decide_eq_true rfl
  have hhead : (String.ofList ('/' :: '/' :: a.text ++ withoutSlashes rest.toList)).toList.head? =
      some '/' := by
    rw [String.toList_ofList]
    rfl
  have hendpoint := endpoint_of_slash hlead hhead hparse hpayment
  rw [← htrimmed] at hendpoint
  exact encode_of_endpoint (t := { t with link := _ }) hendpoint (.inl hpayment)

end Host

end Transaction

open Transaction (hostLink appendPairs_hostLink withoutSlashes relativeLink others pairs)

/-- An authority that a link under the payment scheme can have. -/
def IsAuthority (config : PayConfig) (a : Authority) : Prop :=
  ∃ s u, Url.parse s = .ok u ∧ isPayment config u = true ∧ u.authority = some a

/-- What is read as a transaction under the payment scheme has for its link the path without escapes
and the parameters that are no annotations. -/
theorem link_of_decode {config : PayConfig} (hconfig : config.HasOwnScheme) {s : String} {u : Url}
    (hparse : Url.parse s = .ok u) (hu : isPayment config u = true) {t : TransactionRequest}
    (h : decode s config = .ok (.transaction t)) :
    ∃ path, Text.Utf8.decode (Url.Percent.decode u.path.text) = .ok path ∧
      t.link = relativeLink path (others u.pairs) := by
  obtain ⟨path, hpath, hrequest⟩ := (decode_eq_ok_iff_of_isPayment hconfig hparse hu).1 h
  refine ⟨path, hpath, ?_⟩
  unfold ofPayment at hrequest
  split at hrequest
  · cases hrequest
    rfl
  · obtain ⟨r, -, hr⟩ := map_eq_ok_iff.1 hrequest
    cases hr

section Forgotten

variable {config : PayConfig} (hconfig : config.HasOwnScheme)

include hconfig

/-- The authority of a link under a payment scheme of its own is written. -/
theorem written_of_isAuthority {a : Authority} (h : IsAuthority config a) :
    a.Written config.linkScheme := by
  obtain ⟨s, u, hparse, hu, ha⟩ := h
  have hscheme : u.scheme = config.linkScheme := of_decide_eq_true hu
  have hfront := (Url.written_of_parse hparse).front
  rw [ha, hscheme] at hfront
  generalize u.path = path at hfront
  cases hfront with
  | behind _ hwritten => exact hwritten
  | file hfile =>
    rw [hconfig.ordinary] at hfile
    cases hfile

/-- A link with an authority can have any other one. -/
theorem parse_withAuthority {s : String} {u : Url} {a b : Authority}
    (hparse : Url.parse s = .ok u) (hu : isPayment config u = true) (ha : u.authority = some a)
    (hb : IsAuthority config b) :
    Url.parse (u.withAuthority b).text = .ok (u.withAuthority b) := by
  have hscheme : u.scheme = config.linkScheme := of_decide_eq_true hu
  have ho : SchemeKind.of u.scheme = .ordinary := hscheme ▸ hconfig.ordinary
  have hfile : SchemeKind.of u.scheme ≠ .file := hscheme ▸ hconfig.ne_file
  have hwritten : b.Written u.scheme := hscheme ▸ written_of_isAuthority hconfig hb
  have hother := (Url.written_of_parse hparse).withAuthority ha hfile hwritten
  have hkeeps : (u.withAuthority b).KeepsHost :=
    (Url.keepsHost_iff rfl).2 (Url.keepsHost_of_ordinary ho hwritten)
  exact (hother.parse_text_eq_ok_iff hfile).2 ⟨hkeeps, rfl⟩

/-- The link of an endpoint on a host is read as it was written. -/
theorem parse_text_hostLink {a : Authority} (ha : a.Written config.linkScheme) {rest : List Char}
    (hslash : rest.head? = some '/') (ps : List Url.Form.Pair) :
    Url.parse ((hostLink config a (withoutSlashes rest)).appendPairs ps).text =
      .ok ((hostLink config a (withoutSlashes rest)).appendPairs ps) := by
  have hparse := Transaction.parse_hostLink hconfig ha (Transaction.front_withoutSlashes hslash)
  have hkeeps : (hostLink config a (withoutSlashes rest)).KeepsHost :=
    (Url.keepsHost_iff rfl).2 (Url.keepsHost_of_ordinary hconfig.ordinary ha)
  have hwritten := Url.written_of_parse hparse
  exact hwritten.parse_text_appendPairs.2
    ⟨_, (hwritten.parse_text_eq_ok_iff hconfig.ne_file).2 ⟨hkeeps, rfl⟩, rfl⟩

/-- Links under a payment scheme of its own that differ in their host, their port or their user name
alone are read as the same request, and every link has such partners: its link is made of the path
and the parameters. An endpoint on a host is written with the host, with the scheme before it or
without, and what is read again then is the same for every host. -/
theorem decode_iff_of_authorities {a b : Authority} (ha : IsAuthority config a)
    (hb : IsAuthority config b) :
    (∀ s u, Url.parse s = .ok u → isPayment config u = true → u.authority = some a →
      (∀ t, decode s config = .ok (.transaction t) →
        ∃ path, Text.Utf8.decode (Url.Percent.decode u.path.text) = .ok path ∧
          t.link = relativeLink path (others u.pairs)) ∧
      Url.parse (u.withAuthority b).text = .ok (u.withAuthority b) ∧
      ∀ s', Url.parse s' = .ok (u.withAuthority b) → ∀ request,
        decode s config = .ok request ↔ decode s' config = .ok request) ∧
    ∀ (lead rest : String) (t : TransactionRequest), (lead = "" ∨ lead = config.scheme ++ ":") →
      rest.toList.head? = some '/' → ∃ u,
        encode (.transaction { t with link := lead ++ "//" ++ String.ofList a.text ++ rest })
            config = .ok u ∧
          encode (.transaction { t with link := lead ++ "//" ++ String.ofList b.text ++ rest })
            config = .ok (u.withAuthority b) ∧
          u.authority = some a ∧ ∀ request,
            decode u.text config = .ok request ↔
              decode (u.withAuthority b).text config = .ok request := by
  have hsame : ∀ s u s', Url.parse s = .ok u → isPayment config u = true →
      Url.parse s' = .ok (u.withAuthority b) → ∀ request,
        decode s config = .ok request ↔ decode s' config = .ok request :=
    fun s u s' hparse hu hparse' =>
      decode_iff_of_same_path hconfig hparse hparse' hu rfl rfl rfl
  refine ⟨fun s u hparse hu hauthority => ⟨fun t ht => link_of_decode hconfig hparse hu ht,
    parse_withAuthority hconfig hparse hu hauthority hb,
    fun s' hparse' => hsame s u s' hparse hu hparse'⟩, ?_⟩
  intro lead rest t hlead hslash
  have hwritten := written_of_isAuthority hconfig ha
  have hwritten' := written_of_isAuthority hconfig hb
  have hread := parse_text_hostLink hconfig hwritten hslash (pairs t)
  have hread' := parse_text_hostLink hconfig hwritten' hslash (pairs t)
  have hwrite := Transaction.encode_hostLink hconfig hwritten hlead hslash t
  have hwrite' := Transaction.encode_hostLink hconfig hwritten' hlead hslash t
  obtain ⟨hauthority, hother⟩ :=
    appendPairs_hostLink config a b (withoutSlashes rest.toList) (pairs t)
  rw [hother] at hread' hwrite'
  have hpayment : isPayment config
      ((hostLink config a (withoutSlashes rest.toList)).appendPairs (pairs t)) = true := by
    rw [isPayment, (Url.appendPairs_eq _ _).1]
    exact decide_eq_true rfl
  exact ⟨_, hwrite, hwrite', hauthority, hsame _ _ _ hread hpayment hread'⟩

end Forgotten

/-- A link to a host is read as what a link to another host and port asks for. -/
theorem decode_iff_of_two_hosts :
    PayConfig.HasOwnScheme {} ∧
      IsAuthority {} ⟨[], "merchant.example".toList, none⟩ ∧
      IsAuthority {} ⟨[], "other.example".toList, some 8080⟩ ∧
      decode "trezoa://merchant.example/pay?id=7" {} =
        .ok (.transaction { link := "/pay?id=7" }) ∧
      decode "trezoa://other.example:8080/pay?id=7" {} =
        .ok (.transaction { link := "/pay?id=7" }) := by
  have hconfig : PayConfig.HasOwnScheme {} := by decide
  have hparse : Url.parse "trezoa://merchant.example/pay?id=7" =
      .ok ⟨"trezoa".toList, some ⟨[], "merchant.example".toList, none⟩, .rooted ["pay".toList],
        some "id=7".toList, none⟩ := by
    decide +kernel
  have hother : Url.parse "trezoa://other.example:8080/pay?id=7" =
      .ok ⟨"trezoa".toList, some ⟨[], "other.example".toList, some 8080⟩, .rooted ["pay".toList],
        some "id=7".toList, none⟩ := by
    decide +kernel
  have ha : IsAuthority {} ⟨[], "merchant.example".toList, none⟩ := ⟨_, _, hparse, by decide, rfl⟩
  have hb : IsAuthority {} ⟨[], "other.example".toList, some 8080⟩ :=
    ⟨_, _, hother, by decide, rfl⟩
  have hread : decode "trezoa://merchant.example/pay?id=7" {} =
      .ok (.transaction { link := "/pay?id=7" }) := by
    decide +kernel
  obtain ⟨-, -, hsame⟩ :=
    (decode_iff_of_authorities hconfig ha hb).1 _ _ hparse (by decide) rfl
  exact ⟨hconfig, ha, hb, hread, (hsame _ hother _).1 hread⟩

/-- Two hosts with the same path give the same link, and an endpoint on a host, with the scheme
before it or without, comes back as its path alone. -/
theorem decode_forgets_host :
    decode "trezoa://merchant.example/pay" {} = .ok (.transaction { link := "/pay" }) ∧
      decode "trezoa://other.example:8080/pay" {} = .ok (.transaction { link := "/pay" }) ∧
      ∀ link ∈ ["//merchant.example/pay", "//other.example:8080/pay",
          "trezoa://merchant.example/pay", "trezoa://other.example:8080/pay"],
        (encode (.transaction { link := link }) {} >>= fun u => decode u.text {}) =
          .ok (.transaction { link := "/pay" }) := by
  decide +kernel

end PayLink.Link
