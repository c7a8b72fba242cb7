import PayLink.Proofs.Link.Annotations
import PayLink.Proofs.Link.Trimming
import PayLink.Proofs.Url.Flaws
/-!
# Web links

The endpoint of a transaction may be a web link. Of its text only a slash before the query or at the
end is dropped before it is read, and where that is the slash of the root, it is read all the same.
A web link without annotations of its own therefore comes back as it was, with the annotations of
the transaction, unless it loses another slash.
-/

namespace PayLink.Link.Transaction

open Url (Form.Pair)

/-- The query of parameters; no parameters make no query. -/
def queryOf (ps : List Form.Pair) : Option (List Char) :=
  if ps.isEmpty then none else some (Url.Form.write ps)

/-- The parameters of a query are those that it is made of. -/
theorem pairs_of_query {u : Url} {ps : List Form.Pair} (h : u.query = queryOf ps) :
    u.pairs = ps := by
  rw [Url.pairs, h, queryOf]
  split
  · rename_i hnil
    rw [List.isEmpty_iff.1 hnil]
    rfl
  · exact Url.Form.read_write ps

/-- What stands in the query of parameters is written as it is. -/
theorem isWritten_of_mem_queryOf {ps : List Form.Pair} {q : List Char} (h : queryOf ps = some q)
    {c : Char} (hc : c ∈ q) : Url.Form.isWritten c = true := by
  unfold queryOf at h
  split at h
  · cases h
  · rw [← Option.some.inj h] at hc
    exact Url.Form.isWritten_of_mem_write hc

/-- Nothing in the query of parameters is escaped. -/
theorem inQuery_of_mem_queryOf {ps : List Form.Pair} {q : List Char} (h : queryOf ps = some q)
    {c : Char} (hc : c ∈ q) : Url.Percent.inQuery c = false :=
  Url.inQuery_of_isWritten (isWritten_of_mem_queryOf h hc)

/-- No question mark and no slash stands in the query of parameters. -/
theorem not_mem_queryOf {ps : List Form.Pair} {q : List Char} (h : queryOf ps = some q) :
    '?' ∉ q ∧ '/' ∉ q :=
  ⟨fun hm => absurd (isWritten_of_mem_queryOf h hm) (by decide),
    fun hm => absurd (isWritten_of_mem_queryOf h hm) (by decide)⟩

/-- A parameter is no annotation exactly if it is neither a label nor a message. -/
theorem annotates_eq_false_iff {p : Form.Pair} :
    annotates p = false ↔ p.1 ≠ labelKey ∧ p.1 ≠ messageKey := by
  rw [annotates, Bool.or_eq_false_iff, decide_eq_false_iff_not, decide_eq_false_iff_not]

/-- The other parameters are no annotations. -/
theorem annotates_of_mem_others {ps : List Form.Pair} {p : Form.Pair} (h : p ∈ others ps) :
    annotates p = false := by
  simpa using (List.mem_filter.1 h).2

/-- Parameters that are no annotations all stay, and hold neither a label nor a message. -/
theorem others_eq_self {ps : List Form.Pair} (h : ∀ p ∈ ps, annotates p = false) :
    others ps = ps ∧ firstText labelKey ps = none ∧ firstText messageKey ps = none := by
  have hnone : ∀ key, (key = labelKey ∨ key = messageKey) → firstText key ps = none := by
    intro key hkey
    have hfind : (ps.find? fun p => p.1 = key && !p.2.isEmpty) = none := by
      refine List.find?_eq_none.2 fun p hp hfound => ?_
      have hp1 : p.1 = key := by
        rw [Bool.and_eq_true, decide_eq_true_eq] at hfound
        exact hfound.1
      have hno := annotates_eq_false_iff.1 (h p hp)
      rcases hkey with hkey | hkey
      · exact hno.1 (hp1.trans hkey)
      · exact hno.2 (hp1.trans hkey)
    rw [firstText, hfind]
    rfl
  refine ⟨List.filter_eq_self.2 fun p hp => ?_, hnone _ (.inl rfl), hnone _ (.inr rfl)⟩
  rw [h p hp]
  rfl

/-- A web link without annotations asks for itself. -/
theorem ofWeb_eq {u : Url} {ps : List Form.Pair} (hquery : u.query = queryOf ps)
    (h : ∀ p ∈ ps, annotates p = false) : ofWeb u = { link := u.text } := by
  obtain ⟨hothers, hlabel, hmessage⟩ := others_eq_self h
  have hwith : u.withPairs ps = u := by
    change { u with query := queryOf ps } = u
    rw [← hquery]
  rw [ofWeb, pairs_of_query hquery, hothers, hwith, annotated, hlabel, hmessage]

/-- The scheme of a web link leads to a host. -/
theorem special_of_isWeb {u : Url} (h : isWeb u = true) :
    SchemeKind.of u.scheme = .special := by
  have hscheme : u.scheme = webScheme := of_decide_eq_true h
  rw [hscheme]
  decide

/-- The scheme of a web link does not lead to a file. -/
theorem ne_file_of_isWeb {u : Url} (h : isWeb u = true) : SchemeKind.of u.scheme ≠ .file := by
  rw [special_of_isWeb h]
  decide

/-- A web link has an authority, and segments behind it. -/
theorem exists_authority {u : Url} (h : u.Written) (hspecial : SchemeKind.of u.scheme = .special) :
    ∃ a s ss, u.authority = some a ∧ u.path = .rooted (s :: ss) ∧ a.Written u.scheme ∧
      ∀ x ∈ s :: ss, Url.Path.IsSegment .special x := by
  have hfront := h.front
  generalize u.authority = authority at hfront
  generalize u.path = path at hfront
  cases hfront with
  | rootless ho =>
    rw [hspecial] at ho
    cases ho
  | rooted ho =>
    rw [hspecial] at ho
    cases ho
  | @behind a segments _ hwritten hsegment hne =>
    rw [hspecial] at hsegment hne
    obtain ⟨s, ss, hcons⟩ := List.exists_cons_of_ne_nil (hne rfl)
    rw [hcons] at hsegment ⊢
    exact ⟨a, s, ss, rfl, rfl, hwritten, hsegment⟩
  | file hfile =>
    rw [hspecial] at hfile
    cases hfile

/-- What is left of the path of a web link is empty or begins with a slash. -/
theorem Trimmed.head?_path {s : List Char} {ss : List (List Char)} {pathText : List Char}
    {fragment fragment' : Option (List Char)}
    (h : Trimmed (LinkPath.rooted (s :: ss)).text fragment pathText fragment') :
    pathText = [] ∨ pathText.head? = some '/' := by
  have htext : (LinkPath.rooted (s :: ss)).text = ['/'] ++ (s ++ (LinkPath.rooted ss).text) := rfl
  rcases h.front_eq with hsame | hdrop
  · rw [hsame]
    exact .inr rfl
  · rw [hdrop, htext]
    by_cases hrest : s ++ (LinkPath.rooted ss).text = []
    · rw [hrest]
      exact .inl rfl
    · rw [dropLastSlash_append_of_ne_nil _ hrest]
      exact .inr rfl

/-- A link with what is left of its path and fragment. The path need not be one of segments. -/
def leftOf (u : Url) (pathText : List Char) (fragment : Option (List Char)) : Url :=
  { u with path := .rootless pathText, fragment := fragment }

section Left

variable {u : Url} (h : u.Written) (hspecial : SchemeKind.of u.scheme = .special)

include h hspecial

/-- Nothing in the front of a web link ends it. -/
theorem plain_of_mem_front {c : Char} (hc : c ∈ u.front) :
    Url.Percent.isControl c = false ∧ c ≠ ' ' ∧ c ≠ '?' ∧ c ≠ '#' := by
  obtain ⟨_, _, _, -, hpath, -⟩ := exists_authority h hspecial
  exact Url.plain_of_mem_front_rooted h.front hpath hc

/-- The slashes of a web link are dropped from its path and its fragment. -/
theorem exists_leftOf (hquery : ∀ q, u.query = some q → '?' ∉ q ∧ '/' ∉ q) :
    ∃ pathText fragment, Trimmed u.path.text u.fragment pathText fragment ∧
      trimmed u.text = (leftOf u pathText fragment).text := by
  obtain ⟨a, s, ss, hauthority, hpath, -⟩ := exists_authority h hspecial
  have hchars : ∀ v : Url, v.authority = some a → v.scheme = u.scheme →
      v.chars = (u.scheme ++ ':' :: '/' :: '/' :: a.text) ++ v.path.text ++
        Url.marked '?' v.query ++ Url.marked '#' v.fragment := by
    intro v hv hscheme
    rw [Url.chars, Url.lead, hv, hscheme]
  have hquestion : '?' ∉ (u.scheme ++ ':' :: '/' :: '/' :: a.text) ++ u.path.text := by
    intro hm
    rw [List.append_assoc, List.cons_append, List.cons_append, List.cons_append,
      ← Url.front_of_authority hauthority] at hm
    rcases List.mem_append.1 hm with hm | hm
    · exact absurd (Url.isSchemeChar_of_mem h.legible.isScheme hm) (by decide)
    · rcases List.mem_cons.1 hm with hm | hm
      · exact absurd hm (by decide)
      · exact (plain_of_mem_front h hspecial hm).2.2.1 rfl
  have hne : u.path.text ≠ [] := by
    rw [hpath]
    exact List.cons_ne_nil _ _
  obtain ⟨front, fragment, htrimmed, htext⟩ := trimmed_parts hquestion hquery u.fragment
  obtain ⟨pathText, rfl, hleft⟩ := htrimmed.exists_append hne
  refine ⟨pathText, fragment, hleft, ?_⟩
  rw [Url.text, hchars u hauthority rfl, htext, Url.text,
    hchars (leftOf u pathText fragment) hauthority rfl]
  rfl

variable {pathText : List Char} {fragment : Option (List Char)}
  (hleft : Trimmed u.path.text u.fragment pathText fragment)

include hleft

/-- Nothing new stands in the front of what is left of a web link. -/
theorem mem_front_of_mem_leftOf {c : Char} (hc : c ∈ (leftOf u pathText fragment).front) :
    c ∈ u.front := by
  obtain ⟨a, _, _, hauthority, -⟩ := exists_authority h hspecial
  have hpathKept : ∀ d ∈ pathText, d ∈ u.path.text := by
    intro d hd
    rcases hleft.front_eq with hsame | hdrop
    · exact hsame ▸ hd
    · exact mem_of_mem_dropLastSlash (hdrop ▸ hd)
  have hauthority' : (leftOf u pathText fragment).authority = some a := hauthority
  rw [Url.front_of_authority hauthority', ← List.cons_append, ← List.cons_append] at hc
  rw [Url.front_of_authority hauthority, ← List.cons_append, ← List.cons_append]
  rcases List.mem_append.1 hc with hc | hc
  · exact List.mem_append_left _ hc
  · exact List.mem_append_right _ (hpathKept c hc)

/-- What is left of a web link is legible. -/
theorem legible_leftOf : (leftOf u pathText fragment).Legible where
  isScheme := h.legible.isScheme
  lower := h.legible.lower
  front c hc := h.legible.front c (mem_front_of_mem_leftOf h hspecial hleft hc)
  noSpace _ _ hlast := by
    have hspace := mem_front_of_mem_leftOf h hspecial hleft (List.mem_of_getLast? hlast)
    exact (plain_of_mem_front h hspecial hspace).2.1 rfl
  query := h.legible.query
  fragment f hf c hc := by
    obtain ⟨given, hgiven, hsubset⟩ := hleft.subset f hf
    exact h.legible.fragment given hgiven c (hsubset c hc)

/-- What is left of a web link is read as it was written, if its host is. -/
theorem parse_leftOf {b : Url} :
    Url.parse (leftOf u pathText fragment).text = .ok b ↔ u.KeepsHost ∧
      b = { u with path := .rooted (Url.Path.afterAuthority .special pathText)
                   fragment := fragment } := by
  obtain ⟨a, s, ss, hauthority, hpath, hwritten, -⟩ := exists_authority h hspecial
  have hfile : SchemeKind.of u.scheme ≠ .file := by
    rw [hspecial]
    decide
  have hstart : pathText = [] ∨ pathText.head? = some '/' := by
    rw [hpath] at hleft
    exact hleft.head?_path
  have hkeeps : (leftOf u pathText fragment).KeepsHost ↔ u.KeepsHost := by
    rw [Url.keepsHost_iff hauthority]
    exact Url.keepsHost_iff (u := leftOf u pathText fragment) hauthority
  rw [Url.parse_text_of_authority (legible_leftOf h hspecial hleft) hfile hauthority hwritten
    hstart, hkeeps, ← hspecial]
  rfl

end Left

/-- Segments end with a slash only if the last one is empty. Without that slash other segments are
read, unless it is the slash of the root. -/
theorem root_or_noSlash_of_text_eq {segments : List (List Char)}
    (h : ∀ s ∈ segments, Url.Path.IsSegment .special s)
    (hsame : (LinkPath.rooted (Url.Path.afterAuthority .special
      (dropLastSlash (LinkPath.rooted segments).text))).text = (LinkPath.rooted segments).text) :
    (LinkPath.rooted segments).text = ['/'] ∨
      (LinkPath.rooted segments).text.getLast? ≠ some '/' := by
  rcases List.eq_nil_or_concat' segments with rfl | ⟨front, last, rfl⟩
  · exact .inr (by decide)
  have htext : (LinkPath.rooted (front ++ [last])).text =
      (LinkPath.rooted front).text ++ '/' :: last := by
    rw [LinkPath.text, List.flatMap_append, List.flatMap_singleton]
    rfl
  cases last with
  | cons c cs =>
    refine .inr fun hlast => ?_
    have hmem : '/' ∈ c :: cs := by
      rw [htext, List.getLast?_append, List.getLast?_cons_cons, List.getLast?_cons, Option.some_or,
        ← List.getLast?_cons] at hlast
      exact List.mem_of_getLast? hlast
    have hwhole := (h _ (List.mem_append_right _ List.mem_cons_self)).whole _ hmem
    exact absurd hwhole (by decide)
  | nil =>
    by_cases hfront : front = []
    · rw [hfront]
      exact .inl rfl
    · have hlast : (LinkPath.rooted (front ++ [[]])).text.getLast? = some '/' := by
        rw [htext, List.getLast?_append]
        rfl
      have hdrop : dropLastSlash (LinkPath.rooted (front ++ [[]])).text =
          (LinkPath.rooted front).text := by
        rw [dropLastSlash, if_pos hlast, htext, List.dropLast_concat]
      have hread : Url.Path.afterAuthority .special (LinkPath.rooted front).text = front :=
        Url.Path.afterAuthority_text (fun s hs => h s (List.mem_append_left _ hs)) fun _ => hfront
      rw [hdrop, hread, htext] at hsame
      exact absurd (List.append_right_eq_self.1 hsame.symm) (List.cons_ne_nil _ _)

section Trimmed

variable {u : Url} (h : u.Written) (hspecial : SchemeKind.of u.scheme = .special)
  (hquery : ∀ q, u.query = some q → '?' ∉ q ∧ '/' ∉ q)

include h hspecial hquery

/-- A web link whose slashes are dropped is read as it was written, with what is left of its path
and fragment, if its host is. -/
theorem parse_trimmed_text :
    ∃ pathText fragment, Trimmed u.path.text u.fragment pathText fragment ∧
      ∀ b, Url.parse (trimmed u.text) = .ok b ↔ u.KeepsHost ∧
        b = { u with path := .rooted (Url.Path.afterAuthority .special pathText)
                     fragment := fragment } := by
  obtain ⟨pathText, fragment, hleft, htext⟩ := exists_leftOf h hspecial hquery
  refine ⟨pathText, fragment, hleft, fun b => ?_⟩
  rw [htext]
  exact parse_leftOf h hspecial hleft

/-- A web link whose slashes are dropped is not refused as relative. -/
theorem parse_trimmed_text_ne_relative : Url.parse (trimmed u.text) ≠ .error .relative := by
  obtain ⟨pathText, fragment, hleft, htext⟩ := exists_leftOf h hspecial hquery
  have hlegible := legible_leftOf h hspecial hleft
  rw [htext, Ne, Url.parse_eq_relative_iff, Url.splitScheme?_text hlegible.isScheme hlegible.lower]
  exact Option.some_ne_none _

/-- A web link whose path is the root or ends with no slash is read as it was when slashes are
dropped. -/
theorem parse_trimmed_text_eq_self (hfragment : u.fragment = none)
    (hpath : u.path.text = ['/'] ∨ u.path.text.getLast? ≠ some '/') {b : Url} :
    Url.parse (trimmed u.text) = .ok b ↔ u.KeepsHost ∧ b = u := by
  obtain ⟨pathText, fragment, hleft, hparse⟩ := parse_trimmed_text h hspecial hquery
  obtain ⟨hnone, htext⟩ := hleft.without hfragment
  obtain ⟨a, s, ss, -, hsegments, -, hsegment⟩ := exists_authority h hspecial
  have hread : Url.Path.afterAuthority .special u.path.text = s :: ss := by
    rw [hsegments]
    exact Url.Path.afterAuthority_text hsegment fun _ => List.cons_ne_nil _ _
  have hagain : Url.Path.afterAuthority .special pathText = s :: ss := by
    rw [htext, ← hread]
    rcases hpath with hroot | hlast
    · rw [hroot]
      decide
    · rw [dropLastSlash, if_neg hlast]
  rw [hparse, hagain, ← hsegments, hnone, ← hfragment]

/-- A web link without a fragment is read as one with the same text when slashes are dropped only if
its path is the root or ends with no slash. -/
theorem root_or_noSlash_of_parse_trimmed_text (hfragment : u.fragment = none) {b : Url}
    (hparse : Url.parse (trimmed u.text) = .ok b) (htext : b.text = u.text) :
    u.path.text = ['/'] ∨ u.path.text.getLast? ≠ some '/' := by
  obtain ⟨pathText, fragment, hleft, hread⟩ := parse_trimmed_text h hspecial hquery
  obtain ⟨hnone, hpathText⟩ := hleft.without hfragment
  obtain ⟨a, s, ss, hauthority, hpath, -, hsegment⟩ := exists_authority h hspecial
  obtain ⟨-, hb⟩ := (hread b).1 hparse
  rw [hnone, ← hfragment] at hb
  have hbauthority : b.authority = some a := by
    rw [hb]
    exact hauthority
  have hparts : b.scheme = u.scheme ∧ b.query = u.query ∧ b.fragment = u.fragment := by
    rw [hb]
    exact ⟨rfl, rfl, rfl⟩
  have hfront : b.front = u.front := by
    have hchars : b.chars = u.chars := String.ofList_injective htext
    rw [Url.chars_eq_behind, Url.chars_eq_behind, Url.behind, Url.behind, hparts.1, hparts.2.1,
      hparts.2.2] at hchars
    have hbehind := (List.cons.inj (List.append_cancel_left hchars)).2
    exact List.append_cancel_right (List.append_cancel_right hbehind)
  have hsame : b.path.text = u.path.text := by
    rw [Url.front_of_authority hbauthority, Url.front_of_authority hauthority] at hfront
    exact List.append_cancel_left (List.cons.inj (List.cons.inj hfront).2).2
  rw [hb, hpathText, hpath] at hsame
  rw [hpath]
  exact root_or_noSlash_of_text_eq hsegment hsame

end Trimmed

/-- A text that is not empty is present. -/
theorem presentText_eq_self {s : Option String} (h : s ≠ some "") : presentText s = s := by
  cases s with
  | none => rfl
  | some t =>
    have hne : t.isEmpty = false := by
      refine eq_false_of_ne_true fun he => h ?_
      rw [String.isEmpty_iff.1 he]
    simp [presentText, Option.filter, hne]

/-- A request that says nothing but its link is filled with all annotations of another one. -/
theorem filledFrom_link {t : TransactionRequest} (hlabel : presentText t.label = t.label)
    (hmessage : presentText t.message = t.message) (link : String) :
    filledFrom { link := link } t = { t with link := link } := by
  rw [filledFrom, hlabel, hmessage, Option.none_or, Option.none_or]

/-- A web link that is read as itself and has no annotations is read as one that asks for itself. -/
theorem decode_text_of_isWeb {config : PayConfig} {u : Url} {ps : List Form.Pair}
    (hread : Url.parse u.text = .ok u) (hweb : isWeb u = true) (hquery : u.query = queryOf ps)
    (hothers : ∀ p ∈ ps, annotates p = false) {b : TransactionRequest} :
    decode u.text config = .ok (.transaction b) ↔ b = { link := u.text } := by
  have hown : decode u.text config = .ok (.transaction { link := u.text }) := by
    rw [← ofWeb_eq hquery hothers]
    exact decode_eq_transaction_iff.2 ⟨u, hread, .web hweb⟩
  rw [hown]
  simp only [Except.ok.injEq, PaymentRequest.transaction.injEq, eq_comm]

/-- An endpoint is read from its link, unless the link is refused as relative. -/
theorem exists_parse_of_ne_relative {config : PayConfig} {link : String} {base : Url}
    (h : endpoint config link = .ok base) (hlink : Url.parse link ≠ .error .relative) :
    ∃ b, Url.parse link = .ok b := by
  cases hread : Url.parse link with
  | ok b => exact ⟨b, rfl⟩
  | error flaw =>
    rw [endpoint, hread] at h
    cases flaw with
    | relative => exact absurd hread hlink
    | _ => cases h

/-- A web link is its own endpoint. -/
theorem endpoint_of_isWeb {config : PayConfig} {link : String} {u : Url}
    (hparse : Url.parse link = .ok u) (hweb : isWeb u = true) : endpoint config link = .ok u := by
  rw [endpoint, hparse]
  exact if_pos (by rw [hweb, Bool.or_true, Bool.true_or])

/-- The endpoint of a transaction can be a web link that is read as itself. If it has no fragment,
no annotations of its own and no slash at the end of its path but that of the root, the transaction
is read back from its link. -/
theorem decode_encode_web {config : PayConfig} {u : Url} {ps : List Form.Pair}
    {t : TransactionRequest} (hread : Url.parse u.text = .ok u) (hweb : isWeb u = true)
    (hfragment : u.fragment = none)
    (hpath : u.path.text = ['/'] ∨ u.path.text.getLast? ≠ some '/')
    (hquery : u.query = queryOf ps) (hothers : ∀ p ∈ ps, annotates p = false)
    (hlink : t.link = u.text) (hlabel : t.label ≠ some "") (hmessage : t.message ≠ some "") :
    ∃ w, Link.encode (.transaction t) config = .ok w ∧
      decode w.text config = .ok (.transaction t) := by
  have hwritten := Url.written_of_parse hread
  have hspecial := special_of_isWeb hweb
  have hfile : SchemeKind.of u.scheme ≠ .file := by
    rw [hspecial]
    decide
  have hkeeps : u.KeepsHost := ((hwritten.parse_text_eq_ok_iff hfile).1 hread).1
  have hmarks : ∀ q, u.query = some q → '?' ∉ q ∧ '/' ∉ q := fun q hq =>
    not_mem_queryOf (hquery.symm.trans hq)
  have hparse : Url.parse (trimmed t.link) = .ok u := by
    rw [hlink]
    exact (parse_trimmed_text_eq_self hwritten hspecial hmarks hfragment hpath).2 ⟨hkeeps, rfl⟩
  have hbare : decode u.text config = .ok (.transaction { link := t.link }) :=
    (decode_text_of_isWeb hread hweb hquery hothers).2 (by rw [hlink])
  refine ⟨_, encode_of_endpoint (endpoint_of_isWeb hparse hweb) (.inr hweb),
    (decode_appendPairs hwritten).2 ⟨_, hbare, ?_⟩⟩
  exact (filledFrom_link (presentText_eq_self hlabel) (presentText_eq_self hmessage) t.link).symm

/-- The link of an endpoint on a host, with a port, a path and a parameter. -/
def exampleEndpoint : Url where
  scheme := "https".toList
  authority := some ⟨[], "example.com".toList, some 8443⟩
  path := .rooted ["pay".toList]
  query := some "id=7".toList
  fragment := none

/-- The transaction of that endpoint, with a label, is read back from its link. -/
theorem decode_encode_web_of_port :
    Url.parse exampleEndpoint.text = .ok exampleEndpoint ∧ isWeb exampleEndpoint = true ∧
      exampleEndpoint.path.text.getLast? ≠ some '/' ∧
      exampleEndpoint.query = queryOf [("id".toList, "7".toList)] ∧
      ∃ w, Link.encode (.transaction { link := exampleEndpoint.text, label := some "Shop" }) {} =
          .ok w ∧
        decode w.text {} =
          .ok (.transaction { link := exampleEndpoint.text, label := some "Shop" }) := by
  have hread : Url.parse exampleEndpoint.text = .ok exampleEndpoint := by decide +kernel
  have hweb : isWeb exampleEndpoint = true := by decide
  have hpath : exampleEndpoint.path.text.getLast? ≠ some '/' := by decide
  have hquery : exampleEndpoint.query = queryOf [("id".toList, "7".toList)] := by decide +kernel
  exact ⟨hread, hweb, hpath, hquery, decode_encode_web hread hweb rfl (.inr hpath) hquery
    (by decide) rfl (by decide) (by decide)⟩

end PayLink.Link.Transaction
