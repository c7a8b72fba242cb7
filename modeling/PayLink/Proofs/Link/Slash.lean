import PayLink.Proofs.Link.Web
import PayLink.Proofs.Url.LastSlash
/-!
# The slash before a question mark

The slash that is dropped from an endpoint is the first one that a question mark follows, wherever
it stands. In front of the query it ends the path, and the path is read as before or without it. But
it may also stand in the query, where it belongs to a key or a value, or in the fragment. A web link
is therefore written with its own parameters exactly if that slash does not stand in its query.
-/

namespace PayLink.Link.Transaction

/-- A part of a link in which a slash can stand. -/
inductive Part
  /-- What stands before the query and the fragment. -/
  | front
  /-- The query. -/
  | query
  /-- The fragment. -/
  | fragment
  deriving DecidableEq, Repr

/-- The part of a link that goes on behind a text. -/
def Part.behind (before : List Char) : Part :=
  if '#' ∈ before then .fragment else if '?' ∈ before then .query else .front

/-- What stands before the first slash that a question mark follows. -/
def beforeSlash? : List Char → Option (List Char)
  | '/' :: '?' :: _ => some []
  | c :: rest => (beforeSlash? rest).map (c :: ·)
  | [] => none

/-- The part of a link in which the first slash stands that a question mark follows. -/
def slashPart? (link : String) : Option Part :=
  (beforeSlash? link.toList).map Part.behind

/-- Nothing is dropped where no question mark follows a slash. -/
theorem dropSlashBeforeQuery_of_beforeSlash?_eq_none {cs : List Char} (h : beforeSlash? cs = none) :
    dropSlashBeforeQuery cs = cs := by
  fun_induction beforeSlash? cs with
  | case1 => cases h
  | case2 c rest hno ih =>
    rw [Option.map_eq_none_iff] at h
    rw [dropSlashBeforeQuery, ih h]
    exact hno
  | case3 => rfl

/-- The first slash that a question mark follows is dropped, and nothing else. -/
theorem exists_of_beforeSlash?_eq_some {cs before : List Char} (h : beforeSlash? cs = some before) :
    ∃ after, cs = before ++ '/' :: '?' :: after ∧
      dropSlashBeforeQuery cs = before ++ '?' :: after := by
  fun_induction beforeSlash? cs generalizing before with
  | case1 rest =>
    cases h
    exact ⟨rest, rfl, by rw [dropSlashBeforeQuery, List.nil_append]⟩
  | case2 c rest hno ih =>
    obtain ⟨more, hmore, rfl⟩ := Option.map_eq_some_iff.1 h
    obtain ⟨after, rfl, hdrop⟩ := ih hmore
    refine ⟨after, rfl, ?_⟩
    rw [dropSlashBeforeQuery, hdrop]
    · rfl
    · exact hno
  | case3 => cases h

/-- Nothing else is dropped from a link that no slash ends. -/
theorem trimmed_of_getLast?_ne {link : String} (hlast : link.toList.getLast? ≠ some '/') :
    trimmed link = String.ofList (dropSlashBeforeQuery link.toList) := by
  have hend : (dropSlashBeforeQuery link.toList).getLast? = link.toList.getLast? := by
    cases hslash : beforeSlash? link.toList with
    | none => rw [dropSlashBeforeQuery_of_beforeSlash?_eq_none hslash]
    | some before =>
      obtain ⟨after, hlink, hdrop⟩ := exists_of_beforeSlash?_eq_some hslash
      rw [hdrop, hlink, List.getLast?_append, List.getLast?_append, List.getLast?_cons_cons,
        List.getLast?_cons, Option.some_or]
  rw [trimmed, dropLastSlash, if_neg (by rwa [hend])]

/-- A link and what is left of it when a part of it loses a slash before a question mark. -/
inductive LosesSlash (u : Url) : Part → Url → Prop
  /-- The slash stands just before the query; the path ended with it, or is the same without. -/
  | front {path : LinkPath} (hasQuery : u.query.isSome = true)
      (path_eq : path.text = u.path.text ∨ u.path.text = path.text ++ ['/']) :
      LosesSlash u .front { u with path := path }
  /-- The slash stood in the query. -/
  | query {before after : List Char} (query_eq : u.query = some (before ++ '/' :: '?' :: after)) :
      LosesSlash u .query { u with query := some (before ++ '?' :: after) }
  /-- The slash stood in the fragment. -/
  | fragment {before after : List Char}
      (fragment_eq : u.fragment = some (before ++ '/' :: '?' :: after)) :
      LosesSlash u .fragment { u with fragment := some (before ++ '?' :: after) }

namespace LosesSlash

variable {u base : Url} {part : Part} (h : LosesSlash u part base)

include h

/-- The scheme stays. -/
theorem scheme_eq : base.scheme = u.scheme := by
  cases h with
  | front => rfl
  | query => rfl
  | fragment => rfl

/-- The parameters of a link are the same exactly if its query loses no slash. -/
theorem pairs_eq_iff : base.pairs = u.pairs ↔ part ≠ .query := by
  cases h with
  | front => exact ⟨fun _ => by decide, fun _ => rfl⟩
  | fragment => exact ⟨fun _ => by decide, fun _ => rfl⟩
  | query hquery =>
    refine ⟨fun hsame => ?_, fun hno => absurd rfl hno⟩
    rw [Url.pairs, Url.pairs, hquery] at hsame
    exact absurd hsame.symm (Url.Form.read_ne_of_slash _ _)

/-- The fragment of a link is the same exactly if it loses no slash. -/
theorem fragment_eq_iff : base.fragment = u.fragment ↔ part ≠ .fragment := by
  cases h with
  | front => exact ⟨fun _ => by decide, fun _ => rfl⟩
  | query => exact ⟨fun _ => by decide, fun _ => rfl⟩
  | fragment hfragment =>
    refine ⟨fun hsame => ?_, fun hno => absurd rfl hno⟩
    rw [hfragment] at hsame
    have hrest := List.append_cancel_left (Option.some.inj hsame)
    exact absurd (List.cons.inj hrest).1 (by decide)

end LosesSlash

/-- A slash and a question mark are not escaped where neither is selected. -/
theorem encode_append_slash {p : Char → Bool} (hslash : p '/' = false) (hmark : p '?' = false)
    (before after : List Char) :
    Url.Percent.encode p (before ++ '/' :: '?' :: after) =
        Url.Percent.encode p before ++ '/' :: '?' :: Url.Percent.encode p after ∧
      Url.Percent.encode p (before ++ '?' :: after) =
        Url.Percent.encode p before ++ '?' :: Url.Percent.encode p after := by
  rw [Url.Percent.encode_append, Url.Percent.encode_append, Url.Percent.encode_cons hslash,
    Url.Percent.encode_cons hmark]
  exact ⟨rfl, rfl⟩

section Reading

variable {cs cs' before after : List Char} {u : Url}
  (hs : Url.splitScheme? cs = some (u.scheme, before ++ '/' :: '?' :: after))
  (hs' : Url.splitScheme? cs' = some (u.scheme, before ++ '?' :: after))
  (h : Url.ofCleaned cs = .ok u)

include hs hs' h

/-- A link whose fragment loses a slash is read with that fragment. -/
theorem exists_of_slash_in_fragment (hsign : '#' ∈ before) :
    ∃ base, Url.ofCleaned cs' = .ok base ∧ LosesSlash u .fragment base := by
  obtain ⟨front, query, fragment, htail⟩ := Url.exists_tail_append_fragment hsign
  obtain ⟨hfront, -, hquery, hfragment⟩ := (Url.ofCleaned_eq_ok_iff hs).1 h
  rw [htail] at hfront hquery hfragment
  obtain ⟨hold, hnew⟩ := encode_append_slash (p := Url.Percent.inFragment) (by decide) (by decide)
    fragment after
  refine ⟨_, (Url.ofCleaned_eq_ok_iff hs').2 ?_, .fragment (hfragment.trans (congrArg some hold))⟩
  rw [htail]
  exact ⟨hfront, rfl, hquery, (congrArg some hnew).symm⟩

/-- A link whose query loses a slash is read with that query. -/
theorem exists_of_slash_in_query (hsign : '#' ∉ before) (hquestion : '?' ∈ before) :
    ∃ base, Url.ofCleaned cs' = .ok base ∧ LosesSlash u .query base := by
  obtain ⟨front, query, htail⟩ := Url.exists_tail_append_query hquestion hsign
  obtain ⟨hfront, -, hquery, hfragment⟩ := (Url.ofCleaned_eq_ok_iff hs).1 h
  rw [htail] at hfront hquery hfragment
  have hrule : Url.queryRule u.scheme '/' = false ∧ Url.queryRule u.scheme '?' = false := by
    unfold Url.queryRule
    split
    · decide
    · decide
  obtain ⟨hold, hnew⟩ := encode_append_slash hrule.1 hrule.2 query (Text.cut '#' after).1
  refine ⟨_, (Url.ofCleaned_eq_ok_iff hs').2 ?_, .query (hquery.trans (congrArg some hold))⟩
  rw [htail]
  exact ⟨hfront, rfl, (congrArg some hnew).symm, hfragment⟩

/-- A link to a host whose front loses the slash before its query is read with the same path, or
with the path without that slash. -/
theorem exists_of_slash_in_front (hspecial : SchemeKind.of u.scheme = .special)
    (hsign : '#' ∉ before) (hquestion : '?' ∉ before) :
    ∃ base, Url.ofCleaned cs' = .ok base ∧ LosesSlash u .front base := by
  have htail := Url.tail_append hquestion hsign
  obtain ⟨hfront, -, hquery, hfragment⟩ := (Url.ofCleaned_eq_ok_iff hs).1 h
  rw [htail] at hfront hquery hfragment
  obtain ⟨path, hread, hpath⟩ := Url.readFront_append_slash hspecial hfront
  have hhas : u.query.isSome = true := by
    rw [hquery]
    rfl
  have hnil : before ++ (Url.Tail.of ('?' :: after)).front = before := List.append_nil before
  refine ⟨{ u with path := path }, (Url.ofCleaned_eq_ok_iff hs').2 ?_, .front hhas hpath⟩
  rw [htail, hnil]
  exact ⟨hread, rfl, hquery, hfragment⟩

end Reading

/-- A link to a host that loses a slash before a question mark is read, and loses nothing else. -/
theorem exists_parse_of_slash {link : String} {u : Url} {before after : List Char}
    (hspecial : SchemeKind.of u.scheme = .special) (hparse : Url.parse link = .ok u)
    (hlink : link.toList = before ++ '/' :: '?' :: after) :
    ∃ base, Url.parse (String.ofList (before ++ '?' :: after)) = .ok base ∧
      LosesSlash u (Part.behind before) base := by
  obtain ⟨rest, hs⟩ := Url.splitScheme?_of_ofCleaned hparse
  have hs' := hs
  rw [hlink, Url.cleaned_append_cons (by decide), Url.cleanedEnd_cons (by decide)] at hs'
  -- the scheme ends before the slash, and what is left of the text has the same marks
  obtain ⟨more, rfl, hmem, hother⟩ := Url.exists_splitScheme?_append hs'
  have hwithout := hother ('?' :: Url.cleanedEnd after)
  rw [← Url.cleaned_append_cons (by decide),
    ← String.toList_ofList (l := before ++ '?' :: after)] at hwithout
  have hsign : '#' ∈ more ↔ '#' ∈ before :=
    (hmem '#' (by decide) (by decide)).trans (Url.mem_cleanedStart_iff (by decide))
  have hquestion : '?' ∈ more ↔ '?' ∈ before :=
    (hmem '?' (by decide) (by decide)).trans (Url.mem_cleanedStart_iff (by decide))
  unfold Part.behind
  split
  · rename_i hbefore
    exact exists_of_slash_in_fragment hs hwithout hparse (hsign.2 hbefore)
  · rename_i hno
    have hsign' : '#' ∉ more := fun hm => hno (hsign.1 hm)
    split
    · rename_i hbefore
      exact exists_of_slash_in_query hs hwithout hparse hsign' (hquestion.2 hbefore)
    · rename_i hnone
      exact exists_of_slash_in_front hs hwithout hparse hspecial hsign'
        fun hm => hnone (hquestion.1 hm)

/-- A web link that no slash ends is written as it is, with the annotations appended, but for the
first slash that a question mark follows. That slash ends the path before the query, or stands in
the query or in the fragment: the link's own parameters are kept exactly if it does not stand in the
query, and its fragment exactly if it does not stand there. -/
theorem encode_of_isWeb {config : PayConfig} {t : TransactionRequest} {u : Url}
    (hparse : Url.parse t.link = .ok u) (hweb : isWeb u = true)
    (hlast : t.link.toList.getLast? ≠ some '/') :
    ∃ base, Link.encode (.transaction t) config = .ok (base.appendPairs (pairs t)) ∧
      (slashPart? t.link = none → base = u) ∧
      (∀ part, slashPart? t.link = some part → LosesSlash u part base) ∧
      ((base.appendPairs (pairs t)).pairs = u.pairs ++ pairs t ↔
        slashPart? t.link ≠ some .query) ∧
      (base.fragment = u.fragment ↔ slashPart? t.link ≠ some .fragment) := by
  have htrimmed := trimmed_of_getLast?_ne hlast
  have hwrite : ∀ base, Url.parse (trimmed t.link) = .ok base → isWeb base = true →
      Link.encode (.transaction t) config = .ok (base.appendPairs (pairs t)) :=
    fun base hbase hbaseWeb => encode_of_endpoint (endpoint_of_isWeb hbase hbaseWeb) (.inr hbaseWeb)
  rw [slashPart?]
  cases hslash : beforeSlash? t.link.toList with
  | none =>
    rw [dropSlashBeforeQuery_of_beforeSlash?_eq_none hslash, String.ofList_toList] at htrimmed
    rw [htrimmed] at hwrite
    refine ⟨u, hwrite u hparse hweb, fun _ => rfl, fun part hpart => ?_, ?_, ?_⟩
    · cases hpart
    · exact iff_of_true (Url.pairs_appendPairs u _) (Option.some_ne_none _).symm
    · exact iff_of_true rfl (Option.some_ne_none _).symm
  | some before =>
    obtain ⟨after, hlink, hdrop⟩ := exists_of_beforeSlash?_eq_some hslash
    rw [hdrop] at htrimmed
    obtain ⟨base, hbase, hloses⟩ := exists_parse_of_slash (special_of_isWeb hweb) hparse hlink
    have hbaseWeb : isWeb base = true := by
      rw [isWeb, hloses.scheme_eq]
      exact hweb
    rw [htrimmed] at hwrite
    refine ⟨base, hwrite base hbase hbaseWeb, fun hnone => ?_, fun part hpart => ?_, ?_, ?_⟩
    · cases hnone
    · rwa [← Option.some.inj hpart]
    · rw [Url.pairs_appendPairs, List.append_left_inj, hloses.pairs_eq_iff, Option.map_some, Ne,
        Ne, Option.some.injEq]
    · rw [hloses.fragment_eq_iff, Option.map_some, Ne, Ne, Option.some.injEq]

/-- Of a link with slashes before question marks in its path and in its query only the slash of the
path is dropped. -/
theorem encode_of_isWeb_of_root :
    ∃ u, Url.parse "https://example.com/pay/?next=/?id=7" = .ok u ∧ isWeb u = true ∧
      "https://example.com/pay/?next=/?id=7".toList.getLast? ≠ some '/' ∧
      ∃ base, Link.encode (.transaction
          { link := "https://example.com/pay/?next=/?id=7", label := some "Shop" }) {} =
            .ok (base.appendPairs [("label".toList, "Shop".toList)]) ∧
        LosesSlash u .front base ∧
        (base.appendPairs [("label".toList, "Shop".toList)]).pairs =
          [("next".toList, "/?id=7".toList), ("label".toList, "Shop".toList)] ∧
        base.fragment = none := by
  have hparse : Url.parse "https://example.com/pay/?next=/?id=7" =
      .ok ⟨"https".toList, some ⟨[], "example.com".toList, none⟩, .rooted ["pay".toList, []],
        some "next=/?id=7".toList, none⟩ := by
    decide +kernel
  have hlast : "https://example.com/pay/?next=/?id=7".toList.getLast? ≠ some '/' := by
    decide +kernel
  have hslash : slashPart? "https://example.com/pay/?next=/?id=7" = some .front := by
    decide +kernel
  obtain ⟨base, hwrite, -, hloses, hpairs, hfragment⟩ := @encode_of_isWeb {}
    { link := "https://example.com/pay/?next=/?id=7", label := some "Shop" } _ hparse (by decide)
    hlast
  refine ⟨_, hparse, by decide, hlast, base, hwrite, hloses .front hslash, ?_, ?_⟩
  · exact (hpairs.2 (by rw [hslash]; decide)).trans (by decide +kernel)
  · exact hfragment.2 (by rw [hslash]; decide)

/-- A parameter loses the slash that a question mark follows, and so does a fragment. -/
theorem encode_drops_slash_of_parameter :
    (∃ u w, Url.parse "https://example.com/pay?next=/?id=7" = .ok u ∧ isWeb u = true ∧
      Link.encode (.transaction { link := "https://example.com/pay?next=/?id=7" }) {} = .ok w ∧
      u.pairs = [("next".toList, "/?id=7".toList)] ∧
      w.pairs = [("next".toList, "?id=7".toList)]) ∧
    ∃ u w, Url.parse "https://example.com/pay#a/?b" = .ok u ∧ isWeb u = true ∧
      Link.encode (.transaction { link := "https://example.com/pay#a/?b" }) {} = .ok w ∧
      u.fragment = some "a/?b".toList ∧ w.fragment = some "a?b".toList := by
  refine ⟨⟨⟨"https".toList, some ⟨[], "example.com".toList, none⟩, .rooted ["pay".toList],
        some "next=/?id=7".toList, none⟩,
      ⟨"https".toList, some ⟨[], "example.com".toList, none⟩, .rooted ["pay".toList],
        some "next=?id=7".toList, none⟩, ?_, ?_, ?_, ?_, ?_⟩,
    ⟨⟨"https".toList, some ⟨[], "example.com".toList, none⟩, .rooted ["pay".toList], none,
        some "a/?b".toList⟩,
      ⟨"https".toList, some ⟨[], "example.com".toList, none⟩, .rooted ["pay".toList], none,
        some "a?b".toList⟩, ?_, ?_, ?_, ?_, ?_⟩⟩
  all_goals decide +kernel

end PayLink.Link.Transaction
