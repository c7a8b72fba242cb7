import Mathlib.Data.List.TakeDrop
import PayLink.Proofs.Url.Authority
import PayLink.Proofs.Url.Path
import PayLink.Proofs.Url.Rooted
/-!
# Written links

Every link that is read is written so that its text is cut into its parts again, and so that
appending pairs to it changes nothing else. Unless it names a file, it is also read as itself, if it
is read at all: all that may be refused is the host of a scheme that leads to one. Under an ordinary
scheme nothing is refused.
-/

namespace PayLink

open Text Url

/-- The host of an authority is read as itself. -/
def Authority.KeepsHost (scheme : List Char) (a : Authority) : Prop :=
  hostOf (SchemeKind.of scheme) a.host = .ok a.host

namespace Url

/-- The authority and path of a link, as they are written under its scheme. -/
inductive Front (scheme : List Char) : Option Authority → LinkPath → Prop
  /-- A plain text that no slash begins. -/
  | rootless {path : List Char} (ordinary : SchemeKind.of scheme = .ordinary)
      (plain : ∀ c ∈ path, Percent.isControl c = false ∧ c ≠ '?' ∧ c ≠ '#')
      (noSlash : path.head? ≠ some '/') : Front scheme none (.rootless path)
  /-- Segments without an authority. -/
  | rooted {segments : List (List Char)} (ordinary : SchemeKind.of scheme = .ordinary)
      (segment : ∀ s ∈ segments, Path.IsSegment .ordinary s) (nonempty : segments ≠ []) :
      Front scheme none (.rooted segments)
  /-- Segments behind an authority. -/
  | behind {a : Authority} {segments : List (List Char)} (noFile : SchemeKind.of scheme ≠ .file)
      (written : a.Written scheme)
      (segment : ∀ s ∈ segments, Path.IsSegment (SchemeKind.of scheme) s)
      (nonempty : (SchemeKind.of scheme).isSpecial = true → segments ≠ []) :
      Front scheme (some a) (.rooted segments)
  /-- The host and path of a file. -/
  | file {a : Authority} {segments : List (List Char)} (isFile : SchemeKind.of scheme = .file)
      (written : a.Written scheme) (plain : FilePath.IsPlain segments) :
      Front scheme (some a) (.rooted segments)

section Reading

variable {scheme : List Char} {a : Authority} {path : LinkPath}

/-- Behind two slashes an authority and segments are read. -/
theorem front_of_readAfterSlashes {cs : List Char} {more : Bool}
    (hfile : SchemeKind.of scheme ≠ .file)
    (h : readAfterSlashes scheme cs more = .ok (a, path)) : Front scheme (some a) path := by
  obtain ⟨rest, hauthority, rfl⟩ := readAfterSlashes_eq_ok_iff.1 h
  exact .behind hfile (written_of_readAuthority hauthority)
    (fun s hs => Path.isSegment_of_mem_afterAuthority hs)
    (fun hspecial => Path.afterAuthority_ne_nil hspecial _)

/-- The host of a link to a file is written, and so is no host. -/
theorem written_of_fileHost {host : List Char} (hfile : SchemeKind.of scheme = .file)
    (h : host = [] ∨ ∃ cs, Host.special cs = .ok host) :
    Authority.Written scheme ⟨[], host, none⟩ where
  host := by
    rcases h with hnil | ⟨cs, hcs⟩
    · exact .inl hnil
    · refine .inr ⟨cs, ?_⟩
      rw [hfile]
      exact hcs
  special := by
    intro hspecial
    rw [hfile] at hspecial
    cases hspecial
  empty _ := ⟨rfl, rfl⟩
  userinfo_eq := rfl
  userinfo_plain _ hc := absurd hc List.not_mem_nil
  port _ hp := by cases hp

/-- A host and a path are read of a link to a file. -/
theorem front_of_readFile {cs : List Char} (hfile : SchemeKind.of scheme = .file)
    (h : readFile cs = .ok (a, path)) : Front scheme (some a) path := by
  have hnone : ∀ ds, Front scheme (some ⟨[], [], none⟩) (.rooted (FilePath.ofText ds).segments) :=
    fun ds => .file hfile (written_of_fileHost hfile (.inl rfl)) (FilePath.isPlain_ofText ds)
  unfold readFile at h
  split at h
  · split at h
    · obtain ⟨host, hhost, h⟩ := bind_eq_ok_iff.1 h
      have hread : host = [] ∨ ∃ cs, Host.special cs = .ok host := by
        unfold readFileHost at hhost
        split at hhost
        · exact .inl (Except.ok.inj hhost).symm
        · obtain ⟨given, hgiven, hhost⟩ := bind_eq_ok_iff.1 hhost
          split at hhost
          · exact .inl (Except.ok.inj hhost).symm
          · rw [← Except.ok.inj hhost]
            exact .inr ⟨_, hgiven⟩
      have hleft : ∀ lost : Bool, (if lost then [] else host) = [] ∨
          ∃ cs, Host.special cs = .ok (if lost then [] else host) := by
        intro lost
        cases lost with
        | false => exact hread
        | true => exact .inl rfl
      cases h
      exact .file hfile (written_of_fileHost hfile (hleft _)) (FilePath.isPlain_ofText _)
    · cases h
      exact hnone _
  · cases h
    exact hnone _

/-- What is read of a front without marks is written. -/
theorem front_of_readFront {front : List Char} {authority : Option Authority} {more : Bool}
    (hquestion : '?' ∉ front) (hsign : '#' ∉ front)
    (h : readFront scheme front more = .ok (authority, path)) : Front scheme authority path := by
  cases hkind : SchemeKind.of scheme with
  | file =>
    unfold readFront at h
    rw [hkind] at h
    obtain ⟨⟨a, p⟩, hread, h⟩ := map_eq_ok_iff.1 h
    cases h
    exact front_of_readFile hkind hread
  | special =>
    have hfile : SchemeKind.of scheme ≠ .file := by
      rw [hkind]
      exact SchemeKind.noConfusion
    unfold readFront at h
    rw [hkind] at h
    obtain ⟨⟨a, p⟩, hread, h⟩ := map_eq_ok_iff.1 h
    cases h
    exact front_of_readAfterSlashes hfile hread
  | ordinary =>
    have hfile : SchemeKind.of scheme ≠ .file := by
      rw [hkind]
      exact SchemeKind.noConfusion
    by_cases hslash : front.head? = some '/'
    · unfold readFront at h
      rw [hkind] at h
      simp only at h
      split at h
      · obtain ⟨⟨a, p⟩, hread, h⟩ := map_eq_ok_iff.1 h
        cases h
        exact front_of_readAfterSlashes hfile hread
      · cases h
        exact .rooted hkind (fun s hs => Path.isSegment_of_mem_segments hs)
          (Path.segments_ne_nil _ _)
      · rename_i hone
        cases front with
        | nil => cases hslash
        | cons c cs =>
          obtain rfl := Option.some.inj hslash
          exact absurd rfl (hone cs)
    · rw [readFront_rootless hkind hslash] at h
      cases h
      exact .rootless hkind (fun c hc => plain_of_mem_encode hquestion hsign hc)
        (head?_encode_ne_slash hslash)

end Reading

/-- Only under an ordinary scheme a path is a plain text. -/
theorem ordinary_of_front {scheme path : List Char} {authority : Option Authority}
    (h : Front scheme authority (.rootless path)) : SchemeKind.of scheme = .ordinary := by
  cases h with
  | rootless ho => exact ho

/-- Segments that are written hold nothing that is escaped. -/
theorem inPath_of_mem_front {scheme : List Char} {authority : Option Authority}
    {segments : List (List Char)} (h : Front scheme authority (.rooted segments)) {c : Char}
    (hc : c ∈ (LinkPath.rooted segments).text) : Percent.inPath c = false := by
  cases h with
  | rooted _ hsegment => exact Path.plain_of_mem_text (fun s hs => (hsegment s hs).plain) hc
  | behind _ _ hsegment => exact Path.plain_of_mem_text (fun s hs => (hsegment s hs).plain) hc
  | file _ _ hplain => exact Path.plain_of_mem_text hplain hc

/-- Nothing in a front with segments is a control, a space or a mark of a query or fragment. -/
theorem plain_of_mem_front_rooted {u : Url} {segments : List (List Char)}
    (h : Front u.scheme u.authority u.path) (hpath : u.path = .rooted segments) {c : Char}
    (hc : c ∈ u.front) : Percent.isControl c = false ∧ c ≠ ' ' ∧ c ≠ '?' ∧ c ≠ '#' := by
  rw [hpath] at h
  rcases List.mem_append.1 hc with hc | hc
  · have hwritten : ∀ a, u.authority = some a → a.Written u.scheme := by
      intro a ha
      rw [ha] at h
      cases h with
      | behind _ hwritten => exact hwritten
      | file _ hwritten => exact hwritten
    unfold lead at hc
    split at hc
    · rename_i a ha
      have hplain : c = '/' ∨ c ∈ a.text := by
        rcases List.mem_cons.1 hc with hc | hc
        · exact .inl hc
        · rcases List.mem_cons.1 hc with hc | hc
          · exact .inl hc
          · exact .inr hc
      rcases hplain with hslash | hm
      · rw [hslash]
        decide
      · obtain ⟨hcontrol, hmarks⟩ := (hwritten a ha).plain_of_mem hm
        refine ⟨hcontrol, ?_, ?_, ?_⟩
        · rintro rfl
          exact absurd hmarks (by decide)
        · rintro rfl
          exact absurd hmarks (by decide)
        · rintro rfl
          exact absurd hmarks (by decide)
    · split at hc
      · have hdot : ∀ d ∈ ['/', '.'],
            Percent.isControl d = false ∧ d ≠ ' ' ∧ d ≠ '?' ∧ d ≠ '#' :=
          forall_mem_of_all (by decide)
        exact hdot c hc
      · cases hc
  · rw [hpath] at hc
    exact inPath_false (inPath_of_mem_front h hc)

/-- A link that is written so that its parts are found in its text again and its front is read as it
was. -/
structure Written (u : Url) : Prop where
  /-- Its text is cut into its parts again. -/
  legible : u.Legible
  /-- Its authority and path are written. -/
  front : Front u.scheme u.authority u.path

/-- A link that is read is written. -/
theorem written_of_parse {s : String} {u : Url} (h : parse s = .ok u) : u.Written := by
  obtain ⟨rest, hs⟩ := splitScheme?_of_ofCleaned h
  obtain ⟨hread, -⟩ := (ofCleaned_eq_ok_iff hs).1 h
  obtain ⟨hquestion, hsign⟩ := not_mem_front rest
  have hfront := front_of_readFront hquestion hsign hread
  refine ⟨?_, hfront⟩
  cases hpath : u.path with
  | rooted segments =>
    have hplain := fun c hc => plain_of_mem_front_rooted hfront hpath (c := c) hc
    refine legible_of_plain_front hs h (fun c hc => ?_) fun hlast => ?_
    · obtain ⟨hcontrol, -, hmarks⟩ := hplain c hc
      exact ⟨hcontrol, hmarks⟩
    · exact absurd rfl (hplain ' ' (List.mem_of_getLast? hlast)).2.1
  | rootless path =>
    rw [hpath] at hfront
    have ho := ordinary_of_front hfront
    have hslash : (Tail.of rest).front.head? ≠ some '/' := by
      intro hslash
      obtain ⟨segments, hsegments⟩ := readFront_rooted ho hslash hread
      rw [hsegments] at hpath
      cases hpath
    exact (rootless_of_parse hs ho hslash h).legible

section Again

variable {scheme : List Char} {a : Authority}

/-- No slash of either kind stands in the text of an authority. -/
theorem isSlash_of_mem_text (h : a.Written scheme) {c : Char} (hc : c ∈ a.text) :
    isSlash c = false := by
  obtain ⟨-, hmarks⟩ := h.plain_of_mem hc
  refine eq_false_of_ne_true fun hslash => ?_
  rw [isSlash, Bool.or_eq_true, decide_eq_true_eq, decide_eq_true_eq] at hslash
  rcases hslash with rfl | rfl
  · exact absurd hmarks (by decide)
  · exact absurd hmarks (by decide)

/-- The text of an authority ends where its path begins. -/
theorem splitAuthority_text (h : a.Written scheme) (kind : SchemeKind) {pathText : List Char}
    (hstart : pathText = [] ∨ pathText.head? = some '/') :
    splitAuthority kind (a.text ++ pathText) = (a.text, pathText) := by
  have hkeep : ∀ c ∈ a.text, (!(c = '/' || (kind.isSpecial && c = '\\'))) = true := by
    intro c hc
    have hslash := isSlash_of_mem_text h hc
    rw [isSlash, Bool.or_eq_false_iff] at hslash
    simp [hslash]
  have hstop : pathText.takeWhile (fun c => !(c = '/' || (kind.isSpecial && c = '\\'))) = [] ∧
      pathText.dropWhile (fun c => !(c = '/' || (kind.isSpecial && c = '\\'))) = pathText := by
    rcases hstart with hnil | hslash
    · rw [hnil]
      exact ⟨rfl, rfl⟩
    · cases pathText with
      | nil => cases hslash
      | cons c cs =>
        rw [Option.some.inj hslash]
        exact ⟨by simp, by simp⟩
  rw [splitAuthority, List.span_eq_takeWhile_dropWhile, List.takeWhile_append_of_pos hkeep,
    List.dropWhile_append_of_pos hkeep, hstop.1, hstop.2, List.append_nil]

/-- Only the two slashes stand before the authority of a scheme that leads to a host. -/
theorem dropWhile_isSlash_text (h : a.Written scheme)
    (hspecial : SchemeKind.of scheme = .special) (rest : List Char) :
    ('/' :: '/' :: (a.text ++ rest)).dropWhile isSlash = a.text ++ rest := by
  have htext : a.text ≠ [] := by
    intro hnil
    rw [Authority.text_eq] at hnil
    split at hnil
    · exact h.special hspecial (List.append_eq_nil_iff.1 hnil).1
    · exact List.cons_ne_nil _ _ (List.append_eq_nil_iff.1 hnil).2
  obtain ⟨c, cs, hcons⟩ := List.exists_cons_of_ne_nil htext
  have hslash : isSlash c = false := isSlash_of_mem_text h (hcons ▸ List.mem_cons_self)
  rw [hcons, List.dropWhile_cons_of_pos rfl, List.dropWhile_cons_of_pos rfl,
    List.cons_append, List.dropWhile_cons_of_neg (by rw [hslash]; decide)]

/-- Behind two slashes the text of an authority is read as the authority, if its host is. -/
theorem readAfterSlashes_text (hfile : SchemeKind.of scheme ≠ .file) (h : a.Written scheme)
    {pathText : List Char} (hstart : pathText = [] ∨ pathText.head? = some '/') {more : Bool}
    {a' : Authority} {path : LinkPath} :
    readAfterSlashes scheme (a.text ++ pathText) more = .ok (a', path) ↔
      a.KeepsHost scheme ∧ a' = a ∧
        path = .rooted (Path.afterAuthority (SchemeKind.of scheme) pathText) := by
  rw [readAfterSlashes_eq_ok_iff, splitAuthority_text h _ hstart]
  constructor
  · rintro ⟨rest, hread, rfl⟩
    obtain ⟨hhost, ha, rfl⟩ := (h.readAuthority_text_eq_ok_iff hfile).1 hread
    exact ⟨hhost, ha, rfl⟩
  · rintro ⟨hhost, ha, rfl⟩
    exact ⟨[], (h.readAuthority_text_eq_ok_iff hfile).2 ⟨hhost, ha, rfl⟩, rfl⟩

/-- An authority behind two slashes is read again, if its host is. -/
theorem readFront_behind (hfile : SchemeKind.of scheme ≠ .file) (h : a.Written scheme)
    {pathText : List Char} (hstart : pathText = [] ∨ pathText.head? = some '/') {more : Bool}
    {authority : Option Authority} {path : LinkPath} :
    readFront scheme ('/' :: '/' :: (a.text ++ pathText)) more = .ok (authority, path) ↔
      a.KeepsHost scheme ∧ authority = some a ∧
        path = .rooted (Path.afterAuthority (SchemeKind.of scheme) pathText) := by
  have hread : readFront scheme ('/' :: '/' :: (a.text ++ pathText)) more =
      (readAfterSlashes scheme (a.text ++ pathText) more).map fun r => (some r.1, r.2) := by
    cases hkind : SchemeKind.of scheme with
    | file => exact absurd hkind hfile
    | ordinary =>
      unfold readFront
      rw [hkind]
      rfl
    | special =>
      unfold readFront
      rw [hkind]
      simp only [dropWhile_isSlash_text h hkind]
  rw [hread, map_eq_ok_iff]
  constructor
  · rintro ⟨⟨b, p⟩, hb, heq⟩
    obtain ⟨hhost, rfl, rfl⟩ := (readAfterSlashes_text hfile h hstart).1 hb
    obtain ⟨ha, hpath⟩ := Prod.mk.inj heq
    exact ⟨hhost, ha.symm, hpath.symm⟩
  · rintro ⟨hhost, rfl, rfl⟩
    exact ⟨(a, _), (readAfterSlashes_text hfile h hstart).2 ⟨hhost, rfl, rfl⟩, rfl⟩

/-- Segments without an authority are read behind one slash. -/
theorem readFront_one (ho : SchemeKind.of scheme = .ordinary) {rest : List Char}
    (h : rest.head? ≠ some '/') (more : Bool) :
    readFront scheme ('/' :: rest) more =
      .ok (none, .rooted (Path.segments .ordinary rest)) := by
  unfold readFront
  rw [ho]
  cases rest with
  | nil => rfl
  | cons c cs =>
    simp only
    split
    · rename_i heq
      exact absurd (congrArg List.head? (List.cons.inj heq).2) h
    · rename_i heq
      rw [(List.cons.inj heq).2]
    · rename_i hone
      exact absurd rfl (hone _)

/-- Segments without an authority are read again, also if a dot stands before them. -/
theorem readFront_rooted_text {u : Url} {segments : List (List Char)}
    (ho : SchemeKind.of u.scheme = .ordinary)
    (hsegment : ∀ s ∈ segments, Path.IsSegment .ordinary s) (hne : segments ≠ [])
    (hauthority : u.authority = none) (hpath : u.path = .rooted segments) (more : Bool) :
    readFront u.scheme u.front more = .ok (none, .rooted segments) := by
  obtain ⟨s, ss, hcons⟩ := List.exists_cons_of_ne_nil hne
  have htext : u.path.text = '/' :: (s ++ (LinkPath.rooted ss).text) := by
    rw [hpath, hcons]
    rfl
  have hlead : u.lead = if ['/', '/'].isPrefixOf u.path.text then ['/', '.'] else [] := by
    rw [lead, hauthority]
  rw [front, hlead]
  split
  · have hresolve : Path.segments .ordinary ('.' :: u.path.text) = segments := by
      rw [hpath]
      exact Path.segments_dot_text hsegment hne
    have hslash : ('.' :: u.path.text).head? ≠ some '/' := fun he =>
      absurd (Option.some.inj he) (by decide)
    rw [List.cons_append, List.singleton_append, readFront_one ho hslash, hresolve]
  · rename_i hprefix
    have hslash : (s ++ (LinkPath.rooted ss).text).head? ≠ some '/' := by
      intro hslash
      rw [htext] at hprefix
      obtain ⟨more, hmore⟩ := List.head?_eq_some_iff.1 hslash
      rw [hmore] at hprefix
      exact hprefix rfl
    rw [List.nil_append, htext, readFront_one ho hslash,
      Path.segments_append_text (hcons ▸ hsegment), ← hcons]

end Again

/-- The host of a link, if there is one, is read as itself. -/
def KeepsHost (u : Url) : Prop :=
  ∀ a, u.authority = some a → a.KeepsHost u.scheme

/-- Under an ordinary scheme every host that is written is read as itself. -/
theorem keepsHost_of_ordinary {scheme : List Char} {a : Authority}
    (ho : SchemeKind.of scheme = .ordinary) (h : a.Written scheme) : a.KeepsHost scheme := by
  have hof : ∀ cs, hostOf (SchemeKind.of scheme) cs = Host.ordinary cs := by
    intro cs
    rw [hostOf, ho]
    rfl
  rw [Authority.KeepsHost, hof]
  rcases h.host with hnil | ⟨cs, hcs⟩
  · rw [hnil]
    rfl
  · rw [hof] at hcs
    exact Host.ordinary_of_ordinary hcs

/-- Nothing is refused where there is no authority. -/
theorem keepsHost_of_none {u : Url} (h : u.authority = none) : u.KeepsHost := by
  intro a ha
  rw [h] at ha
  cases ha

/-- An authority and a path are written behind two slashes. -/
theorem front_of_authority {u : Url} {a : Authority} (h : u.authority = some a) :
    u.front = '/' :: '/' :: (a.text ++ u.path.text) := by
  rw [front, lead, h]
  rfl

/-- The host of a link is that of its authority. -/
theorem keepsHost_iff {u : Url} {a : Authority} (h : u.authority = some a) :
    u.KeepsHost ↔ a.KeepsHost u.scheme := by
  constructor
  · intro hall
    exact hall a h
  · intro ha b hb
    rw [h] at hb
    rwa [← Option.some.inj hb]

/-- A link with an authority is read with the segments of its path, if its host is, also where the
path is not one of segments. -/
theorem parse_text_of_authority {u b : Url} {a : Authority} (h : u.Legible)
    (hfile : SchemeKind.of u.scheme ≠ .file) (hauthority : u.authority = some a)
    (hwritten : a.Written u.scheme) (hpath : u.path.text = [] ∨ u.path.text.head? = some '/') :
    parse u.text = .ok b ↔ u.KeepsHost ∧ b = { u with
      path := .rooted (Path.afterAuthority (SchemeKind.of u.scheme) u.path.text) } := by
  rw [h.parse_text_eq_ok_iff, front_of_authority hauthority, readFront_behind hfile hwritten hpath,
    keepsHost_iff hauthority, ← hauthority]
  constructor
  · rintro ⟨⟨hkeeps, hb, hread⟩, hscheme, hquery, hfragment⟩
    refine ⟨hkeeps, ?_⟩
    change (⟨b.scheme, b.authority, b.path, b.query, b.fragment⟩ : Url) = _
    rw [hb, hread, hscheme, hquery, hfragment]
  · rintro ⟨hkeeps, rfl⟩
    exact ⟨⟨hkeeps, rfl, rfl⟩, rfl, rfl, rfl⟩

/-- The link with another authority. -/
def withAuthority (u : Url) (a : Authority) : Url :=
  { u with authority := some a }

namespace Written

variable {u : Url} (h : u.Written)

include h

/-- The front of a link is read again, if its host is. -/
theorem readFront_front (hfile : SchemeKind.of u.scheme ≠ .file) {more : Bool}
    {authority : Option Authority} {path : LinkPath} :
    readFront u.scheme u.front more = .ok (authority, path) ↔
      u.KeepsHost ∧ authority = u.authority ∧ path = u.path := by
  have hsame : ∀ {a p}, readFront u.scheme u.front more = .ok (a, p) → u.KeepsHost →
      (readFront u.scheme u.front more = .ok (authority, path) ↔
        u.KeepsHost ∧ authority = a ∧ path = p) := by
    intro a p hread hkeeps
    rw [hread, and_iff_right hkeeps, Except.ok.injEq, Prod.mk.injEq, eq_comm, eq_comm (a := path)]
  have hfront := h.front
  generalize hauthority : u.authority = authority' at hfront
  generalize hpath : u.path = path' at hfront
  cases hfront with
  | rootless ho hplain hslash =>
    refine hsame ?_ (keepsHost_of_none hauthority)
    rw [front_of_rootless hauthority hpath hslash, readFront_rootless ho hslash,
      Percent.encode_eq_self fun c hc => (hplain c hc).1]
  | rooted ho hsegment hne =>
    exact hsame (readFront_rooted_text ho hsegment hne hauthority hpath more)
      (keepsHost_of_none hauthority)
  | @behind a segments _ hwritten hsegment hne =>
    rw [front_of_authority hauthority, hpath,
      readFront_behind hfile hwritten (head?_text_rooted segments),
      Path.afterAuthority_text hsegment hne, keepsHost_iff hauthority]
  | file hk => exact absurd hk hfile

/-- Whether a query or fragment follows makes no difference to a front that is written. -/
theorem readFront_more {more more' : Bool} {authority : Option Authority} {path : LinkPath} :
    readFront u.scheme u.front more = .ok (authority, path) ↔
      readFront u.scheme u.front more' = .ok (authority, path) := by
  by_cases hfile : SchemeKind.of u.scheme = .file
  · unfold readFront
    rw [hfile]
  · rw [h.readFront_front hfile, h.readFront_front hfile]

/-- A link is read as itself, if it is read at all. -/
theorem parse_text_eq_ok_iff (hfile : SchemeKind.of u.scheme ≠ .file) {v : Url} :
    parse u.text = .ok v ↔ u.KeepsHost ∧ v = u := by
  rw [h.legible.parse_text_eq_ok_iff, h.readFront_front hfile]
  constructor
  · rintro ⟨⟨hkeeps, hauthority, hpath⟩, hscheme, hquery, hfragment⟩
    refine ⟨hkeeps, ?_⟩
    change (⟨v.scheme, v.authority, v.path, v.query, v.fragment⟩ : Url) = u
    rw [hauthority, hpath, hscheme, hquery, hfragment]
  · rintro ⟨hkeeps, rfl⟩
    exact ⟨⟨hkeeps, rfl, rfl⟩, rfl, rfl, rfl⟩

/-- Appended pairs leave a link written. -/
theorem appendPairs (ps : List Form.Pair) : (u.appendPairs ps).Written := by
  refine ⟨h.legible.appendPairs ps, ?_⟩
  have hfront := h.front
  rw [Url.appendPairs]
  split
  · exact hfront
  · exact hfront

/-- Pairs in the place of the query leave a link with segments written. -/
theorem withPairs {segments : List (List Char)} (hpath : u.path = .rooted segments)
    (ps : List Form.Pair) : (u.withPairs ps).Written where
  legible :=
    { isScheme := h.legible.isScheme
      lower := h.legible.lower
      front := h.legible.front
      noSpace := fun _ _ hlast =>
        (plain_of_mem_front_rooted h.front hpath (List.mem_of_getLast? hlast)).2.1 rfl
      query := fun q hq c hc => by
        unfold Url.withPairs at hq
        dsimp only at hq
        split at hq
        · cases hq
        · rw [← Option.some.inj hq] at hc
          exact queryRule_of_isWritten (Form.isWritten_of_mem_write hc)
      fragment := h.legible.fragment }
  front := h.front

/-- A link stays written with another authority that is. -/
theorem withAuthority {a b : Authority} (ha : u.authority = some a)
    (hfile : SchemeKind.of u.scheme ≠ .file) (hb : b.Written u.scheme) :
    (u.withAuthority b).Written := by
  have hfront : Front u.scheme (some b) u.path := by
    have hfront := h.front
    rw [ha] at hfront
    generalize u.path = path at hfront ⊢
    cases hfront with
    | behind _ _ hsegment hne => exact .behind hfile hb hsegment hne
    | file hk => exact absurd hk hfile
  obtain ⟨segments, hpath⟩ : ∃ segments, u.path = .rooted segments := by
    cases hpath : u.path with
    | rooted segments => exact ⟨segments, rfl⟩
    | rootless text =>
      rw [hpath] at hfront
      cases hfront
  have hplain : ∀ c ∈ (u.withAuthority b).front,
      Percent.isControl c = false ∧ c ≠ ' ' ∧ c ≠ '?' ∧ c ≠ '#' := fun c hc =>
    plain_of_mem_front_rooted (u := u.withAuthority b) hfront hpath hc
  refine ⟨?_, hfront⟩
  exact
    { isScheme := h.legible.isScheme
      lower := h.legible.lower
      front := fun c hc => ⟨(hplain c hc).1, (hplain c hc).2.2⟩
      noSpace := fun _ _ hlast => (hplain ' ' (List.mem_of_getLast? hlast)).2.1 rfl
      query := h.legible.query
      fragment := h.legible.fragment }

/-- Reading a link to which pairs have been appended is reading the link and appending the pairs. -/
theorem parse_text_appendPairs {ps : List Form.Pair} {v : Url} :
    parse (u.appendPairs ps).text = .ok v ↔
      ∃ b, parse u.text = .ok b ∧ v = b.appendPairs ps := by
  by_cases hps : ps.isEmpty = true
  · have hsame : ∀ w : Url, w.appendPairs ps = w := fun w => if_pos hps
    constructor
    · intro hv
      rw [hsame] at hv
      exact ⟨v, hv, (hsame v).symm⟩
    · rintro ⟨b, hb, rfl⟩
      rw [hsame, hsame]
      exact hb
  · have happend : ∀ w : Url, w.appendPairs ps =
        { w with query := some (extend w.query (Form.write ps)) } := fun w => if_neg hps
    have hlegible := (h.appendPairs ps).legible
    rw [hlegible.parse_text_eq_ok_iff, happend]
    constructor
    · rintro ⟨hread, hscheme, hquery, hfragment⟩
      refine ⟨{ v with query := u.query }, h.legible.parse_text_eq_ok_iff.2
        ⟨h.readFront_more.1 hread, hscheme, rfl, hfragment⟩, ?_⟩
      have hsame : v.query = some (extend u.query (Form.write ps)) := hquery
      rw [happend]
      simp only [← hsame]
    · rintro ⟨b, hb, rfl⟩
      obtain ⟨hread, hscheme, hquery, hfragment⟩ := h.legible.parse_text_eq_ok_iff.1 hb
      rw [happend, hquery]
      exact ⟨h.readFront_more.1 hread, hscheme, rfl, hfragment⟩

end Written

end Url

end PayLink
