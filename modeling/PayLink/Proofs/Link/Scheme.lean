import PayLink.Link
import PayLink.Proofs.Outcome
import PayLink.Proofs.Url.Rooted
/-!
# Links under the payment scheme

A payment scheme of its own leads neither to a host nor to a file. A link under it is never a web
link, and what it asks for is decided by its path without escapes. Under any other payment scheme
every link has an empty path or one that a slash begins.
-/

namespace PayLink

/-- The schemes that lead to a host or to a file. -/
def hostSchemes : List String :=
  ["http", "https", "ws", "wss", "ftp", "file"]

/-- The schemes that lead to a host or to a file are not ordinary. -/
theorem SchemeKind.of_ne_ordinary {scheme : List Char} (h : String.ofList scheme ∈ hostSchemes) :
    SchemeKind.of scheme ≠ .ordinary := by
  have hkinds : ∀ s ∈ hostSchemes.map String.toList, SchemeKind.of s ≠ .ordinary := by decide
  exact hkinds scheme (List.mem_map.2 ⟨_, h, String.toList_ofList⟩)

namespace PayConfig

/-- The payment scheme as the links under it have it. -/
def linkScheme (config : PayConfig) : List Char :=
  config.scheme.toList.map Char.toLower

/-- The payment scheme is a scheme of its own. -/
structure HasOwnScheme (config : PayConfig) : Prop where
  /-- It is a letter with letters, digits, plus signs, hyphens and points behind it. -/
  isScheme : Url.isScheme config.scheme.toList = true
  /-- Whatever its letter case, it leads neither to a host nor to a file. -/
  not_mem : String.ofList config.linkScheme ∉ hostSchemes

instance (config : PayConfig) : Decidable config.HasOwnScheme :=
  decidable_of_iff (Url.isScheme config.scheme.toList = true ∧
      String.ofList config.linkScheme ∉ hostSchemes)
    ⟨fun h => ⟨h.1, h.2⟩, fun h => ⟨h.isScheme, h.not_mem⟩⟩

namespace HasOwnScheme

variable {config : PayConfig} (h : config.HasOwnScheme)

include h

/-- Links under the scheme do not lead to a host. -/
theorem ordinary : SchemeKind.of config.linkScheme = .ordinary := by
  have hmem := h.not_mem
  have hfile : config.linkScheme ≠ "file".toList := by
    intro he
    refine hmem ?_
    rw [he, String.ofList_toList]
    decide
  have hhost :
      ["http", "https", "ws", "wss", "ftp"].contains (String.ofList config.linkScheme) = false := by
    refine eq_false_of_ne_true fun hc => hmem ?_
    rw [List.contains_iff_mem] at hc
    exact List.mem_append_left ["file"] hc
  rw [SchemeKind.of, if_neg hfile, hhost]
  rfl

/-- Links under the scheme do not lead to a file. -/
theorem ne_file : SchemeKind.of config.linkScheme ≠ .file := by
  rw [h.ordinary]
  decide

/-- No link under the scheme is a web link. -/
theorem isWeb_of_isPayment {u : Url} (hu : Link.isPayment config u = true) :
    Link.isWeb u = false := by
  have hscheme : u.scheme = config.linkScheme := of_decide_eq_true hu
  refine decide_eq_false fun hweb => h.not_mem ?_
  rw [← hscheme, hweb, Link.webScheme, String.ofList_toList]
  decide

/-- The scheme of a text that is placed under the payment scheme, and what stands behind it. -/
theorem splitScheme?_cleaned (text : String) :
    Url.splitScheme? (Url.cleaned (config.scheme ++ ":" ++ text).toList) =
      some (config.linkScheme, Url.cleanedEnd text.toList) := by
  have htext : (config.scheme ++ ":" ++ text).toList =
      config.scheme.toList ++ ':' :: text.toList := by
    rw [String.toList_append, String.toList_append, List.append_assoc]
    rfl
  rw [htext, Url.splitScheme?_cleaned h.isScheme]
  rfl

end HasOwnScheme

/-- A link under the payment scheme whose path is neither empty nor begun by a slash shows that the
scheme is one of its own. -/
theorem hasOwnScheme_of_parse {config : PayConfig} {s : String} {u : Url}
    (hparse : Url.parse s = .ok u) (hu : Link.isPayment config u = true)
    (hpath : ¬(u.path.text = [] ∨ u.path.text.head? = some '/')) : config.HasOwnScheme := by
  have hscheme : u.scheme = config.linkScheme := of_decide_eq_true hu
  obtain ⟨hvalid, -⟩ := Url.scheme_of_parse hparse
  obtain ⟨rest, hs⟩ := Url.splitScheme?_of_ofCleaned hparse
  obtain ⟨hread, -⟩ := (Url.ofCleaned_eq_ok_iff hs).1 hparse
  constructor
  · rw [hscheme] at hvalid
    exact Url.isScheme_of_map_toLower hvalid
  · intro hhost
    rw [← hscheme] at hhost
    obtain ⟨segments, hsegments⟩ :=
      Url.readFront_special (SchemeKind.of_ne_ordinary hhost) hread
    rw [hsegments] at hpath
    exact hpath (Url.head?_text_rooted segments)

end PayConfig

namespace Link

/-- A link is read exactly if it parses. -/
theorem parse_eq_ok_iff {s : String} {u : Url} : parse s = .ok u ↔ Url.parse s = .ok u :=
  mapError_eq_ok_iff

/-- What a link under the payment scheme asks for, by its path without escapes. -/
def ofPayment (config : PayConfig) (u : Url) (path : List Char) :
    Except PayError PaymentRequest :=
  if looksLikeLink path then .ok (.transaction (Transaction.ofPath u path))
  else (Transfer.ofPairs config (String.ofList path) u.pairs).map .transfer

/-- A link under a payment scheme of its own is read by its path without escapes. -/
theorem decode_of_isPayment {config : PayConfig} (hconfig : config.HasOwnScheme) {s : String}
    {u : Url} (hparse : Url.parse s = .ok u) (hu : isPayment config u = true) :
    decode s config = (plainPath s u).bind (ofPayment config u) := by
  rw [decode, parse_eq_ok_iff.2 hparse]
  change (if isWeb u = true then _ else if isPayment config u = true then _ else _) = _
  rw [if_neg (by rw [hconfig.isWeb_of_isPayment hu]; decide), if_pos hu]
  rfl

/-- What is read from a link under a payment scheme of its own is decided by its path without
escapes. -/
theorem decode_eq_ok_iff_of_isPayment {config : PayConfig} (hconfig : config.HasOwnScheme)
    {s : String} {u : Url} (hparse : Url.parse s = .ok u) (hu : isPayment config u = true)
    {request : PaymentRequest} :
    decode s config = .ok request ↔
      ∃ path, Text.Utf8.decode (Url.Percent.decode u.path.text) = .ok path ∧
        ofPayment config u path = .ok request := by
  rw [decode_of_isPayment hconfig hparse hu]
  constructor
  · intro h
    obtain ⟨path, hpath, hrequest⟩ := bind_eq_ok_iff.1 h
    exact ⟨path, mapError_eq_ok_iff.1 hpath, hrequest⟩
  · rintro ⟨path, hpath, hrequest⟩
    exact bind_eq_ok_iff.2 ⟨path, mapError_eq_ok_iff.2 hpath, hrequest⟩

/-- Links under a payment scheme of its own that agree in their paths and queries are read as the
same request. -/
theorem decode_iff_of_same_path {config : PayConfig} (hconfig : config.HasOwnScheme) {s s' : String}
    {u v : Url} (hu : Url.parse s = .ok u) (hv : Url.parse s' = .ok v)
    (hpayment : isPayment config u = true) (hscheme : v.scheme = u.scheme)
    (hpath : v.path = u.path) (hquery : v.query = u.query) (request : PaymentRequest) :
    decode s config = .ok request ↔ decode s' config = .ok request := by
  have hpayment' : isPayment config v = true := by rwa [isPayment, hscheme]
  have hpairs : v.pairs = u.pairs := by rw [Url.pairs, hquery, ← Url.pairs]
  have hrequest : ∀ path, ofPayment config v path = ofPayment config u path := by
    intro path
    rw [ofPayment, ofPayment, Transaction.ofPath, Transaction.ofPath, hpairs]
  rw [decode_eq_ok_iff_of_isPayment hconfig hu hpayment,
    decode_eq_ok_iff_of_isPayment hconfig hv hpayment', hpath]
  simp only [hrequest]

/-- What is read as a transfer is under the payment scheme, its path does not look like a link, and
the path and the parameters make the transfer. -/
theorem ofPairs_of_decode {config : PayConfig} {s : String} {u : Url} {r : TransferRequest}
    (hparse : Url.parse s = .ok u) (h : decode s config = .ok (.transfer r)) :
    isPayment config u = true ∧ ∃ path, plainPath s u = .ok path ∧ looksLikeLink path = false ∧
      Transfer.ofPairs config (String.ofList path) u.pairs = .ok r := by
  rw [decode, parse_eq_ok_iff.2 hparse] at h
  change (if isWeb u = true then _ else if isPayment config u = true then _ else _) = _ at h
  split at h
  · cases h
  split at h
  · rename_i hpayment
    obtain ⟨path, hpath, h⟩ := bind_eq_ok_iff.1 h
    refine ⟨hpayment, path, hpath, ?_⟩
    split at h
    · cases h
    · rename_i hlink
      obtain ⟨r', hr', he⟩ := map_eq_ok_iff.1 h
      cases he
      exact ⟨eq_false_of_ne_true hlink, hr'⟩
  · cases h

/-- A path without escapes of characters that text can have is that text. -/
theorem plainPath_eq {s : String} {u : Url} {path : List Char}
    (h : Url.Percent.decode u.path.text = Text.Utf8.encode path) : plainPath s u = .ok path := by
  rw [plainPath, h, Text.Utf8.decode_encode]
  rfl

/-- A path looks like a link unless it has neither a slash nor a colon nor a point. -/
theorem looksLikeLink_eq_false_iff {path : List Char} :
    looksLikeLink path = false ↔ ∀ c ∈ path, c ≠ '/' ∧ c ≠ ':' ∧ c ≠ '.' := by
  rw [looksLikeLink, List.any_eq_false]
  simp only [Bool.or_eq_true, decide_eq_true_eq, not_or, and_assoc]

/-- Letters and digits alone do not look like a link. -/
theorem looksLikeLink_of_isAlphanum {path : List Char} (h : ∀ c ∈ path, c.isAlphanum = true) :
    looksLikeLink path = false := by
  refine looksLikeLink_eq_false_iff.2 fun c hc => ?_
  have hletter := h c hc
  refine ⟨?_, ?_, ?_⟩
  all_goals
    rintro rfl
    exact absurd hletter (by decide)

end Link

end PayLink
