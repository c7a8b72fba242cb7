import Mathlib.Data.List.TakeWhile
import PayLink.Proofs.Url.Host
/-!
# Written authorities

An authority is written so that its parts are found in its text again: the user name and password
hold no `@`, the host ends at the first colon outside brackets, and the port is a number that is not
left out under the scheme. Under a special scheme, reading the text of an authority is reading its
host.
-/

namespace PayLink

open Text Url

namespace Url

/-- Escaping what is escaped in a user name changes nothing the second time. -/
theorem inUserinfo_of_isEncoded {c : Char} (h : Form.isEncoded c = true) :
    Percent.inUserinfo c = false :=
  Form.forall_isEncoded (P := fun c => Percent.inUserinfo c = false) (by decide) h

/-- Nothing that is escaped in a user name stands in an escaped one. -/
theorem inUserinfo_of_mem_encode {c : Char} {cs : List Char}
    (h : c ∈ Percent.encode Percent.inUserinfo cs) : Percent.inUserinfo c = false :=
  not_selected_of_mem_encode (fun _ => inUserinfo_of_isEncoded) h

/-- The characters of a user name and password are those that are not escaped, and the colon between
them. -/
theorem mem_userinfo {c : Char} {cs : List Char} (h : c ∈ userinfo cs) :
    c = ':' ∨ Percent.inUserinfo c = false := by
  unfold userinfo at h
  split at h
  dsimp only at h
  split at h
  · exact .inr (inUserinfo_of_mem_encode h)
  · exact .inr (inUserinfo_of_mem_encode h)
  · rcases List.mem_append.1 h with h | h
    · exact .inr (inUserinfo_of_mem_encode h)
    · rcases List.mem_cons.1 h with h | h
      · exact .inl h
      · exact .inr (inUserinfo_of_mem_encode h)

/-- A user name and password are read as themselves. -/
theorem userinfo_userinfo (cs : List Char) : userinfo (userinfo cs) = userinfo cs := by
  have hcolon : ∀ ds, ':' ∉ Percent.encode Percent.inUserinfo ds := fun ds hm =>
    absurd (inUserinfo_of_mem_encode hm) (by decide)
  have hkeep : ∀ ds, Percent.encode Percent.inUserinfo (Percent.encode Percent.inUserinfo ds) =
      Percent.encode Percent.inUserinfo ds := fun ds =>
    Percent.encode_eq_self fun c hc => inUserinfo_of_mem_encode hc
  have hname : ∀ ds, userinfo (Percent.encode Percent.inUserinfo ds) =
      Percent.encode Percent.inUserinfo ds := by
    intro ds
    simp only [userinfo, cut_of_not_mem (hcolon ds), hkeep]
  cases hcut : cut ':' cs with
  | mk name password =>
    simp only [userinfo, hcut]
    rcases password with - | ⟨- | ⟨c, ds⟩⟩
    · exact hname name
    · exact hname name
    · simp only [cut_append (hcolon name), hkeep]
      have hagain := hkeep (c :: ds)
      rcases Percent.encode_cons_eq Percent.inUserinfo c ds with he | ⟨more, he⟩
      · rw [he] at hagain ⊢
        simp only [hagain]
      · rw [he] at hagain ⊢
        simp only [hagain]

/-- A host without colons and brackets ends at the next colon. -/
theorem splitHost_plain {cs : List Char} (h : ∀ c ∈ cs, c ≠ ':' ∧ c ≠ '[') (rest : List Char) :
    splitHost false (cs ++ rest) =
      (cs ++ (splitHost false rest).1, (splitHost false rest).2) := by
  induction cs with
  | nil => rfl
  | cons c cs ih =>
    obtain ⟨hcolon, hbracket⟩ := h c List.mem_cons_self
    have hrest := ih fun d hd => h d (List.mem_cons_of_mem _ hd)
    rw [List.cons_append, splitHost, if_neg (by simp [hcolon])]
    simp [hbracket, hrest]

/-- Within brackets no colon ends a host. -/
theorem splitHost_brackets {cs : List Char} (h : ']' ∉ cs) (rest : List Char) :
    splitHost true (cs ++ ']' :: rest) =
      (cs ++ ']' :: (splitHost false rest).1, (splitHost false rest).2) := by
  induction cs with
  | nil => simp [splitHost]
  | cons c cs ih =>
    have hc : c ≠ ']' := fun he => h (he ▸ List.mem_cons_self)
    have hrest := ih fun hm => h (List.mem_cons_of_mem _ hm)
    rw [List.cons_append, splitHost, if_neg (by simp)]
    simp [hc, hrest]

/-- A written host ends where its port begins. -/
theorem splitHost_written {host : List Char} (h : Host.Written host) (rest : List Char) :
    splitHost false (host ++ rest) =
      (host ++ (splitHost false rest).1, (splitHost false rest).2) := by
  cases h with
  | @bracketed gs hgs =>
    have hclose : ']' ∉ Ipv6.text gs := by
      intro hm
      rcases Ipv6.mem_text hm with hcolon | hdigit
      · exact absurd hcolon (by decide)
      · exact absurd hdigit (by decide)
    have hinner := splitHost_brackets hclose rest
    rw [List.append_assoc, List.cons_append, List.singleton_append, splitHost, if_neg (by decide)]
    simp [hinner]
  | plain hplain =>
    refine splitHost_plain (fun c hc => ?_) rest
    obtain ⟨hfree, -⟩ := hplain c hc
    constructor
    · rintro rfl
      exact absurd hfree (by decide)
    · rintro rfl
      exact absurd hfree (by decide)

/-- The host of a text under a scheme. -/
def hostOf (kind : SchemeKind) (cs : List Char) : Except Flaw (List Char) :=
  if kind.isSpecial then Host.special cs else Host.ordinary cs

/-- The port of a text, if there is one. -/
def portOf (scheme : List Char) : Option (List Char) → Except Flaw (Option Nat × List Char)
  | none => .ok (none, [])
  | some cs => readPort scheme cs

/-- What is read behind a user name once the host is known. -/
def joinHost (scheme user : List Char) (portText : Option (List Char)) (host : List Char) :
    Except Flaw (Authority × List Char) :=
  if host.isEmpty ∧ portText.isSome then .error .emptyHost
  else portOf scheme portText >>= fun p =>
    if host.isEmpty ∧ !user.isEmpty then .error .emptyHost else .ok (⟨user, host, p.1⟩, p.2)

/-- Behind a user name the host is read first and then the port. -/
theorem readHost_eq (scheme user cs : List Char) :
    readHost scheme user cs =
      if (splitHost false cs).1.isEmpty ∧ (SchemeKind.of scheme).isSpecial then .error .emptyHost
      else hostOf (SchemeKind.of scheme) (splitHost false cs).1 >>=
        joinHost scheme user (splitHost false cs).2 := by
  unfold readHost hostOf
  cases splitHost false cs with
  | mk hostText portText =>
    dsimp only
    split
    · rfl
    · split
      · cases Host.special hostText with
        | error flaw => rfl
        | ok host =>
          cases portText with
          | none => rfl
          | some p => rfl
      · cases Host.ordinary hostText with
        | error flaw => rfl
        | ok host =>
          cases portText with
          | none => rfl
          | some p => rfl

/-- A host is joined with its port unless it is empty while something else is there. -/
theorem joinHost_eq_ok_iff {scheme user host rest : List Char} {portText : Option (List Char)}
    {a : Authority} :
    joinHost scheme user portText host = .ok (a, rest) ↔
      a.host = host ∧ a.userinfo = user ∧ portOf scheme portText = .ok (a.port, rest) ∧
        (host = [] → portText = none ∧ user = []) := by
  obtain ⟨userinfo, host', port⟩ := a
  unfold joinHost
  constructor
  · intro h
    split at h
    · cases h
    · rename_i hport
      obtain ⟨p, hp, h⟩ := bind_eq_ok_iff.1 h
      split at h
      · cases h
      · rename_i huser
        cases h
        refine ⟨rfl, rfl, hp, fun hnil => ?_⟩
        subst hnil
        exact ⟨by simpa using hport, by simpa using huser⟩
  · rintro ⟨rfl, rfl, hp, hempty⟩
    have hport : ¬(host'.isEmpty = true ∧ portText.isSome = true) := by
      rintro ⟨hnil, hsome⟩
      rw [(hempty (List.isEmpty_iff.1 hnil)).1] at hsome
      cases hsome
    have huser : ¬(host'.isEmpty = true ∧ (!userinfo.isEmpty) = true) := by
      rintro ⟨hnil, hsome⟩
      have huser : userinfo = [] := (hempty (List.isEmpty_iff.1 hnil)).2
      rw [huser] at hsome
      cases hsome
    rw [if_neg hport, hp]
    exact if_neg huser

/-- What is read behind a user name. -/
theorem readHost_eq_ok_iff {scheme user cs rest : List Char} {a : Authority} :
    readHost scheme user cs = .ok (a, rest) ↔
      ((splitHost false cs).1 = [] → (SchemeKind.of scheme).isSpecial = false) ∧
      hostOf (SchemeKind.of scheme) (splitHost false cs).1 = .ok a.host ∧
      a.userinfo = user ∧ portOf scheme (splitHost false cs).2 = .ok (a.port, rest) ∧
      (a.host = [] → (splitHost false cs).2 = none ∧ user = []) := by
  rw [readHost_eq]
  constructor
  · intro h
    split at h
    · cases h
    · rename_i hthere
      obtain ⟨host, hhost, h⟩ := bind_eq_ok_iff.1 h
      obtain ⟨rfl, huser, hport, hempty⟩ := joinHost_eq_ok_iff.1 h
      refine ⟨fun hnil => ?_, hhost, huser, hport, hempty⟩
      rw [hnil] at hthere
      simpa using hthere
  · rintro ⟨hthere, hhost, huser, hport, hempty⟩
    rw [if_neg, hhost]
    · exact joinHost_eq_ok_iff.2 ⟨rfl, huser, hport, hempty⟩
    · rintro ⟨hnil, hspecial⟩
      rw [hthere (List.isEmpty_iff.1 hnil)] at hspecial
      cases hspecial

/-- A host that is read is written, whatever the scheme. -/
theorem written_of_hostOf {kind : SchemeKind} {cs host : List Char}
    (h : hostOf kind cs = .ok host) : Host.Written host := by
  unfold hostOf at h
  split at h
  · exact Host.written_of_special h
  · exact Host.written_of_ordinary h

/-- A host is read as itself, if it is read at all. -/
theorem hostOf_eq_self {kind : SchemeKind} {cs host host' : List Char}
    (h : hostOf kind cs = .ok host) (h' : hostOf kind host = .ok host') : host' = host := by
  unfold hostOf at h h'
  split at h
  · rename_i hspecial
    rw [if_pos hspecial] at h'
    exact Host.special_eq_self h h'
  · rename_i hordinary
    rw [if_neg hordinary] at h'
    exact Except.ok.inj (h'.symm.trans (Host.ordinary_of_ordinary h))

/-- The port of an authority as it is written. -/
def portText : Option Nat → List Char
  | none => []
  | some p => ':' :: Nat.toDigits 10 p

/-- The text of a port behind its colon. -/
theorem splitHost_portText (port : Option Nat) :
    splitHost false (portText port) = ([], port.map (Nat.toDigits 10)) := by
  cases port with
  | none => rfl
  | some p => rfl

/-- A port that is read is a number of a port that is not left out. -/
theorem port_of_readPort {scheme cs rest : List Char} {p : Nat}
    (h : readPort scheme cs = .ok (some p, rest)) : p ≤ 65535 ∧ defaultPort? scheme ≠ some p := by
  unfold readPort at h
  dsimp only at h
  split at h
  · cases h
  · rename_i hsmall
    have hport : ∀ {n : Nat} {absent : Prop} [Decidable absent], 
        (if absent ∨ defaultPort? scheme = some n then none else some n) = some p →
        ¬65535 < n → p ≤ 65535 ∧ defaultPort? scheme ≠ some p := by
      intro n absent _ hsome hn
      split at hsome
      · cases hsome
      · rename_i hno
        rw [← Option.some.inj hsome]
        exact ⟨Nat.le_of_not_lt hn, fun hdefault => hno (.inr hdefault)⟩
    split at h
    · exact hport (Prod.mk.inj (Except.ok.inj h)).1 hsmall
    · exact hport (Prod.mk.inj (Except.ok.inj h)).1 hsmall
    · cases h

/-- A port that is not left out is read again. -/
theorem readPort_toDigits {scheme : List Char} {p : Nat} (hp : p ≤ 65535)
    (hdefault : defaultPort? scheme ≠ some p) :
    readPort scheme (Nat.toDigits 10 p) = .ok (some p, []) := by
  have hdigits : (Nat.toDigits 10 p).takeWhile Char.isDigit = Nat.toDigits 10 p :=
    List.takeWhile_eq_self_iff.2 fun c hc =>
      Nat.isDigit_of_mem_toDigits (by decide) (by decide) hc
  have hvalue : Nat.ofDigitChars 10 (Nat.toDigits 10 p) 0 = p :=
    Nat.ofDigitChars_toDigits (by decide) (by decide)
  have hthere : ¬((Nat.toDigits 10 p).isEmpty = true ∨ defaultPort? scheme = some p) := by
    rintro (hnil | hleft)
    · exact Nat.toDigits_ne_nil (List.isEmpty_iff.1 hnil)
    · exact hdefault hleft
  unfold readPort
  simp only [hdigits, hvalue, List.drop_length]
  rw [if_neg (Nat.not_lt.2 hp), if_neg hthere]

/-- A text without `@` has no user name. -/
theorem splitUserinfo_of_not_mem {cs : List Char} (h : '@' ∉ cs) :
    splitUserinfo cs = (none, cs) := by
  have hno : ¬cs.contains '@' = true := by rwa [List.contains_iff_mem]
  exact if_neg hno

/-- The user name ends at the last `@`. -/
theorem splitUserinfo_append (user : List Char) {cs : List Char} (h : '@' ∉ cs) :
    splitUserinfo (user ++ '@' :: cs) = (some user, cs) := by
  have hsplit : user ++ '@' :: cs = (user ++ ['@']) ++ cs := by
    rw [List.append_assoc, List.singleton_append]
  have hend : endWhile (fun c => decide (c ≠ '@')) (user ++ '@' :: cs) = cs := by
    rw [hsplit]
    refine endWhile_append (fun c hc => decide_eq_true fun he => h (he ▸ hc)) fun c hc => ?_
    rw [List.getLast?_concat] at hc
    rw [← Option.some.inj hc]
    rfl
  have hcontains : (user ++ '@' :: cs).contains '@' = true :=
    List.contains_iff_mem.2 (List.mem_append_right _ List.mem_cons_self)
  have hlength : (user ++ '@' :: cs).length - cs.length - 1 = user.length := by
    rw [List.length_append, List.length_cons]
    omega
  rw [endWhile] at hend
  rw [splitUserinfo, hend, if_pos hcontains, hlength, List.take_left]

end Url

namespace Authority

/-- An authority, written so that its parts are found in its text again. -/
structure Written (scheme : List Char) (a : Authority) : Prop where
  /-- The host is one that is read under the scheme, or there is none. -/
  host : a.host = [] ∨ ∃ cs, hostOf (SchemeKind.of scheme) cs = .ok a.host
  /-- Under a scheme that leads to a host there is one. -/
  special : SchemeKind.of scheme = .special → a.host ≠ []
  /-- Without a host there is neither user name nor port. -/
  empty : a.host = [] → a.userinfo = [] ∧ a.port = none
  /-- The user name and password are read as themselves. -/
  userinfo_eq : Url.userinfo a.userinfo = a.userinfo
  /-- Their characters are not escaped, apart from the colon between them. -/
  userinfo_plain : ∀ c ∈ a.userinfo, c = ':' ∨ Percent.inUserinfo c = false
  /-- The port is a number of a port that is not left out. -/
  port : ∀ p, a.port = some p → p ≤ 65535 ∧ defaultPort? scheme ≠ some p

/-- The text of an authority without a user name. -/
def hostText (a : Authority) : List Char :=
  a.host ++ portText a.port

/-- An authority is its user name, if there is one, and the text without it. -/
theorem text_eq (a : Authority) :
    a.text = if a.userinfo.isEmpty then a.hostText else a.userinfo ++ '@' :: a.hostText := by
  have htext : a.text = (if a.userinfo.isEmpty then [] else a.userinfo ++ ['@']) ++ a.host ++
      portText a.port := rfl
  rw [htext, List.append_assoc]
  split
  · rfl
  · rw [List.append_assoc, List.singleton_append]
    rfl

namespace Written

variable {scheme : List Char} {a : Authority} (h : a.Written scheme)

include h

/-- The host is written. -/
theorem written_host : Host.Written a.host := by
  rcases h.host with hnil | ⟨cs, hcs⟩
  · rw [hnil]
    exact .plain fun c hc => absurd hc List.not_mem_nil
  · exact written_of_hostOf hcs

/-- No mark stands in a host and its port, nor anything that is escaped. -/
theorem plain_of_mem_hostText {c : Char} (hc : c ∈ a.hostText) :
    Percent.isControl c = false ∧ c ∉ Host.marks := by
  rcases List.mem_append.1 hc with hc | hc
  · exact h.written_host.plain_of_mem hc
  · cases hport : a.port with
    | none =>
      rw [hport] at hc
      cases hc
    | some p =>
      rw [hport] at hc
      rcases List.mem_cons.1 hc with hcolon | hdigit
      · rw [hcolon]
        decide
      · have hd : c.isDigit = true := Nat.isDigit_of_mem_toDigits (by decide) (by decide) hdigit
        exact forall_ascii (P := fun c => c.isDigit = true →
          Percent.isControl c = false ∧ c ∉ Host.marks) (by decide) (isDigit_lt hd) hd

/-- No mark stands in an authority but the `@` behind a user name, nor anything that is escaped. -/
theorem plain_of_mem {c : Char} (hc : c ∈ a.text) :
    Percent.isControl c = false ∧ (c = '@' ∨ c ∉ Host.marks) := by
  have hhost : ∀ d ∈ a.hostText, Percent.isControl d = false ∧ (d = '@' ∨ d ∉ Host.marks) := by
    intro d hd
    obtain ⟨hcontrol, hmark⟩ := h.plain_of_mem_hostText hd
    exact ⟨hcontrol, .inr hmark⟩
  rw [text_eq] at hc
  split at hc
  · exact hhost c hc
  · rcases List.mem_append.1 hc with hc | hc
    · rcases h.userinfo_plain c hc with hcolon | hplain
      · rw [hcolon]
        decide
      · have hmarks : ∀ d ∈ Host.marks, Percent.inUserinfo d = true :=
          forall_mem_of_all (by decide)
        refine ⟨?_, .inr fun hmark => ?_⟩
        · rw [Percent.inUserinfo, Percent.inPath, Bool.or_eq_false_iff, Bool.or_eq_false_iff]
            at hplain
          exact hplain.1.1
        · rw [hmarks c hmark] at hplain
          cases hplain
    · rcases List.mem_cons.1 hc with hat | hc
      · rw [hat]
        decide
      · exact hhost c hc

/-- The text of an authority is read from its user name on, whatever follows the authority. -/
theorem readAuthority_text (ends : Bool) :
    readAuthority scheme a.text ends = readHost scheme a.userinfo a.hostText := by
  have hat : '@' ∉ a.hostText := fun hm => (h.plain_of_mem_hostText hm).2 (by decide)
  rw [text_eq]
  by_cases huser : a.userinfo = []
  · rw [huser, readAuthority]
    simp only [List.isEmpty_nil, if_true, splitUserinfo_of_not_mem hat]
  · have hne : ¬a.userinfo.isEmpty = true := by rwa [List.isEmpty_iff]
    obtain ⟨c, cs, hcons⟩ := List.exists_cons_of_ne_nil huser
    rw [if_neg hne, readAuthority, splitUserinfo_append _ hat, hcons]
    simp only
    rw [← hcons, h.userinfo_eq]

/-- The host and the port of an authority are found in its text. -/
theorem splitHost_hostText :
    splitHost false a.hostText = (a.host, a.port.map (Nat.toDigits 10)) := by
  rw [hostText, splitHost_written h.written_host, splitHost_portText, List.append_nil]

/-- The port of an authority is read again. -/
theorem portOf_port : portOf scheme (a.port.map (Nat.toDigits 10)) = .ok (a.port, []) := by
  cases hport : a.port with
  | none => rfl
  | some p =>
    obtain ⟨hp, hdefault⟩ := h.port p hport
    exact readPort_toDigits hp hdefault

/-- Reading the text of an authority is reading its host. -/
theorem readAuthority_text_eq_ok_iff (hfile : SchemeKind.of scheme ≠ .file) {ends : Bool}
    {a' : Authority} {rest : List Char} :
    readAuthority scheme a.text ends = .ok (a', rest) ↔
      hostOf (SchemeKind.of scheme) a.host = .ok a.host ∧ a' = a ∧ rest = [] := by
  have hthere : a.host = [] → (SchemeKind.of scheme).isSpecial = false := by
    intro hnil
    cases hkind : SchemeKind.of scheme with
    | ordinary => rfl
    | special => exact absurd hnil (h.special hkind)
    | file => exact absurd hkind hfile
  rw [h.readAuthority_text, readHost_eq_ok_iff, h.splitHost_hostText, h.portOf_port]
  constructor
  · rintro ⟨-, hhost, huser, hport, -⟩
    obtain ⟨hport, hrest⟩ := Prod.mk.inj (Except.ok.inj hport)
    have hself : a'.host = a.host := by
      rcases h.host with hnil | ⟨cs, hcs⟩
      · rw [hnil, hostOf, hthere hnil] at hhost
        rw [hnil]
        exact (Except.ok.inj hhost).symm
      · exact hostOf_eq_self hcs hhost
    rw [hself] at hhost
    refine ⟨hhost, ?_, hrest.symm⟩
    change (⟨a'.userinfo, a'.host, a'.port⟩ : Authority) = a
    rw [huser, hself, ← hport]
  · rintro ⟨hhost, rfl, rfl⟩
    refine ⟨hthere, hhost, rfl, rfl, fun hnil => ?_⟩
    obtain ⟨huser, hport⟩ := h.empty hnil
    rw [hport]
    exact ⟨rfl, huser⟩

end Written

end Authority

namespace Url

/-- An authority that is read is written. -/
theorem written_of_readHost {scheme user cs rest : List Char} {a : Authority}
    (heq : userinfo user = user)
    (hplain : ∀ c ∈ user, c = ':' ∨ Percent.inUserinfo c = false)
    (h : readHost scheme user cs = .ok (a, rest)) : a.Written scheme := by
  obtain ⟨hthere, hhost, rfl, hport, hempty⟩ := readHost_eq_ok_iff.1 h
  refine ⟨.inr ⟨_, hhost⟩, fun hspecial => ?_, fun hnil => ?_, heq, hplain, fun p hp => ?_⟩
  · rw [hostOf, hspecial] at hhost
    exact Host.special_ne_nil hhost
  · obtain ⟨hnone, huser⟩ := hempty hnil
    rw [hnone] at hport
    exact ⟨huser, (Prod.mk.inj (Except.ok.inj hport)).1.symm⟩
  · rw [hp] at hport
    unfold portOf at hport
    split at hport
    · cases hport
    · exact port_of_readPort hport

/-- An authority that is read is written. -/
theorem written_of_readAuthority {scheme cs rest : List Char} {ends : Bool} {a : Authority}
    (h : readAuthority scheme cs ends = .ok (a, rest)) : a.Written scheme := by
  unfold readAuthority at h
  split at h
  · exact written_of_readHost rfl (fun c hc => absurd hc List.not_mem_nil) h
  · split at h
    · exact written_of_readHost rfl (fun c hc => absurd hc List.not_mem_nil) h
    · cases h
  · exact written_of_readHost (userinfo_userinfo _) (fun c hc => mem_userinfo hc) h

end Url

end PayLink
