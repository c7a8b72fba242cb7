import PayLink.Proofs.Settings.Expansion
import PayLink.Proofs.Settings.Field
import PayLink.Proofs.Text.Ascii
import PayLink.Proofs.Toml.Reach
/-!
# What a variable in a string can change

Variables are replaced before a file is read, so a value may hold the quotes that end the string in
which its name is written. As long as that string still ends at the quotes that are written for it,
a variable within it changes the field that the string is the value of, and no other.
-/

namespace PayLink

open Expansion Toml

/-- The quotes that stand on either side of a string: single or double ones, one or three of them. -/
def quoteMarks : List (List Char) :=
  ["\"".toList, "'".toList, "\"\"\"".toList, "'''".toList]

/-- A text of a file with one of its strings: what is written before the string, its quotes, what is
written between them, and what is written after it. Each reference stands on one side of the quotes:
a text is left out in which a reference that begins before the string or in it runs across them, as
one whose brace is not closed there does. -/
structure QuotedText where
  /-- What is written before the string. -/
  before : List Char
  /-- The quotes on either side of the string. -/
  quotes : List Char
  /-- What is written between the quotes. -/
  inside : List Char
  /-- What is written after the string. -/
  after : List Char
  /-- The quotes begin and end a string. -/
  quotes_mem : quotes ∈ quoteMarks
  /-- No reference before the string goes on in it. -/
  closed_before : isClosed before = true
  /-- No reference in the string goes on behind it. -/
  closed_inside : isClosed inside = true

namespace QuotedText

variable (t : QuotedText) {env env' : Environment} {f g : Settings.Field} {s s' : Settings}

/-- The text. -/
def text : List Char :=
  t.before ++ (t.quotes ++ (t.inside ++ (t.quotes ++ t.after)))

/-- The text from the string on, with its references replaced. -/
def fromString (env : Environment) : List Char :=
  t.quotes ++ (expand env t.inside ++ (t.quotes ++ expand env t.after))

/-- The string ends at the quotes that are written for it. -/
def Contained (env : Environment) : Prop :=
  ∃ s, string? (t.fromString env) = some (s, expand env t.after)

/-- The string is the value of a field. -/
def IsValueOf (f : Settings.Field) (env : Environment) : Prop :=
  ∃ path, f.At path ∧ StandsAt path (t.fromString env) (expand env t.text)

/-- The quotes begin with a quote, and there is no dollar sign among them. -/
theorem quotes_eq : ∃ q more, t.quotes = q :: more ∧ IsQuote q ∧ '$' ∉ t.quotes := by
  have hmem := t.quotes_mem
  simp only [quoteMarks, List.mem_cons, List.not_mem_nil, or_false] at hmem
  rcases hmem with h | h | h | h
  all_goals
    rw [h]
    exact ⟨_, _, rfl, by decide, by decide⟩

/-- The text with its references replaced. -/
theorem expand_text (env : Environment) :
    expand env t.text = expand env t.before ++ t.fromString env := by
  obtain ⟨q, more, hquotes, hq, hplain⟩ := t.quotes_eq
  have hhead : ∀ b, ∀ c ∈ (t.quotes ++ b).head?, isNameChar c = false ∧ c ≠ '{' := by
    intro b c hc
    rw [hquotes] at hc
    obtain rfl := Option.some.inj hc
    rcases hq with rfl | rfl
    all_goals decide
  rw [text, expand_append t.closed_before (hhead _), expand_plain_append hplain,
    expand_append t.closed_inside (hhead _), expand_plain_append hplain]
  rfl

/-- Values of characters that stand for themselves keep the string between its quotes. -/
theorem contained_of_plain (hinside : ∀ q ∈ t.quotes, ∀ c ∈ expand env t.inside, IsPlain q c)
    (hafter : ∀ q ∈ t.quotes, (expand env t.after).head? ≠ some q) : t.Contained env := by
  have hmem := t.quotes_mem
  simp only [quoteMarks, List.mem_cons, List.not_mem_nil, or_false] at hmem
  refine ⟨expand env t.inside, ?_⟩
  rw [fromString]
  rcases hmem with h | h | h | h
  all_goals
    rw [h] at hinside hafter ⊢
  · exact string?_of_plain (.inl rfl) (hinside _ List.mem_cons_self) (hafter _ List.mem_cons_self)
  · exact string?_of_plain (.inr rfl) (hinside _ List.mem_cons_self) (hafter _ List.mem_cons_self)
  · exact string?_of_plain_block (.inl rfl) (hinside _ List.mem_cons_self)
      (hafter _ List.mem_cons_self)
  · exact string?_of_plain_block (.inr rfl) (hinside _ List.mem_cons_self)
      (hafter _ List.mem_cons_self)

/-- A variable within a string changes no field but the one that the string is the value of, as long
as the string ends at the quotes that are written for it. -/
theorem agree_of_contained (hsame : ∀ name ∈ names t.before ++ names t.after,
      env.get? name = env'.get? name) (hvalue : t.IsValueOf f env) (h : t.Contained env)
    (h' : t.Contained env') (hs : Settings.ofText? env (String.ofList t.text) = some s)
    (hs' : Settings.ofText? env' (String.ofList t.text) = some s') (hg : g ≠ f) :
    g.Agree s s' := by
  obtain ⟨path, hat, hstands⟩ := hvalue
  obtain ⟨c, hc⟩ := h
  obtain ⟨d, hd⟩ := h'
  obtain ⟨q, more, hquotes, hq, -⟩ := t.quotes_eq
  have hbefore : expand env' t.before = expand env t.before :=
    expand_congr fun name hname => (hsame name (List.mem_append_left _ hname)).symm
  have hafter : expand env' t.after = expand env t.after :=
    expand_congr fun name hname => (hsame name (List.mem_append_right _ hname)).symm
  have hfrom : ∀ env, t.fromString env =
      q :: (more ++ (expand env t.inside ++ (t.quotes ++ expand env t.after))) := by
    intro env
    rw [fromString, hquotes]
    rfl
  rw [Settings.ofText?, String.toList_ofList, t.expand_text] at hs hs'
  obtain ⟨v, hv, hs⟩ := Option.bind_eq_some_iff.1 hs
  obtain ⟨w, hw, hs'⟩ := Option.bind_eq_some_iff.1 hs'
  rw [t.expand_text] at hstands
  rw [hbefore] at hw
  rw [hafter] at hd
  rw [hfrom] at hstands hc hd hv hw
  exact Settings.agree_of_sameBut hat (read?_sameBut hq hc hd hstands hv hw) hg hs hs'

/-- A line with the endpoint of the ledger, which holds a key. -/
def endpointLine : QuotedText where
  before := "rpc_url = ".toList
  quotes := "\"".toList
  inside := "https://rpc.example/?api-key=$KEY".toList
  after := "\n".toList
  quotes_mem := by decide
  closed_before := by decide +kernel
  closed_inside := by decide +kernel

/-- An environment with one variable. -/
def withKey (value : String) : Environment :=
  ⟨[("KEY", value)]⟩

/-- The endpoint is the value of its field. -/
theorem endpointLine_isValueOf : endpointLine.IsValueOf .rpcUrl (withKey "k") := by
  refine ⟨[.key "rpc_url"], .rpcUrl, ?_⟩
  have htext : withoutMark (expand (withKey "k") endpointLine.text) =
      "rpc_url = \"https://rpc.example/?api-key=k\"\n".toList := by decide +kernel
  have hfrom : skipBlanks (" \"https://rpc.example/?api-key=k\"\n".toList) =
      endpointLine.fromString (withKey "k") := by decide +kernel
  have hkey : key? ("rpc_url = \"https://rpc.example/?api-key=k\"\n".toList.length + 1)
      "rpc_url = \"https://rpc.example/?api-key=k\"\n".toList =
        some (["rpc_url"], '=' :: " \"https://rpc.example/?api-key=k\"\n".toList) := by
    decide +kernel
  rw [StandsAt, htext]
  refine .line (by decide +kernel) (by decide) hkey ?_
  rw [hfrom]
  exact .here

/-- A plain key stays within the endpoint. -/
theorem endpointLine_contained (value : String)
    (h : (expand (withKey value) endpointLine.inside).all (fun c => decide (IsPlain '"' c)) = true) :
    endpointLine.Contained (withKey value) := by
  have hnames : names endpointLine.after = [] := by decide +kernel
  have hafter : expand (withKey value) endpointLine.after = "\n".toList :=
    expand_eq_self fun name hname => by rw [hnames] at hname; cases hname
  refine endpointLine.contained_of_plain (fun q hq => ?_) fun q hq => ?_
  · rw [List.mem_singleton.1 hq]
    exact Text.forall_mem_of_all h
  · rw [List.mem_singleton.1 hq, hafter]
    decide

/-- Two keys of an endpoint give settings that differ in the endpoint only. -/
theorem agree_of_contained_endpointLine : ∃ s s' : Settings,
    Settings.ofText? (withKey "k") (String.ofList endpointLine.text) = some s ∧
      Settings.ofText? (withKey "k2") (String.ofList endpointLine.text) = some s' ∧
        s.rpcUrl ≠ s'.rpcUrl ∧ ∀ g, g ≠ .rpcUrl → Settings.Field.Agree s s' g := by
  have hnames : names endpointLine.before ++ names endpointLine.after = [] := by decide +kernel
  have hsame : ∀ name ∈ names endpointLine.before ++ names endpointLine.after,
      (withKey "k").get? name = (withKey "k2").get? name := by
    rw [hnames]
    exact fun name hname => absurd hname List.not_mem_nil
  have hcontained := endpointLine_contained "k" (by decide +kernel)
  have hcontained' := endpointLine_contained "k2" (by decide +kernel)
  have hurl : (Settings.ofText? (withKey "k") (String.ofList endpointLine.text)).map (·.rpcUrl) =
      some (some "https://rpc.example/?api-key=k") := by decide +kernel
  have hurl' : (Settings.ofText? (withKey "k2") (String.ofList endpointLine.text)).map (·.rpcUrl) =
      some (some "https://rpc.example/?api-key=k2") := by decide +kernel
  obtain ⟨s, hs, hrpc⟩ := Option.map_eq_some_iff.1 hurl
  obtain ⟨s', hs', hrpc'⟩ := Option.map_eq_some_iff.1 hurl'
  refine ⟨s, s', hs, hs', ?_, fun g hg => ?_⟩
  · rw [hrpc, hrpc']
    decide
  · exact endpointLine.agree_of_contained hsame endpointLine_isValueOf hcontained hcontained' hs hs'
      hg

/-- A key with a quote ends the string of the endpoint and writes a line of its own: both files load,
and the level at which the ledger is asked is another one. -/
theorem commitment_of_escaping_key :
    (∀ name ∈ names endpointLine.before ++ names endpointLine.after, (withKey "k").get? name =
      (withKey "k\"\ncommitment = \"processed").get? name) ∧
    endpointLine.IsValueOf .rpcUrl (withKey "k") ∧
    (Settings.ofText? (withKey "k") (String.ofList endpointLine.text)).map (·.commitment) =
      some "confirmed" ∧
    (Settings.ofText? (withKey "k\"\ncommitment = \"processed")
      (String.ofList endpointLine.text)).map (·.commitment) = some "processed" := by
  refine ⟨?_, endpointLine_isValueOf, by decide +kernel, by decide +kernel⟩
  decide +kernel

end QuotedText

end PayLink
