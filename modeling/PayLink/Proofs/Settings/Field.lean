import PayLink.Proofs.Toml.Place
import PayLink.Settings
/-!
# The fields of settings

The fields of settings and of a payment configuration, what each is read with, and where its value
stands in a file. Files whose values are the same but for the place of one field have settings that
agree in every other field.
-/

namespace PayLink

open Json Toml

namespace Json.Record

section Same

variable {names : List String} {r r' : Record} {k : String} {path : List Step} {v w : Value}

/-- The known members of objects that are the same but for what stands at a key. -/
theorem known?_allBut {same : Value → Value → Prop} {ms ms' : List (Option String × Value)}
    (h : AllBut (some k) same ms ms') (hr : known? names ms = some r)
    (hr' : known? names ms' = some r') : AllBut k same r r' := by
  induction h generalizing r r' with
  | nil =>
    obtain rfl := Option.some.inj hr
    obtain rfl := Option.some.inj hr'
    exact .nil
  | @cons m m' ms ms' hm _ ih =>
    obtain ⟨key | key, v⟩ := m
    · cases hr
    obtain ⟨key', v'⟩ := m'
    obtain ⟨rfl, hsame⟩ := hm
    obtain ⟨r, hmore, rfl⟩ := Option.map_eq_some_iff.1 hr
    obtain ⟨r', hmore', rfl⟩ := Option.map_eq_some_iff.1 hr'
    split
    · refine .cons ⟨rfl, hsame.imp_right fun h => ⟨?_, h.2⟩⟩ (ih hmore hmore')
      exact Option.some.inj h.1
    · exact ih hmore hmore'

/-- The fields of objects that are the same but for what stands at a key. -/
theorem ofValue?_sameBut_key (h : SameBut (.key k :: path) v w) (hr : ofValue? names v = some r)
    (hr' : ofValue? names w = some r') : AllBut k (SameBut path) r r' := by
  obtain ⟨ms, ms', rfl, rfl, hms⟩ := h
  obtain ⟨known, hknown, hdistinct⟩ := Option.bind_eq_some_iff.1 hr
  obtain ⟨known', hknown', hdistinct'⟩ := Option.bind_eq_some_iff.1 hr'
  obtain ⟨-, hr⟩ := Option.ite_none_right_eq_some.1 hdistinct
  obtain ⟨-, hr'⟩ := Option.ite_none_right_eq_some.1 hdistinct'
  rw [← Option.some.inj hr, ← Option.some.inj hr']
  exact known?_allBut hms hknown hknown'

/-- Names with items that are the same but for one. -/
theorem zip_allBut {same : Value → Value → Prop} {x y : Value} (hsame : same x y)
    (before after : List Value) (hk : names[before.length]? = some k) :
    AllBut k same (names.zip (before ++ x :: after)) (names.zip (before ++ y :: after)) := by
  induction before generalizing names with
  | nil =>
    obtain ⟨names, rfl⟩ := List.head?_eq_some_iff.1 (List.head?_eq_getElem?.trans hk)
    exact .cons ⟨rfl, .inr ⟨rfl, hsame⟩⟩ (AllBut.refl _)
  | cons b before ih =>
    cases names with
    | nil => cases hk
    | cons name names => exact .cons ⟨rfl, .inl rfl⟩ (ih hk)

/-- The fields of arrays that are the same but for one item. -/
theorem ofValue?_sameBut_item {i : ℕ} (hk : names[i]? = some k)
    (h : SameBut (.item i :: path) v w) (hr : ofValue? names v = some r)
    (hr' : ofValue? names w = some r') : AllBut k (SameBut path) r r' := by
  obtain ⟨before, x, y, after, rfl, rfl, rfl, hsame⟩ := h
  obtain ⟨-, hr⟩ := Option.ite_none_right_eq_some.1 hr
  obtain ⟨-, hr'⟩ := Option.ite_none_right_eq_some.1 hr'
  rw [← Option.some.inj hr, ← Option.some.inj hr']
  exact zip_allBut hsame before after hk

/-- A field with the same value is read as the same. -/
theorem optional_congr {α : Type} {name : String} {default : α} {f : Value → Option α}
    (h : r.lookup name = r'.lookup name) :
    r.optional name default f = r'.optional name default f := by
  rw [optional, optional, h]

end Same

end Json.Record

namespace PayConfig

/-- The fields of a payment configuration. -/
inductive Field
  | scheme
  | nativeDecimals
  | systemProgram
  | tokenProgram
  | extendedTokenProgram
  | associatedTokenProgram
  | memoProgram
  | knownTokens
  deriving DecidableEq, Repr

namespace Field

/-- What a field holds. -/
def Content : Field → Type
  | scheme => String
  | nativeDecimals => UInt8
  | knownTokens => TokenTable
  | systemProgram | tokenProgram | extendedTokenProgram | associatedTokenProgram | memoProgram =>
    Address

/-- The name of a field in a file. -/
def name : Field → String
  | scheme => "scheme"
  | nativeDecimals => "native_decimals"
  | systemProgram => "system_program"
  | tokenProgram => "token_program"
  | extendedTokenProgram => "token_2022_program"
  | associatedTokenProgram => "associated_token_program"
  | memoProgram => "memo_program"
  | knownTokens => "known_tokens"

/-- What a field of a configuration holds. -/
def get (c : PayConfig) : (f : Field) → f.Content
  | scheme => c.scheme
  | nativeDecimals => c.nativeDecimals
  | systemProgram => c.systemProgram
  | tokenProgram => c.tokenProgram
  | extendedTokenProgram => c.extendedTokenProgram
  | associatedTokenProgram => c.associatedTokenProgram
  | memoProgram => c.memoProgram
  | knownTokens => c.knownTokens

/-- How the value of a field is read. -/
def read? : (f : Field) → Value → Option f.Content
  | scheme => Value.text?
  | nativeDecimals => Value.uint8?
  | systemProgram => Address.ofJson?
  | tokenProgram => Address.ofJson?
  | extendedTokenProgram => Address.ofJson?
  | associatedTokenProgram => Address.ofJson?
  | memoProgram => Address.ofJson?
  | knownTokens => TokenTable.ofJson?

/-- Different fields have different names. -/
theorem name_injective {f g : Field} (h : f.name = g.name) : f = g := by
  cases f <;> cases g <;> first | rfl | exact absurd h (by decide)

end Field

/-- A configuration is read field by field. -/
theorem exists_record_of_ofJson? {v : Value} {c : PayConfig} (h : ofJson? v = some c) :
    ∃ r, Record.ofValue? fieldNames v = some r ∧
      ∀ f : Field, r.optional f.name (f.get {}) f.read? = some (f.get c) := by
  simp only [ofJson?, Option.bind_eq_bind, Option.bind_eq_some_iff, Option.some.injEq] at h
  obtain ⟨r, hr, scheme, hscheme, native, hnative, system, hsystem, token, htoken, extended,
    hextended, associated, hassociated, memo, hmemo, known, hknown, rfl⟩ := h
  refine ⟨r, hr, fun f => ?_⟩
  cases f with
  | scheme => exact hscheme
  | nativeDecimals => exact hnative
  | systemProgram => exact hsystem
  | tokenProgram => exact htoken
  | extendedTokenProgram => exact hextended
  | associatedTokenProgram => exact hassociated
  | memoProgram => exact hmemo
  | knownTokens => exact hknown

/-- Configurations that are read from fields which are the same but for one. -/
theorem get_eq_of_allBut {r r' : Record} {c c' : PayConfig} {f g : Field}
    {same : Value → Value → Prop} (h : AllBut f.name same r r') (hg : g ≠ f)
    (hr : r.optional g.name (g.get {}) g.read? = some (g.get c))
    (hr' : r'.optional g.name (g.get {}) g.read? = some (g.get c')) : g.get c = g.get c' := by
  obtain hlookup | ⟨hname, -⟩ := h.lookup g.name
  · rw [Record.optional_congr hlookup, hr'] at hr
    exact (Option.some.inj hr).symm
  · exact absurd (Field.name_injective hname) hg

end PayConfig

namespace Settings

open PayConfig (fieldNames)

/-- The fields of settings. -/
inductive Field
  | rpcUrl
  | commitment
  | protocol (f : PayConfig.Field)
  deriving DecidableEq, Repr

namespace Field

/-- The key of a file below which the value of a field stands. -/
def key : Field → String
  | rpcUrl => "rpc_url"
  | commitment => "commitment"
  | protocol _ => "protocol"

/-- Two settings that have the same in a field. -/
def Agree (s s' : Settings) : Field → Prop
  | rpcUrl => s.rpcUrl = s'.rpcUrl
  | commitment => s.commitment = s'.commitment
  | protocol f => f.get s.protocol = f.get s'.protocol

/-- Where the value of a field stands in a file. A payment configuration may be written as a table
or as an array with its fields in their order. -/
inductive At : Field → List Step → Prop
  | rpcUrl : At rpcUrl [.key "rpc_url"]
  | commitment : At commitment [.key "commitment"]
  | member (f : PayConfig.Field) : At (protocol f) [.key "protocol", .key f.name]
  | item {f : PayConfig.Field} {i : ℕ} (h : PayConfig.fieldNames[i]? = some f.name) :
    At (protocol f) [.key "protocol", .item i]

/-- The place of a field begins with its key. -/
theorem At.exists_eq_cons {f : Field} {path : List Step} (h : f.At path) :
    ∃ p, path = .key f.key :: p := by
  cases h with
  | rpcUrl => exact ⟨_, rfl⟩
  | commitment => exact ⟨_, rfl⟩
  | member => exact ⟨_, rfl⟩
  | item => exact ⟨_, rfl⟩

end Field

/-- Settings are read field by field. -/
theorem exists_record_of_ofValue? {v : Value} {s : Settings} (h : ofValue? v = some s) :
    ∃ r, Record.ofValue? fieldNames v = some r ∧ r.maybe "rpc_url" Value.text? = some s.rpcUrl ∧
      r.optional "commitment" Commitment.confirmed.name Value.text? = some s.commitment ∧
        r.optional "protocol" {} protocolOf? = some s.protocol := by
  simp only [ofValue?, Option.bind_eq_bind, Option.bind_eq_some_iff, Option.some.injEq] at h
  obtain ⟨r, hr, url, hurl, commitment, hcommitment, protocol, hprotocol, rfl⟩ := h
  exact ⟨r, hr, hurl, hcommitment, hprotocol⟩

section Same

variable {v w : Value} {path : List Step}

/-- Payment configurations that are the same but for one field agree in every other one. -/
theorem get_eq_of_sameBut {f g : PayConfig.Field} {c c' : PayConfig}
    (hat : (Field.protocol f).At (.key "protocol" :: path)) (h : SameBut path v w) (hg : g ≠ f)
    (hv : protocolOf? v = some c) (hw : protocolOf? w = some c') : g.get c = g.get c' := by
  cases hat with
  | member =>
    obtain ⟨ms, ms', rfl, rfl, hms⟩ := h
    obtain ⟨r, hr, hread⟩ := PayConfig.exists_record_of_ofJson? hv
    obtain ⟨r', hr', hread'⟩ := PayConfig.exists_record_of_ofJson? hw
    have hsame := Record.ofValue?_sameBut_key ⟨ms, ms', rfl, rfl, hms⟩ hr hr'
    exact PayConfig.get_eq_of_allBut hsame hg (hread g) (hread' g)
  | @item _ i hi =>
    obtain ⟨before, x, y, after, rfl, rfl, rfl, hxy⟩ := h
    -- only as many items as there are fields are read, and the item is one of them
    obtain ⟨hlt, -⟩ := List.getElem?_eq_some_iff.1 hi
    obtain ⟨n, hn⟩ : ∃ n, PayConfig.fieldNames.length - before.length = n + 1 :=
      ⟨_, (Nat.succ_pred_eq_of_pos (Nat.sub_pos_of_lt hlt)).symm⟩
    have htake : ∀ z, (before ++ z :: after).take PayConfig.fieldNames.length =
        before ++ z :: after.take n := by
      intro z
      rw [List.take_append, List.take_of_length_le (Nat.le_of_lt hlt), hn, List.take_succ_cons]
    rw [protocolOf?, htake] at hv hw
    obtain ⟨r, hr, hread⟩ := PayConfig.exists_record_of_ofJson? hv
    obtain ⟨r', hr', hread'⟩ := PayConfig.exists_record_of_ofJson? hw
    have hsame := Record.ofValue?_sameBut_item hi ⟨before, x, y, _, rfl, rfl, rfl, hxy⟩ hr hr'
    exact PayConfig.get_eq_of_allBut hsame hg (hread g) (hread' g)

/-- Settings of files that are the same but for the place of one field agree in every other one. -/
theorem agree_of_sameBut {f g : Field} {s s' : Settings} (hat : f.At path) (h : SameBut path v w)
    (hg : g ≠ f) (hv : ofValue? v = some s) (hw : ofValue? w = some s') : g.Agree s s' := by
  obtain ⟨r, hr, hurl, hcommitment, hprotocol⟩ := exists_record_of_ofValue? hv
  obtain ⟨r', hr', hurl', hcommitment', hprotocol'⟩ := exists_record_of_ofValue? hw
  obtain ⟨p, rfl⟩ := hat.exists_eq_cons
  have hsame := Record.ofValue?_sameBut_key h hr hr'
  have hother : ∀ {α : Type} {default a a' : α} {read : Value → Option α} (name : String),
      name ≠ f.key → r.optional name default read = some a →
        r'.optional name default read = some a' → a = a' := by
    intro α default a a' read name hname ha ha'
    obtain hlookup | ⟨hk, -⟩ := hsame.lookup name
    · rw [Record.optional_congr hlookup, ha'] at ha
      exact (Option.some.inj ha).symm
    · exact absurd hk hname
  cases g with
  | rpcUrl =>
    refine hother "rpc_url" ?_ hurl hurl'
    cases f with
    | rpcUrl => exact absurd rfl hg
    | commitment => decide
    | protocol f => exact (by decide : "rpc_url" ≠ "protocol")
  | commitment =>
    refine hother "commitment" ?_ hcommitment hcommitment'
    cases f with
    | rpcUrl => decide
    | commitment => exact absurd rfl hg
    | protocol f => exact (by decide : "commitment" ≠ "protocol")
  | protocol g =>
    obtain hlookup | ⟨hk, v, w, hv, hw, hvw⟩ := hsame.lookup "protocol"
    · rw [Record.optional_congr hlookup, hprotocol'] at hprotocol
      exact congrArg g.get (Option.some.inj hprotocol).symm
    · cases f with
      | rpcUrl => exact absurd hk (by decide)
      | commitment => exact absurd hk (by decide)
      | protocol f =>
        rw [Record.optional, hv] at hprotocol
        rw [Record.optional, hw] at hprotocol'
        exact get_eq_of_sameBut hat hvw (fun he => hg (congrArg Field.protocol he)) hprotocol
          hprotocol'

end Same

end Settings

end PayLink
