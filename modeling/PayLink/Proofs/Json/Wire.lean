import PayLink.Config.Json
import PayLink.Proofs.Address
import PayLink.Proofs.Base64
import PayLink.Proofs.Json.Record
import PayLink.Request.Json
import PayLink.Transaction.Json
/-!
# What travels as JSON is read back

Every type that is written as JSON has a reader that gives back what was written. A table is read
back because its entries already stand in the order in which insertion would put them, and a field
that is left out because it is not set, or because it has no items, has that as its default.
-/

namespace PayLink

open Json

/-- An address is read back. -/
theorem Address.inverts : Inverts ofJson? toJson where
  plain a := .text a.text
  read := ofText?_text

/-- An amount is read back. -/
theorem Amount.inverts : Inverts ofJson? toJson where
  plain a := Value.isPlain_nat a.units
  read a := by
    rw [ofJson?, toJson, Value.natBelow?_nat a.units_lt]
    exact ofNat?_units a

/-- A number of 8 bits is read back. -/
theorem inverts_uint8 : Inverts Value.uint8? fun n => .nat n.toNat where
  plain n := Value.isPlain_nat n.toNat
  read n := by
    have hbound : n.toNat < Nat.pow 2 8 := n.toNat_lt
    rw [Value.uint8?, Value.natBelow?_nat hbound, Option.map_some, UInt8.ofNat_toNat]

/-- A number of 64 bits is read back. -/
theorem inverts_uint64 : Inverts Value.uint64? fun n => .nat n.toNat where
  plain n := Value.isPlain_nat n.toNat
  read n := by
    have hbound : n.toNat < Nat.pow 2 64 := n.toNat_lt
    rw [Value.uint64?, Value.natBelow?_nat hbound, Option.map_some, UInt64.ofNat_toNat]

/-- Bytes are read back. -/
theorem inverts_bytes : Inverts Value.bytes? Value.ofBytes where
  plain bs := .text (String.ofList (Base64.encode bs))
  read bs := by
    change Base64.decode? (String.ofList (Base64.encode bs)).toList = some bs
    rw [String.toList_ofList, Base64.decode?_encode]

/-- A token program is read back. -/
theorem TokenProgram.inverts : Inverts ofJson? toJson where
  plain p := .text p.name
  read p := by
    cases p with
    | legacy => rfl
    | extended => rfl

/-- A token is read back. -/
theorem TokenInfo.inverts : Inverts ofJson? toJson := by
  refine Record.inverts (by decide) (fun _ => List.Sublist.refl _) (fun t => ?_) fun t => ?_
  · simp only [List.forall_mem_cons]
    exact ⟨Address.inverts.plain _, inverts_uint8.plain _, TokenProgram.inverts.plain _,
      List.forall_mem_nil _⟩
  · rw [Record.required_of_lookup Address.inverts (a := t.mint),
      Record.required_of_lookup inverts_uint8 (a := t.decimals),
      Record.required_of_lookup TokenProgram.inverts (a := t.program)]
    all_goals rfl

/-- A lifetime is read back. -/
theorem LifetimeAnchor.inverts : Inverts ofJson? toJson := by
  refine Record.inverts (by decide) (fun _ => List.Sublist.refl _) (fun l => ?_) fun l => ?_
  · simp only [List.forall_mem_cons]
    exact ⟨.text _, inverts_uint64.plain _, List.forall_mem_nil _⟩
  · rw [Record.required_of_lookup .text (a := l.hash),
      Record.required_of_lookup inverts_uint64 (a := l.expiryHeight)]
    all_goals rfl

/-- An account of an instruction is read back. -/
theorem AccountMeta.inverts : Inverts ofJson? toJson := by
  refine Record.inverts (by decide) (fun _ => List.Sublist.refl _) (fun m => ?_) fun m => ?_
  · simp only [List.forall_mem_cons]
    exact ⟨Address.inverts.plain _, .bool _, .bool _, List.forall_mem_nil _⟩
  · rw [Record.required_of_lookup Address.inverts (a := m.address),
      Record.required_of_lookup .bool (a := m.isSigner),
      Record.required_of_lookup .bool (a := m.isWritable)]
    all_goals rfl

/-- An instruction is read back. -/
theorem Instruction.inverts : Inverts ofJson? toJson := by
  refine Record.inverts (by decide) (fun _ => List.Sublist.refl _) (fun i => ?_) fun i => ?_
  · simp only [List.forall_mem_cons]
    exact ⟨Address.inverts.plain _, AccountMeta.inverts.items.plain _, inverts_bytes.plain _,
      List.forall_mem_nil _⟩
  · rw [Record.required_of_lookup Address.inverts (a := i.programId),
      Record.required_of_lookup AccountMeta.inverts.items (a := i.accounts),
      Record.required_of_lookup inverts_bytes (a := i.data)]
    all_goals rfl

namespace TokenTable

/-- Tables with the same entries are equal. -/
theorem eq_of_entries {t u : TokenTable} (h : t.entries = u.entries) : t = u := by
  cases t
  cases u
  cases h
  rfl

/-- A mint behind all others is put at the end. -/
theorem insertEntry_of_lt {mint : Address} {es : List (Address × UInt8)}
    (h : ∀ e ∈ es, e.1.bytes < mint.bytes) (places : UInt8) :
    insertEntry mint places es = es ++ [(mint, places)] := by
  induction es with
  | nil => rfl
  | cons e es ih =>
    obtain ⟨he, hes⟩ := List.forall_mem_cons.1 h
    rw [insertEntry, if_neg (List.lt_asymm he), if_pos he, ih hes, List.cons_append]

/-- Entries that stand behind those of a table, in the order of their mints, are appended. -/
theorem entries_foldl_insert (es : List (Address × UInt8)) (t : TokenTable)
    (h : (t.entries ++ es).Pairwise fun a b => a.1.bytes < b.1.bytes) :
    (es.foldl (fun t e => t.insert e.1 e.2) t).entries = t.entries ++ es := by
  induction es generalizing t with
  | nil => exact (List.append_nil _).symm
  | cons e es ih =>
    have hlast : ∀ o ∈ t.entries, o.1.bytes < e.1.bytes := fun o ho =>
      (List.pairwise_append.1 h).2.2 o ho e List.mem_cons_self
    have hinsert : (t.insert e.1 e.2).entries = t.entries ++ [e] := insertEntry_of_lt hlast e.2
    have happend : (t.insert e.1 e.2).entries ++ es = t.entries ++ e :: es := by
      rw [hinsert, List.append_assoc, List.singleton_append]
    rw [List.foldl_cons, ih _ (happend ▸ h), happend]

/-- A table is the table of its entries. -/
theorem ofList_entries (t : TokenTable) : ofList t.entries = t :=
  eq_of_entries (entries_foldl_insert t.entries empty t.increasing)

/-- A member of a table is read back. -/
theorem entryOfJson?_member (e : Address × UInt8) :
    entryOfJson? (some e.1.text, .nat e.2.toNat) = some e := by
  rw [entryOfJson?]
  simp only [Option.bind_eq_bind, Option.bind_some, Address.ofText?_text, inverts_uint8.read]

/-- A table is read back. -/
theorem inverts : Inverts ofJson? toJson where
  plain t := .object fun m hm => by
    obtain ⟨e, -, rfl⟩ := List.mem_map.1 hm
    exact inverts_uint8.plain e.2
  read t := by
    have hentries := mapM_map_eq_some fun e (_ : e ∈ t.entries) => entryOfJson?_member e
    rw [toJson, Value.ofMembers, List.map_map, ofJson?]
    calc
      _ = (some t.entries).map ofList := congrArg (Option.map ofList) hentries
      _ = some t := by rw [Option.map_some, ofList_entries]

end TokenTable

/-- A configuration is read back. -/
theorem PayConfig.inverts : Inverts ofJson? toJson := by
  refine Record.inverts (by decide) (fun _ => List.Sublist.refl _) (fun c => ?_) fun c => ?_
  · simp only [List.forall_mem_cons]
    exact ⟨.text _, inverts_uint8.plain _, Address.inverts.plain _, Address.inverts.plain _,
      Address.inverts.plain _, Address.inverts.plain _, Address.inverts.plain _,
      TokenTable.inverts.plain _, List.forall_mem_nil _⟩
  · dsimp only
    rw [Record.optional_of_lookup .text (a := some c.scheme),
      Record.optional_of_lookup inverts_uint8 (a := some c.nativeDecimals),
      Record.optional_of_lookup Address.inverts (a := some c.systemProgram),
      Record.optional_of_lookup Address.inverts (a := some c.tokenProgram),
      Record.optional_of_lookup Address.inverts (a := some c.extendedTokenProgram),
      Record.optional_of_lookup Address.inverts (a := some c.associatedTokenProgram),
      Record.optional_of_lookup Address.inverts (a := some c.memoProgram),
      Record.optional_of_lookup TokenTable.inverts (a := some c.knownTokens)]
    all_goals rfl

namespace TransferRequest

variable (r : TransferRequest)

/-- The references, if there are any. -/
def someReferences : Option (List Address) :=
  if r.references.isEmpty then none else some r.references

/-- Where there are no references, their default is what they are. -/
theorem getD_someReferences : r.someReferences.getD [] = r.references := by
  rw [someReferences]
  split
  · rename_i h
    exact (List.isEmpty_iff.1 h).symm
  · rfl

/-- All members but the first are those of fields that may not be set. -/
theorem members_eq :
    r.members =
      ("recipient", r.recipient.toJson)
        :: memberIfSet "amount" Amount.toJson r.amount
        ++ memberIfSet "token" Address.toJson r.token
        ++ memberIfSet "references" (fun as => .array (as.map Address.toJson)) r.someReferences
        ++ memberIfSet "label" .text r.label
        ++ memberIfSet "message" .text r.message
        ++ memberIfSet "memo" .text r.memo := by
  rw [members, someReferences]
  split
  · rfl
  · rfl

/-- The fields that are set stand in their order. -/
theorem names_members : (r.members.map Prod.fst).Sublist fieldNames := by
  simp only [members_eq, List.map_append, List.map_cons]
  exact (names_memberIfSet ..).cons_cons "recipient"
    |>.append (names_memberIfSet ..) |>.append (names_memberIfSet ..)
    |>.append (names_memberIfSet ..) |>.append (names_memberIfSet ..)
    |>.append (names_memberIfSet ..)

/-- What is written of the fields has any property that texts, lists of addresses and the amount
have. -/
theorem of_mem_members {P : Value → Prop} (htext : ∀ s, P (.text s))
    (haddresses : ∀ as : List Address, P (.array (as.map Address.toJson)))
    (hamount : ∀ a ∈ r.amount, P a.toJson) {m : String × Value} (h : m ∈ r.members) : P m.2 := by
  have haddress : ∀ a : Address, P a.toJson := fun a => htext a.text
  simp only [members_eq, List.cons_append, List.mem_cons, List.mem_append] at h
  rcases h with rfl | ((((h | h) | h) | h) | h) | h
  · exact haddress r.recipient
  · exact of_mem_memberIfSet hamount h
  · exact of_mem_memberIfSet (fun a _ => haddress a) h
  · exact of_mem_memberIfSet (fun as _ => haddresses as) h
  · exact of_mem_memberIfSet (fun s _ => htext s) h
  · exact of_mem_memberIfSet (fun s _ => htext s) h
  · exact of_mem_memberIfSet (fun s _ => htext s) h

/-- What is written of the fields is plain. -/
theorem isPlain_of_mem_members {m : String × Value} (h : m ∈ r.members) : m.2.IsPlain :=
  r.of_mem_members .text Address.inverts.items.plain (fun a _ => Amount.inverts.plain a) h

/-- A field is found by its name if it is set. -/
theorem lookup_members :
    r.members.lookup "recipient" = some r.recipient.toJson ∧
    r.members.lookup "amount" = r.amount.map Amount.toJson ∧
    r.members.lookup "token" = r.token.map Address.toJson ∧
    r.members.lookup "references" =
      r.someReferences.map (fun as => .array (as.map Address.toJson)) ∧
    r.members.lookup "label" = r.label.map .text ∧
    r.members.lookup "message" = r.message.map .text ∧
    r.members.lookup "memo" = r.memo.map .text := by
  simp [members_eq, List.lookup_append, List.lookup_cons, lookup_memberIfSet]

/-- The members are read back, if the reader of amounts reads back the amount. -/
theorem ofRecord?_members {amountOf? : Value → Option Amount}
    (h : Record.maybe r.members "amount" amountOf? = some r.amount) :
    ofRecord? amountOf? r.members = some r := by
  obtain ⟨hrecipient, -, htoken, hreferences, hlabel, hmessage, hmemo⟩ := r.lookup_members
  rw [ofRecord?, Record.required_of_lookup Address.inverts hrecipient, h,
    Record.maybe_of_lookup Address.inverts nofun htoken,
    Record.optional_of_lookup Address.inverts.items [] hreferences,
    Record.maybe_of_lookup .text nofun hlabel, Record.maybe_of_lookup .text nofun hmessage,
    Record.maybe_of_lookup .text nofun hmemo, getD_someReferences]
  rfl

/-- A transfer request is read back. -/
theorem inverts : Inverts ofJson? toJson := by
  refine Record.inverts (by decide) names_members (fun r _ => r.isPlain_of_mem_members) fun r => ?_
  exact r.ofRecord?_members (Record.maybe_of_lookup Amount.inverts nofun r.lookup_members.2.1)

end TransferRequest

namespace TransactionRequest

variable (r : TransactionRequest)

/-- The fields that are set stand in their order. -/
theorem names_members : (r.members.map Prod.fst).Sublist fieldNames := by
  simp only [members, List.map_append, List.map_cons]
  exact (names_memberIfSet ..).cons_cons "link" |>.append (names_memberIfSet ..)

/-- What is written of the fields has any property that texts have. -/
theorem of_mem_members {P : Value → Prop} (htext : ∀ s, P (.text s)) {m : String × Value}
    (h : m ∈ r.members) : P m.2 := by
  simp only [members, List.cons_append, List.mem_cons, List.mem_append] at h
  rcases h with rfl | h | h
  · exact htext r.link
  · exact of_mem_memberIfSet (fun s _ => htext s) h
  · exact of_mem_memberIfSet (fun s _ => htext s) h

/-- The members are read back. -/
theorem ofRecord?_members : ofRecord? r.members = some r := by
  have hlink : r.members.lookup "link" = some (.text r.link) := by
    simp [members]
  have hlabel : r.members.lookup "label" = r.label.map .text := by
    simp [members, List.lookup_append, List.lookup_cons, lookup_memberIfSet]
  have hmessage : r.members.lookup "message" = r.message.map .text := by
    simp [members, List.lookup_append, List.lookup_cons, lookup_memberIfSet]
  rw [ofRecord?, Record.required_of_lookup .text hlink,
    Record.maybe_of_lookup .text nofun hlabel, Record.maybe_of_lookup .text nofun hmessage]
  rfl

/-- A transaction request is read back. -/
theorem inverts : Inverts ofJson? toJson :=
  Record.inverts (by decide) names_members (fun r _ hm => r.of_mem_members .text hm)
    ofRecord?_members

end TransactionRequest

/-- Every type that travels as JSON is read back from what is written of it: addresses and amounts
of any size, the parts of a transaction with data of any length, tokens, requests of either kind
whatever fields are set, and configurations whatever tokens they know. -/
theorem Json.carries_wire_types :
    Carries Address.ofJson? Address.toJson ∧
    Carries Amount.ofJson? Amount.toJson ∧
    Carries LifetimeAnchor.ofJson? LifetimeAnchor.toJson ∧
    Carries AccountMeta.ofJson? AccountMeta.toJson ∧
    Carries Instruction.ofJson? Instruction.toJson ∧
    Carries TransferRequest.ofJson? TransferRequest.toJson ∧
    Carries TransactionRequest.ofJson? TransactionRequest.toJson ∧
    Carries TokenInfo.ofJson? TokenInfo.toJson ∧
    Carries TokenProgram.ofJson? TokenProgram.toJson ∧
    Carries PayConfig.ofJson? PayConfig.toJson :=
  ⟨Address.inverts.carries, Amount.inverts.carries, LifetimeAnchor.inverts.carries,
    AccountMeta.inverts.carries, Instruction.inverts.carries, TransferRequest.inverts.carries,
    TransactionRequest.inverts.carries, TokenInfo.inverts.carries, TokenProgram.inverts.carries,
    PayConfig.inverts.carries⟩

end PayLink
