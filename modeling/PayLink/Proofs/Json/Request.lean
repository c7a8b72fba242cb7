import PayLink.Program
import PayLink.Proofs.Json.Wire
/-!
# Requests of either kind read back

A request that also says its kind is held in memory before its fields are read. Whatever is written
of a request can be held there but its amount, for which no value is kept; so a request is read back
exactly if it asks for no amount, and a transfer of an amount is refused.
-/

namespace PayLink

open Json

namespace Json.Value

/-- Every member of a list that can be held can be. -/
theorem membersBounded_iff {n : Nat} {ms : List (String × Value)} :
    membersBounded n (ms.map fun m => (some m.1, m.2)) = true ↔
      ∀ m ∈ ms, m.2.isBounded n = true := by
  induction ms with
  | nil => exact iff_of_true rfl (List.forall_mem_nil _)
  | cons m ms ih =>
    rw [List.map_cons, membersBounded, Option.isSome_some, Bool.true_and, Bool.and_eq_true, ih,
      List.forall_mem_cons]

/-- An object can be held if its values can, with one level less. -/
theorem isBounded_ofMembers {n : Nat} {ms : List (String × Value)}
    (h : ∀ m ∈ ms, m.2.isBounded n = true) : (ofMembers ms).isBounded (n + 1) = true := by
  rw [ofMembers, isBounded, membersBounded_iff]
  exact h

/-- A list of texts can be held. -/
theorem isBounded_texts {α : Type} (n : Nat) (text : α → String) (as : List α) :
    (array (as.map fun a => .text (text a))).isBounded (n + 1) = true := by
  rw [isBounded]
  induction as with
  | nil => rfl
  | cons a as ih => rw [List.map_cons, itemsBounded, Value.text, isBounded, ih]; rfl

end Json.Value

/-- Without an amount, what is written of the fields of a transfer request can be held. -/
theorem TransferRequest.isBounded_of_mem_members (r : TransferRequest) (hr : r.amount = none)
    (n : Nat) {m : String × Value} (hm : m ∈ r.members) : m.2.isBounded (n + 1) = true := by
  refine r.of_mem_members (P := fun v => v.isBounded (n + 1) = true) (fun _ => rfl)
    (Value.isBounded_texts n Address.text) (fun a ha => ?_) hm
  rw [hr] at ha
  cases ha

/-- Where no amount can be read, a transfer request is read back unless it has an amount. -/
theorem TransferRequest.ofRecord?_of_no_amount (r : TransferRequest) :
    ofRecord? (fun _ => none) r.members = if r.amount.isSome then none else some r := by
  have hlookup := r.lookup_members.2.1
  cases ha : r.amount with
  | none =>
    refine r.ofRecord?_members ?_
    rw [Record.maybe, Record.optional, hlookup, ha]
    rfl
  | some a =>
    have hamount : Record.maybe r.members "amount" (fun _ => (none : Option Amount)) = none := by
      rw [Record.maybe, Record.optional, hlookup, ha]
      rfl
    rw [ofRecord?, Record.required_of_lookup Address.inverts r.lookup_members.1, hamount]
    rfl

namespace PaymentRequest

/-- Whether a request asks for a given amount. -/
def asksAmount : PaymentRequest → Bool
  | .transfer r => r.amount.isSome
  | .transaction _ => false

/-- What is written of a request is plain. -/
theorem isPlain_toJson (p : PaymentRequest) : p.toJson.IsPlain := by
  cases p with
  | transfer r =>
    exact .object (List.forall_mem_cons.2 ⟨.text "transfer", fun _ => r.isPlain_of_mem_members⟩)
  | transaction r =>
    exact .object (List.forall_mem_cons.2 ⟨.text "transaction", fun _ => r.of_mem_members .text⟩)

/-- A request that asks for no amount can be held. -/
theorem isBounded_toJson {p : PaymentRequest} (h : p.asksAmount = false) :
    p.toJson.isBounded maxLevels = true := by
  cases p with
  | transfer r =>
    have hr : r.amount = none := Option.not_isSome_iff_eq_none.1 (by rw [← asksAmount, h]; decide)
    exact Value.isBounded_ofMembers
      (List.forall_mem_cons.2 ⟨rfl, fun _ hm => r.isBounded_of_mem_members hr 125 hm⟩)
  | transaction r =>
    refine Value.isBounded_ofMembers (List.forall_mem_cons.2 ⟨rfl, fun _ hm => ?_⟩)
    exact r.of_mem_members (P := fun v => v.isBounded 126 = true) (fun _ => rfl) hm

/-- The kind in front of the fields is read, and the fields are what is left. -/
theorem cut_kind (kind : String) {names : List String} {ms : List (String × Value)}
    (h : (ms.map Prod.fst).Sublist names) (hnames : (kindField :: names).Nodup) :
    ∃ r, Record.ofValue? [kindField] (.ofMembers ((kindField, .text kind) :: ms)) = some r ∧
      r.required kindField Value.text? = some kind ∧
      Record.ofValue? names (.ofMembers ((kindField, .text kind) :: ms)) = some ms := by
  obtain ⟨hkind, hfields⟩ := Record.ofValue?_cons (m := (kindField, .text kind)) h hnames
  refine ⟨_, hkind, Record.required_of_lookup .text ?_, hfields⟩
  rw [List.lookup_cons, beq_self_eq_true]

/-- A request is read back from its value, unless it asks for an amount. -/
theorem ofMembers?_toJson (p : PaymentRequest) :
    ∃ ms, p.toJson = .object ms ∧ ofMembers? ms = if p.asksAmount then none else some p := by
  cases p with
  | transfer r =>
    obtain ⟨_, hcut, hkind, hfields⟩ := cut_kind "transfer" r.names_members (by decide)
    rw [Value.ofMembers] at hcut hfields
    refine ⟨_, rfl, ?_⟩
    rw [ofMembers?, hcut]
    simp only [Option.bind_eq_bind, Option.bind_some, hkind, hfields, if_true,
      r.ofRecord?_of_no_amount]
    exact apply_ite (Option.map transfer) (r.amount.isSome = true) none (some r)
  | transaction r =>
    obtain ⟨_, hcut, hkind, hfields⟩ := cut_kind "transaction" r.names_members (by decide)
    rw [Value.ofMembers] at hcut hfields
    refine ⟨_, rfl, ?_⟩
    rw [ofMembers?, hcut]
    simp only [Option.bind_eq_bind, Option.bind_some, hkind, hfields, if_true, r.ofRecord?_members]
    rfl

/-- A request is read back from what is written of it, unless it asks for an amount. -/
theorem ofJson?_toJson (p : PaymentRequest) :
    ofJson? p.toJson = if p.asksAmount then none else some p := by
  obtain ⟨ms, hms, hread⟩ := p.ofMembers?_toJson
  rw [hms, ofJson?, hread]
  cases hp : p.asksAmount with
  | false =>
    rw [← hms, isBounded_toJson hp]
    rfl
  | true => exact ite_self none

/-- The request that a line of output is read as. -/
def ofOutcome? : Program.Outcome → Option PaymentRequest
  | .printed text => readAs? ofJson? text
  | _ => none

/-- A printed request is read back, unless it asks for an amount. -/
theorem ofOutcome?_lineOf (p : PaymentRequest) :
    ofOutcome? (Program.lineOf p.toJson.spread) = if p.asksAmount then none else some p := by
  rw [Program.lineOf, ofOutcome?, readAs?, p.isPlain_toJson.read?_spread.2]
  exact p.ofJson?_toJson

/-- What is written of a request of either kind is read back, on one line, on several, and as the
program prints it for a link, exactly if the request asks for no amount. With an amount it is not
read at all, since the value that is held while the kind is looked for keeps no amount. -/
theorem readAs?_toJson (p : PaymentRequest) (settings : Settings) (uri : String) :
    readAs? ofJson? p.toJson.compact = (if p.asksAmount then none else some p) ∧
    readAs? ofJson? p.toJson.spread = (if p.asksAmount then none else some p) ∧
    (Program.perform settings (.decode uri)).map ofOutcome? =
      (Program.orMessage (Link.decode uri settings.protocol)).map fun r =>
        if r.asksAmount then none else some r := by
  refine ⟨?_, ?_, ?_⟩
  · rw [readAs?, p.isPlain_toJson.read?_compact]
    exact p.ofJson?_toJson
  · rw [readAs?, p.isPlain_toJson.read?_spread.1]
    exact p.ofJson?_toJson
  · rw [Program.perform]
    cases Program.orMessage (Link.decode uri settings.protocol) with
    | error message => rfl
    | ok r => exact congrArg Except.ok r.ofOutcome?_lineOf

/-- A transfer of five minor units. -/
def fiveUnits : TransferRequest :=
  { recipient := Networks.systemProgram, amount := some ⟨5, by decide⟩ }

/-- What is written of a transfer of five minor units is not read as a request of either kind,
though what is written of its fields alone is read back. -/
theorem readAs?_toJson_fiveUnits :
    readAs? ofJson? (toJson (.transfer fiveUnits)).compact = none ∧
      readAs? TransferRequest.ofJson? fiveUnits.toJson.compact = some fiveUnits := by
  refine ⟨?_, (TransferRequest.inverts.carries fiveUnits).1⟩
  rw [readAs?, (isPlain_toJson (.transfer fiveUnits)).read?_compact, Option.bind_eq_bind,
    Option.bind_some, ofJson?_toJson]
  rfl

end PaymentRequest

end PayLink
