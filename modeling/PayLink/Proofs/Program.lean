import PayLink.Program
import PayLink.Proofs.Link.Recoding
/-!
# Reading back what was asked for in words

A transfer can be asked for in words, with an amount in whole units. The link that the program then
prints is one that it reads again, and as what the words ask for: their accounts, their texts that
are not empty, and the amount that they write, in minor units. An amount that is too long to be read
from a link is already refused when it is read from the words.
-/

namespace PayLink

open Decimal (valueOf)

namespace TransferWords

/-- A transfer is the one that words ask for. -/
structure AskFor (w : TransferWords) (config : PayConfig) (r : TransferRequest) : Prop where
  /-- It is paid to the same account. -/
  recipient : r.recipient = w.recipient
  /-- It is an amount exactly if the words have one, and the one that they write. -/
  amount : r.amount.map (fun a => (a.units : ℚ)) =
    w.amount.map fun s => valueOf s.toList * 10 ^ (config.decimalsFor w.token).toNat
  /-- It is in the same asset. -/
  token : r.token = w.token
  /-- It has the same references, in order. -/
  references : r.references = w.references
  /-- It has the label, unless that is empty. -/
  label : r.label = presentText w.label
  /-- It has the message, unless that is empty. -/
  message : r.message = presentText w.message
  /-- It has the memo, unless that is empty. -/
  memo : r.memo = presentText w.memo

/-- What words make is a request whose amount can be read from a link, and which is, without its
empty texts, what they ask for. -/
theorem askFor_of_toRequest {w : TransferWords} {config : PayConfig} {r : TransferRequest}
    (h : w.toRequest config = .ok r) :
    r.AmountFits config ∧ w.AskFor config r.withoutEmptyTexts := by
  unfold toRequest at h
  cases hw : w.amount with
  | none =>
    rw [hw] at h
    obtain rfl := Except.ok.inj h
    refine ⟨fun a ha => ?_, rfl, ?_, rfl, rfl, rfl, rfl, rfl⟩
    · cases ha
    · rw [hw]
      rfl
  | some s =>
    rw [hw] at h
    obtain ⟨amount, hamount, he⟩ := bind_eq_ok_iff.1 h
    obtain rfl := Except.ok.inj he
    obtain ⟨a, ha, rfl⟩ := map_eq_ok_iff.1 hamount
    refine ⟨fun b hb => ?_, rfl, ?_, rfl, rfl, rfl, rfl, rfl⟩
    · obtain rfl := Option.some.inj hb
      exact Amount.textFits_of_parse_eq_ok ha
    · rw [hw]
      exact congrArg some (Amount.units_of_parse ha)

end TransferWords

namespace Program

/-- What words ask for under a payment scheme of its own is printed as a link that the program reads
as what they ask for. -/
theorem decode_of_encode {settings : Settings} (hconfig : settings.protocol.HasOwnScheme)
    {w : TransferWords} {r : TransferRequest} (h : w.toRequest settings.protocol = .ok r) :
    ∃ u r', Link.encode (.transfer r) settings.protocol = .ok u ∧
      Link.decode u.text settings.protocol = .ok (.transfer r') ∧
      w.AskFor settings.protocol r' ∧
      perform settings (.encode w) = .ok (lineOf u.text) ∧
      perform settings (.decode u.text) =
        .ok (lineOf (PaymentRequest.transfer r').toJson.spread) := by
  obtain ⟨hfits, hasks⟩ := TransferWords.askFor_of_toRequest h
  obtain ⟨u, hu, -, -, hread⟩ := Link.Transfer.exists_encode hconfig r
  have hencode : Link.encode (.transfer r) settings.protocol = .ok u := hu
  have hdecode := (hread r.withoutEmptyTexts).2 ⟨hfits, rfl⟩
  refine ⟨u, r.withoutEmptyTexts, hencode, hdecode, hasks, ?_, ?_⟩
  · rw [perform, h]
    change orMessage (Link.encode (.transfer r) settings.protocol) >>= _ = _
    rw [hencode]
    rfl
  · rw [perform, hdecode]
    rfl

/-- Words for a hundred and a half units of a token that is known to have six decimal places, with
zeros around the amount, two references and an empty memo. -/
def sampleWords : TransferWords where
  recipient := Networks.memoProgram
  amount := some "0100.50"
  token := some Networks.usdc.mint
  references := [Networks.systemProgram, Networks.systemProgram]
  label := some "Tea & cake"
  message := none
  memo := some ""

/-- The request that the words make. -/
def sampleRequest : TransferRequest where
  recipient := Networks.memoProgram
  amount := Amount.ofNat? 100500000
  token := some Networks.usdc.mint
  references := [Networks.systemProgram, Networks.systemProgram]
  label := some "Tea & cake"
  memo := some ""

/-- The words are printed as a link that is read as 100.5 units of the token. -/
theorem decode_of_encode_token_amount :
    sampleWords.toRequest {} = .ok sampleRequest ∧
      ∃ (u : Url) (r' : TransferRequest), perform {} (.encode sampleWords) = .ok (lineOf u.text) ∧
        Link.decode u.text {} = .ok (.transfer r') ∧
        r'.amount.map (fun a => (a.units : ℚ)) = some (valueOf "0100.50".toList * 10 ^ 6) ∧
        r'.memo = none := by
  have hwords : sampleWords.toRequest {} = .ok sampleRequest := by decide +kernel
  have hconfig : ({} : Settings).protocol.HasOwnScheme := by decide
  obtain ⟨u, r', -, hdecode, hasks, hprinted, -⟩ := decode_of_encode hconfig hwords
  have hplaces : ({} : PayConfig).decimalsFor sampleWords.token = 6 := by decide +kernel
  have hempty : presentText sampleWords.memo = none := by decide
  refine ⟨hwords, u, r', hprinted, hdecode, ?_, hasks.memo.trans hempty⟩
  rw [hasks.amount, hplaces]
  rfl

end Program

end PayLink
