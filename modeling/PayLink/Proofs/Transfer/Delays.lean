import PayLink.Proofs.Rounds
import PayLink.Proofs.Transfer.Obstacles
/-!
# Transfers and the time that lookups take

What is built does not depend on the order in which the lookups come to their ends, with one
exception: if both accounts cannot be looked up, the failure that is reported is the one that comes
first. However long the lookups take, each of the two loops that wait for them ends.
-/

namespace PayLink

/-- The same ledger with lookups that are found unfinished as often as `delays` says. Delays belong to
what is looked up: if the sender is also the recipient, both lookups have one delay, and one outcome.
-/
def Ledger.withDelays (ledger : Ledger) (delays : LookupKey → Nat) : Ledger where
  account a := ⟨delays (.account a), (ledger.account a).outcome⟩
  anchor := ⟨delays .anchor, ledger.anchor.outcome⟩

namespace Transfer

variable {config : PayConfig} {ledger ledger' : Ledger} {sender : Address} {r : TransferRequest}

/-- What is built depends on the two accounts and the most recent block alone. -/
theorem result_build_congr
    (haccounts : (ledger.readAccounts sender (other r)).result =
      (ledger'.readAccounts sender (other r)).result)
    (hanchor : ledger.anchor.outcome = ledger'.anchor.outcome) :
    (build config ledger sender r).result = (build config ledger' sender r).result := by
  cases hamount : r.amount with
  | none =>
    rw [build_of_amount_eq_none hamount, build_of_amount_eq_none hamount]
  | some a =>
    have hprepared : (prepared config ledger sender r a).result =
        (prepared config ledger' sender r a).result :=
      Reading.result_andThen_congr haccounts fun found => rfl
    rw [build_eq_prepared hamount, build_eq_prepared hamount]
    refine Reading.result_andThen_congr hprepared fun transfer => ?_
    rw [hanchor]

/-- Nothing is built if the two accounts cannot be looked up. -/
theorem result_build_of_readAccounts {e : PayError} (hamount : r.amount ≠ none)
    (h : (ledger.readAccounts sender (other r)).result = .error e) :
    (build config ledger sender r).result = .error e := by
  obtain ⟨a, ha⟩ := Option.ne_none_iff_exists'.1 hamount
  rw [build_eq_buildPlan ha, buildPlan, counterpart_planOf, Reading.andThen_of_error h]

/-- Unless both accounts cannot be looked up, the same is built however long the lookups take; if
neither can, the lookup that fails first is reported, and the sender's if they fail at the same time.
Waiting ends: after more rounds than the longer of the two lookups is found unfinished, and after
more questions than the lookup of the most recent block is. -/
theorem result_build_withDelays (config : PayConfig) (ledger : Ledger) (sender : Address)
    (r : TransferRequest) :
    (r.amount = none ∨
        ¬(ledger.Fails (.account sender) ∧ ledger.Fails (.account (other r))) →
      ∀ delays delays', (build config (ledger.withDelays delays) sender r).result =
        (build config (ledger.withDelays delays') sender r).result) ∧
    (∀ delays fault fault', r.amount ≠ none →
      (ledger.account sender).outcome = .error fault →
      (ledger.account (other r)).outcome = .error fault' →
      (build config (ledger.withDelays delays) sender r).result = .error (.ledger
        (if delays (.account sender) ≤ delays (.account (other r)) then fault else fault'))) ∧
    ∀ delays n,
      (max (delays (.account sender)) (delays (.account (other r))) < n →
        Task.joinWithin n ((ledger.withDelays delays).accountTask sender)
            ((ledger.withDelays delays).accountTask (other r)) =
          some ((ledger.withDelays delays).readAccounts sender (other r))) ∧
      (delays .anchor < n →
        Task.finishWithin n (.fresh .anchor (ledger.withDelays delays).anchor) =
          some (ledger.withDelays delays).readAnchor) := by
  refine ⟨?_, ?_, ?_⟩
  · rintro (hamount | hnot) delays delays'
    · rw [build_of_amount_eq_none hamount, build_of_amount_eq_none hamount]
    · refine result_build_congr ?_ rfl
      rw [Ledger.readAccounts, Ledger.readAccounts, Task.join_eq, Task.join_eq]
      exact Task.result_joined_congr rfl rfl hnot
  · intro delays fault fault' hamount hsender hother
    refine result_build_of_readAccounts hamount (Ledger.result_readAccounts_eq_error_iff.2 ?_)
    simp only [Ledger.withDelays, Lookup.firstFault?, hsender, hother, Option.map_some]
  · intro delays n
    exact ⟨fun hn => Task.joinWithin_fresh hn, fun hn => Task.finishWithin_fresh hn⟩

end Transfer

end PayLink
