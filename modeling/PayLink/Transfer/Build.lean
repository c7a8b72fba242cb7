import PayLink.Mint
import PayLink.Transfer.Instruction
import PayLink.Transfer.Plan
/-!
# Building transfers

From a request and a ledger to an unsigned transaction. The two accounts that matter are looked up
at the same time: the sender, and the recipient or the mint. Once both are there and all checks
have passed, the most recent block is looked up. Nothing is looked up twice.
-/

namespace PayLink.Transfer

/-- The version of the transactions that are built. -/
def version : UInt8 := 0

/-- The account that is looked up together with the sender's. -/
def counterpart (plan : Plan) : Address :=
  match plan.asset with
  | .native => plan.recipient
  | .token mint => mint

/-- The transfer instruction, given what was found of the sender and of the counterpart. -/
def transferOf (config : PayConfig) (sender : Address) (plan : Plan)
    (found : Option Account × Option Account) : Except PayError Instruction :=
  if found.1.isNone then .error (.senderNotFound sender)
  else
    match plan.asset with
    | .native =>
      if found.2.isNone then .error (.recipientNotFound plan.recipient)
      else nativeInstruction config sender plan.recipient plan.amount
    | .token mint => do
      let token ← Mint.ofAccount config mint found.2
      tokenInstruction config token sender plan.recipient plan.amount

/-- An instruction that also names accounts by which it can be found. -/
def withReferences (i : Instruction) (references : List Address) : Instruction :=
  { i with accounts := i.accounts ++ references.map fun a => .readonly a false }

/-- The instructions of a transaction: the memo, if there is one, and the transfer. -/
def instructionsOf (config : PayConfig) (plan : Plan) (transfer : Instruction) :
    List Instruction :=
  (plan.memo.map (memoInstruction config)).toList ++ [withReferences transfer plan.references]

/-- Builds the transaction that pays a plan. -/
def buildPlan (config : PayConfig) (ledger : Ledger) (sender : Address) (plan : Plan) :
    Reading Skeleton :=
  (ledger.readAccounts sender (counterpart plan)).andThen fun found =>
    (Reading.ofResult (transferOf config sender plan found)).andThen fun transfer =>
      ledger.readAnchor.andThen fun anchor =>
        .ofResult
          (((Draft.withLifetime { version := version } anchor).append
            (instructionsOf config plan transfer)).finish)

/-- Builds the transaction that pays a request. -/
def build (config : PayConfig) (ledger : Ledger) (sender : Address) (r : TransferRequest) :
    Reading Skeleton :=
  (Reading.ofResult (Plan.ofRequest r)).andThen (buildPlan config ledger sender)

end PayLink.Transfer
