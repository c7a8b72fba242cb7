import PayLink.Transaction
/-!
# The ledger

What a transfer needs to know of the ledger: accounts, and a recent block. A lookup takes time and
may fail. It is kept as a value, the number of times that it is found unfinished and the outcome
that it then has, so what a caller sees depends only on the order in which it asks.
-/

namespace PayLink

/-- An account on the ledger. -/
structure Account where
  /-- The program that owns it. -/
  owner : Address
  /-- Its data. -/
  data : List UInt8
  /-- Whether it holds a program. -/
  executable : Bool
  /-- Its balance in minor units of the native asset. -/
  balance : UInt64
  deriving DecidableEq

/-- A lookup that is under way or still to be started. -/
structure Lookup (α : Type) where
  /-- How many more times it is found unfinished. -/
  delay : Nat
  /-- What it ends with. -/
  outcome : Except Fault α

/-- The lookups that a ledger answers. -/
structure Ledger where
  /-- Looks an account up; none if it does not exist. An address has one lookup: whoever looks it up
  twice, as for a sender who is also the recipient, waits as long for both and finds the same. -/
  account : Address → Lookup (Option Account)
  /-- Looks the most recent block up. -/
  anchor : Lookup LifetimeAnchor

/-- What a lookup is for. -/
inductive LookupKey
  /-- An account. -/
  | account (address : Address)
  /-- The most recent block. -/
  | anchor
  deriving DecidableEq

/-- What is read from a ledger: the result, and the lookups that were started for it, in order. -/
structure Reading (α : Type) where
  /-- The result. -/
  result : Except PayError α
  /-- The lookups that were started. -/
  started : List LookupKey

namespace Reading

/-- A result for which nothing is looked up. -/
def ofResult {α : Type} (r : Except PayError α) : Reading α :=
  ⟨r, []⟩

/-- A reading that goes on from the result of another, if that has one. -/
def andThen {α β : Type} (r : Reading α) (f : α → Reading β) : Reading β :=
  match r.result with
  | .error e => ⟨.error e, r.started⟩
  | .ok a => ⟨(f a).result, r.started ++ (f a).started⟩

/-- The same reading after lookups that were started before it. -/
def after {α : Type} (keys : List LookupKey) (r : Reading α) : Reading α :=
  ⟨r.result, keys ++ r.started⟩

end Reading

/-- A lookup as the one who waits for it sees it. -/
inductive Task (α : Type)
  /-- Not started yet. -/
  | fresh (key : LookupKey) (lookup : Lookup α)
  /-- Started and not finished. -/
  | running (lookup : Lookup α)
  /-- Finished with a value. -/
  | finished (value : α)

namespace Task

/-- How many more times a task has to be asked. -/
def remaining {α : Type} : Task α → Nat
  | .fresh _ l | .running l => l.delay + 1
  | .finished _ => 0

/-- What a started lookup has become when it is asked once more. -/
def advance {α : Type} : Lookup α → Except PayError (Task α)
  | ⟨0, .ok a⟩ => .ok (.finished a)
  | ⟨0, .error fault⟩ => .error (.ledger fault)
  | ⟨delay + 1, outcome⟩ => .ok (.running ⟨delay, outcome⟩)

/-- Asks a task once, which starts it if it is fresh. -/
def ask {α : Type} : Task α → Reading (Task α)
  | .fresh key l => ⟨advance l, [key]⟩
  | .running l => ⟨advance l, []⟩
  | .finished a => ⟨.ok (.finished a), []⟩

/-- Asking a lookup brings it nearer to its end. -/
theorem remaining_advance {α : Type} {l : Lookup α} {t : Task α} (h : advance l = .ok t) :
    t.remaining = l.delay := by
  match l with
  | ⟨0, .ok a⟩ => cases h; rfl
  | ⟨0, .error fault⟩ => cases h
  | ⟨delay + 1, outcome⟩ => cases h; rfl

/-- Each question brings a task nearer to its end. -/
theorem remaining_ask {α : Type} {s t : Task α} (h : s.ask.result = .ok t) :
    t.remaining = s.remaining - 1 := by
  match s with
  | .fresh key l => rw [remaining_advance h]; rfl
  | .running l => rw [remaining_advance h]; rfl
  | .finished a => cases h; rfl

/-- Asks a task until it is finished or has failed. -/
def finish {α : Type} (s : Task α) : Reading α :=
  match _hs : s.ask.result with
  | .error e => ⟨.error e, s.ask.started⟩
  | .ok (.finished a) => ⟨.ok a, s.ask.started⟩
  | .ok (.running l) => (finish (.running l)).after s.ask.started
  | .ok (.fresh key l) => (finish (.fresh key l)).after s.ask.started
termination_by s.remaining
decreasing_by
  all_goals
    have hs := remaining_ask _hs
    simp only [remaining] at hs ⊢
    omega

/-- Asks two tasks in turn until both are finished or one has failed. -/
def join {α β : Type} (s : Task α) (t : Task β) : Reading (α × β) :=
  match _hs : s.ask.result with
  | .error e => ⟨.error e, s.ask.started⟩
  | .ok s' =>
    match _ht : t.ask.result with
    | .error e => ⟨.error e, s.ask.started ++ t.ask.started⟩
    | .ok t' =>
      match s', t' with
      | .finished a, .finished b => ⟨.ok (a, b), s.ask.started ++ t.ask.started⟩
      | .finished a, .running m =>
        (join (.finished a) (.running m)).after (s.ask.started ++ t.ask.started)
      | .finished a, .fresh key m =>
        (join (.finished a) (.fresh key m)).after (s.ask.started ++ t.ask.started)
      | .running l, t' => (join (.running l) t').after (s.ask.started ++ t.ask.started)
      | .fresh key l, t' => (join (.fresh key l) t').after (s.ask.started ++ t.ask.started)
termination_by s.remaining + t.remaining
decreasing_by
  all_goals
    have hs := remaining_ask _hs
    have ht := remaining_ask _ht
    simp only [remaining] at hs ht ⊢
    omega

end Task

namespace Ledger

/-- The task of looking an account up. -/
def accountTask (ledger : Ledger) (a : Address) : Task (Option Account) :=
  .fresh (.account a) (ledger.account a)

/-- Looks an account up. -/
def readAccount (ledger : Ledger) (a : Address) : Reading (Option Account) :=
  (ledger.accountTask a).finish

/-- Looks the most recent block up. -/
def readAnchor (ledger : Ledger) : Reading LifetimeAnchor :=
  (Task.fresh .anchor ledger.anchor).finish

/-- Looks two accounts up at the same time, the first one first. -/
def readAccounts (ledger : Ledger) (a b : Address) : Reading (Option Account × Option Account) :=
  (ledger.accountTask a).join (ledger.accountTask b)

end Ledger

end PayLink
