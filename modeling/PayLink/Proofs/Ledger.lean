import PayLink.Ledger
/-!
# What waiting for lookups comes to

However long its lookups take, waiting for one or two of them ends. Two lookups succeed together if
both do. Otherwise the first to fail decides, and of two that fail at the same time the one that is
asked first.
-/

namespace PayLink

/-- Whether a lookup fails when it is asked for the first time. -/
def Lookup.failsAtOnce {α : Type} : Lookup α → Bool
  | ⟨0, .error _⟩ => true
  | _ => false

/-- The fault with which two lookups end that are made at the same time: that of the one that fails
first, and that of the first one if both fail at the same time. -/
def Lookup.firstFault? {α β : Type} (l : Lookup α) (m : Lookup β) : Option Fault :=
  match l.outcome, m.outcome with
  | .ok _, .ok _ => none
  | .error fault, .ok _ => some fault
  | .ok _, .error fault => some fault
  | .error fault, .error other => some (if l.delay ≤ m.delay then fault else other)

/-- A lookup that fails at once is never the later one of two. -/
theorem Lookup.firstFault?_ne_none {α β : Type} {l : Lookup α} (h : l.failsAtOnce = true)
    (m : Lookup β) : l.firstFault? m ≠ none := by
  obtain ⟨delay, outcome⟩ := l
  cases outcome with
  | ok a => simp [failsAtOnce] at h
  | error fault => cases hm : m.outcome <;> simp [firstFault?, hm]

namespace Task

variable {α β : Type}

/-- What a task ends with. -/
def outcome : Task α → Except Fault α
  | .fresh _ l | .running l => l.outcome
  | .finished a => .ok a

/-- The lookups that are started when a task is asked. -/
def keys : Task α → List LookupKey
  | .fresh key _ => [key]
  | .running _ | .finished _ => []

/-- Asking a task starts its lookup, if that is not started yet. -/
theorem started_ask (s : Task α) : s.ask.started = s.keys := by
  cases s with
  | fresh key l => rfl
  | running l => rfl
  | finished a => rfl

/-- A task that has no further question to wait for is finished. -/
theorem remaining_eq_zero_iff {s : Task α} : s.remaining = 0 ↔ ∃ a, s = .finished a := by
  cases s with
  | fresh key l =>
    constructor
    · intro h
      cases h
    · rintro ⟨_, h⟩
      cases h
  | running l =>
    constructor
    · intro h
      cases h
    · rintro ⟨_, h⟩
      cases h
  | finished a => exact ⟨fun _ => ⟨a, rfl⟩, fun _ => rfl⟩

/-- A lookup that goes on is started and ends as it would have. -/
theorem advance_eq_ok {l : Lookup α} {t : Task α} (h : advance l = .ok t) :
    t.outcome = l.outcome ∧ t.keys = [] := by
  match l with
  | ⟨0, .ok a⟩ =>
    cases h
    exact ⟨rfl, rfl⟩
  | ⟨0, .error fault⟩ => cases h
  | ⟨delay + 1, outcome⟩ =>
    cases h
    exact ⟨rfl, rfl⟩

/-- A task that goes on is started and ends as it would have. -/
theorem ask_eq_ok {s t : Task α} (h : s.ask.result = .ok t) :
    t.outcome = s.outcome ∧ t.keys = [] := by
  cases s with
  | fresh key l => exact advance_eq_ok h
  | running l => exact advance_eq_ok h
  | finished a =>
    cases h
    exact ⟨rfl, rfl⟩

/-- A lookup fails when it is found finished and its outcome is a fault. -/
theorem advance_eq_error_iff {l : Lookup α} {e : PayError} :
    advance l = .error e ↔ l.delay = 0 ∧ ∃ fault, l.outcome = .error fault ∧ e = .ledger fault := by
  match l with
  | ⟨0, .ok a⟩ =>
    constructor
    · intro h
      cases h
    · rintro ⟨-, _, h, -⟩
      cases h
  | ⟨0, .error fault⟩ =>
    constructor
    · intro h
      cases h
      exact ⟨rfl, fault, rfl, rfl⟩
    · rintro ⟨-, _, h, rfl⟩
      cases h
      rfl
  | ⟨delay + 1, outcome⟩ =>
    constructor
    · intro h
      cases h
    · rintro ⟨h, -⟩
      cases h

/-- A task fails at the last question if its outcome is a fault. -/
theorem ask_eq_error_iff {s : Task α} {e : PayError} :
    s.ask.result = .error e ↔
      s.remaining = 1 ∧ ∃ fault, s.outcome = .error fault ∧ e = .ledger fault := by
  cases s with
  | fresh key l =>
    refine advance_eq_error_iff.trans (and_congr_left' ?_)
    rw [remaining, Nat.add_eq_right]
  | running l =>
    refine advance_eq_error_iff.trans (and_congr_left' ?_)
    rw [remaining, Nat.add_eq_right]
  | finished a =>
    constructor
    · intro h
      cases h
    · rintro ⟨h, -⟩
      cases h

/-- A task that ends with a fault is not finished. -/
theorem remaining_ne_zero {s : Task α} {fault : Fault} (h : s.outcome = .error fault) :
    s.remaining ≠ 0 := by
  intro hzero
  obtain ⟨a, rfl⟩ := remaining_eq_zero_iff.1 hzero
  cases h

/-- Waiting for a task ends with its outcome, and starts its lookup once. -/
theorem finish_eq (s : Task α) :
    s.finish = ⟨s.outcome.mapError .ledger, s.keys⟩ := by
  fun_induction finish s with
  | case1 s e he =>
    obtain ⟨-, fault, hfault, rfl⟩ := ask_eq_error_iff.1 he
    rw [hfault, started_ask]
    rfl
  | case2 s a ha =>
    rw [started_ask, ← (ask_eq_ok ha).1]
    rfl
  | case3 s l hl ih =>
    rw [ih, started_ask, ← (ask_eq_ok hl).1]
    exact congrArg _ (List.append_nil _)
  | case4 s key l hl ih =>
    cases (ask_eq_ok hl).2

/-- What waiting for two tasks comes to. The second one is not started if the first one fails at the
first question. -/
def joined (s : Task α) (t : Task β) : Reading (α × β) :=
  match s.outcome, t.outcome with
  | .ok a, .ok b => ⟨.ok (a, b), s.keys ++ t.keys⟩
  | .ok _, .error fault => ⟨.error (.ledger fault), s.keys ++ t.keys⟩
  | .error fault, .ok _ =>
    ⟨.error (.ledger fault), s.keys ++ if s.remaining = 1 then [] else t.keys⟩
  | .error fault, .error other =>
    if s.remaining ≤ t.remaining then
      ⟨.error (.ledger fault), s.keys ++ if s.remaining = 1 then [] else t.keys⟩
    else ⟨.error (.ledger other), s.keys ++ t.keys⟩

/-- If the first task fails at this question, the second one is not asked. -/
theorem joined_of_ask_left {s : Task α} {t : Task β} {e : PayError}
    (h : s.ask.result = .error e) : s.joined t = ⟨.error e, s.keys⟩ := by
  obtain ⟨hone, fault, hfault, rfl⟩ := ask_eq_error_iff.1 h
  unfold joined
  rw [hfault]
  cases ht : t.outcome with
  | ok b => simp only [hone, if_true, List.append_nil]
  | error other =>
    have hle : s.remaining ≤ t.remaining := by
      have hne := remaining_ne_zero ht
      omega
    simp only [if_pos hle, if_pos hone, List.append_nil]

/-- If the first task goes on and the second one fails at this question, its fault is the result. -/
theorem joined_of_ask_right {s s' : Task α} {t : Task β} {e : PayError}
    (hs : s.ask.result = .ok s') (h : t.ask.result = .error e) :
    s.joined t = ⟨.error e, s.keys ++ t.keys⟩ := by
  obtain ⟨hone, fault, hfault, rfl⟩ := ask_eq_error_iff.1 h
  unfold joined
  rw [hfault]
  cases hout : s.outcome with
  | ok a => rfl
  | error other =>
    have hnotone : s.remaining ≠ 1 := by
      intro hs1
      rw [ask_eq_error_iff.2 ⟨hs1, other, hout, rfl⟩] at hs
      cases hs
    have hgt : ¬s.remaining ≤ t.remaining := by
      have hne := remaining_ne_zero hout
      omega
    simp only [hgt, if_false]

/-- A round of questions after which both tasks go on changes nothing but what is started. -/
theorem joined_of_ask {s s' : Task α} {t t' : Task β} (hs : s.ask.result = .ok s')
    (ht : t.ask.result = .ok t') :
    (s'.joined t').after (s.keys ++ t.keys) = s.joined t := by
  obtain ⟨hsout, hskeys⟩ := ask_eq_ok hs
  obtain ⟨htout, htkeys⟩ := ask_eq_ok ht
  have hsrem := remaining_ask hs
  have htrem := remaining_ask ht
  unfold joined
  rw [hsout, htout, hskeys, htkeys]
  cases hso : s.outcome with
  | ok a =>
    cases t.outcome with
    | ok b => simp only [Reading.after, List.append_nil]
    | error fault => simp only [Reading.after, List.append_nil]
  | error fault =>
    have hsone : s.remaining ≠ 1 := by
      intro hone
      rw [ask_eq_error_iff.2 ⟨hone, fault, hso, rfl⟩] at hs
      cases hs
    cases hto : t.outcome with
    | ok b => simp only [Reading.after, ite_self, List.append_nil, hsone, if_false]
    | error other =>
      have htone : t.remaining ≠ 1 := by
        intro hone
        rw [ask_eq_error_iff.2 ⟨hone, other, hto, rfl⟩] at ht
        cases ht
      have hszero := remaining_ne_zero hso
      have htzero := remaining_ne_zero hto
      have hle : s'.remaining ≤ t'.remaining ↔ s.remaining ≤ t.remaining := by omega
      by_cases h : s.remaining ≤ t.remaining
      · simp only [Reading.after, hle, h, if_true, ite_self, List.append_nil, hsone, if_false]
      · simp only [Reading.after, hle, h, if_false, List.append_nil]

/-- Asking two tasks in turn comes to what waiting for them comes to. -/
theorem join_eq (s : Task α) (t : Task β) : s.join t = s.joined t := by
  fun_induction join s t with
  | case1 s t e he => rw [joined_of_ask_left he, started_ask]
  | case2 s t s' hs e he => rw [joined_of_ask_right hs he, started_ask, started_ask]
  | case3 s t a b hs ht =>
    rw [← joined_of_ask hs ht, started_ask, started_ask]
    exact congrArg (Reading.mk _) (List.append_nil _).symm
  | case4 s t a m hs ht _ _ ih => rw [ih, started_ask, started_ask, joined_of_ask hs ht]
  | case5 s t a key m hs ht _ _ ih => rw [ih, started_ask, started_ask, joined_of_ask hs ht]
  | case6 s t l t' hs ht _ _ ih => rw [ih, started_ask, started_ask, joined_of_ask hs ht]
  | case7 s t key l t' hs ht _ _ ih => rw [ih, started_ask, started_ask, joined_of_ask hs ht]

/-- Waiting for two tasks has a result if both end with one. -/
theorem result_joined_eq_ok_iff {s : Task α} {t : Task β} {found : α × β} :
    (s.joined t).result = .ok found ↔ s.outcome = .ok found.1 ∧ t.outcome = .ok found.2 := by
  unfold joined
  cases s.outcome with
  | ok a =>
    cases t.outcome with
    | ok b =>
      constructor
      · intro h
        cases h
        exact ⟨rfl, rfl⟩
      · rintro ⟨ha, hb⟩
        cases ha
        cases hb
        rfl
    | error fault =>
      constructor
      · intro h
        cases h
      · rintro ⟨-, h⟩
        cases h
  | error fault =>
    constructor
    · intro h
      cases ht : t.outcome with
      | ok b =>
        rw [ht] at h
        cases h
      | error other =>
        rw [ht] at h
        by_cases hle : s.remaining ≤ t.remaining
        · simp only [if_pos hle] at h
          cases h
        · simp only [if_neg hle] at h
          cases h
    · rintro ⟨h, -⟩
      cases h

/-- Unless both tasks fail, waiting for them comes to the same however long they take. -/
theorem result_joined_congr {s s' : Task α} {t t' : Task β} (hs : s.outcome = s'.outcome)
    (ht : t.outcome = t'.outcome)
    (hnot : ¬((∃ fault, s.outcome = .error fault) ∧ ∃ fault, t.outcome = .error fault)) :
    (s.joined t).result = (s'.joined t').result := by
  unfold joined
  rw [← hs, ← ht]
  cases hsout : s.outcome with
  | ok a => cases t.outcome <;> rfl
  | error fault =>
    cases htout : t.outcome with
    | ok b => rfl
    | error other => exact absurd ⟨⟨fault, hsout⟩, other, htout⟩ hnot

section Fresh

variable {key key' : LookupKey} {l : Lookup α} {m : Lookup β}

/-- Two lookups that are made at the same time fail with the fault that comes first. -/
theorem result_joined_fresh_eq_error_iff {e : PayError} :
    ((fresh key l).joined (fresh key' m)).result = .error e ↔
      (l.firstFault? m).map .ledger = some e := by
  obtain ⟨delay, outcome⟩ := l
  obtain ⟨delay', outcome'⟩ := m
  cases outcome with
  | ok a =>
    cases outcome' with
    | ok b => simp [joined, Task.outcome, Lookup.firstFault?]
    | error other => simp [joined, Task.outcome, Lookup.firstFault?]
  | error fault =>
    cases outcome' with
    | ok b => simp [joined, Task.outcome, Lookup.firstFault?]
    | error other =>
      by_cases hle : delay ≤ delay'
      · simp [joined, Task.outcome, remaining, Lookup.firstFault?, hle]
      · simp [joined, Task.outcome, remaining, Lookup.firstFault?, hle]

/-- The second of two lookups is not started if the first one fails at once. -/
theorem started_joined_fresh :
    ((fresh key l).joined (fresh key' m)).started =
      if l.failsAtOnce then [key] else [key, key'] := by
  obtain ⟨delay, outcome⟩ := l
  obtain ⟨delay', outcome'⟩ := m
  cases outcome with
  | ok a =>
    cases outcome' with
    | ok b => simp [joined, Task.outcome, keys, Lookup.failsAtOnce]
    | error other => simp [joined, Task.outcome, keys, Lookup.failsAtOnce]
  | error fault =>
    cases outcome' with
    | ok b => cases delay <;> simp [joined, Task.outcome, remaining, keys, Lookup.failsAtOnce]
    | error other =>
      cases delay with
      | zero => simp [joined, Task.outcome, remaining, keys, Lookup.failsAtOnce]
      | succ delay =>
        by_cases hle : delay + 1 ≤ delay'
        · simp [joined, Task.outcome, remaining, keys, Lookup.failsAtOnce, hle]
        · simp [joined, Task.outcome, remaining, keys, Lookup.failsAtOnce, hle]

end Fresh

end Task

namespace Reading

variable {α β γ : Type}

/-- A reading goes on from its result. -/
theorem andThen_of_ok {r : Reading α} {a : α} (h : r.result = .ok a) (f : α → Reading β) :
    r.andThen f = ⟨(f a).result, r.started ++ (f a).started⟩ := by
  rw [andThen, h]

/-- A reading that has no result does not go on. -/
theorem andThen_of_error {r : Reading α} {e : PayError} (h : r.result = .error e)
    (f : α → Reading β) : r.andThen f = ⟨.error e, r.started⟩ := by
  rw [andThen, h]

/-- A reading that goes on has a result if both parts of it do. -/
theorem result_andThen_eq_ok_iff {r : Reading α} {f : α → Reading β} {b : β} :
    (r.andThen f).result = .ok b ↔ ∃ a, r.result = .ok a ∧ (f a).result = .ok b := by
  cases hr : r.result with
  | error e =>
    rw [andThen, hr]
    constructor
    · intro h
      cases h
    · rintro ⟨_, h, -⟩
      cases h
  | ok a =>
    rw [andThen_of_ok hr]
    constructor
    · intro h
      exact ⟨a, rfl, h⟩
    · rintro ⟨_, h, hb⟩
      cases h
      exact hb

/-- A reading that goes on fails if its first part does, or if the second does on its result. -/
theorem result_andThen_eq_error_iff {r : Reading α} {f : α → Reading β} {e : PayError} :
    (r.andThen f).result = .error e ↔
      r.result = .error e ∨ ∃ a, r.result = .ok a ∧ (f a).result = .error e := by
  cases hr : r.result with
  | error e' =>
    rw [andThen_of_error hr]
    simp only [Except.error.injEq, reduceCtorEq, false_and, exists_false, or_false]
  | ok a =>
    rw [andThen_of_ok hr]
    simp only [reduceCtorEq, Except.ok.injEq, exists_eq_left', false_or]

/-- What is read depends on the results of both parts alone. -/
theorem result_andThen_congr {r r' : Reading α} {f f' : α → Reading β}
    (hr : r.result = r'.result) (hf : ∀ a, (f a).result = (f' a).result) :
    (r.andThen f).result = (r'.andThen f').result := by
  cases h : r'.result with
  | error e => rw [andThen_of_error (hr.trans h), andThen_of_error h]
  | ok a =>
    rw [andThen_of_ok (hr.trans h), andThen_of_ok h]
    exact hf a

/-- Readings go on one after the other. -/
theorem andThen_assoc (r : Reading α) (f : α → Reading β) (g : β → Reading γ) :
    (r.andThen f).andThen g = r.andThen fun a => (f a).andThen g := by
  cases hr : r.result with
  | error e =>
    rw [andThen_of_error hr, andThen_of_error hr]
    rfl
  | ok a =>
    rw [andThen_of_ok hr, andThen_of_ok hr]
    cases hf : (f a).result with
    | error e =>
      rw [andThen_of_error hf]
      rfl
    | ok b =>
      rw [andThen_of_ok hf, ← List.append_assoc]
      rfl

end Reading

namespace Ledger

variable (ledger : Ledger)

/-- Looking an account up finds it. -/
def Holds (a : Address) (account : Account) : Prop :=
  (ledger.account a).outcome = .ok (some account)

/-- A lookup ends with a fault. -/
def Fails : LookupKey → Prop
  | .account a => ∃ fault, (ledger.account a).outcome = .error fault
  | .anchor => ∃ fault, ledger.anchor.outcome = .error fault

/-- Looking the most recent block up is one lookup. -/
theorem readAnchor_eq :
    ledger.readAnchor = ⟨ledger.anchor.outcome.mapError .ledger, [.anchor]⟩ :=
  Task.finish_eq _

variable {ledger} {a b : Address} {found : Option Account × Option Account}

/-- Two accounts are found exactly if neither lookup fails. -/
theorem result_readAccounts_eq_ok_iff :
    (ledger.readAccounts a b).result = .ok found ↔
      (ledger.account a).outcome = .ok found.1 ∧ (ledger.account b).outcome = .ok found.2 := by
  rw [readAccounts, Task.join_eq, Task.result_joined_eq_ok_iff]
  rfl

/-- Two accounts that are found are looked up once each, in their order. -/
theorem started_readAccounts (h : (ledger.readAccounts a b).result = .ok found) :
    (ledger.readAccounts a b).started = [.account a, .account b] := by
  obtain ⟨ha, hb⟩ := result_readAccounts_eq_ok_iff.1 h
  rw [readAccounts, Task.join_eq, Task.joined]
  simp only [accountTask, Task.outcome, ha, hb]
  rfl

/-- Looking two accounts up fails with the fault that comes first. -/
theorem result_readAccounts_eq_error_iff {e : PayError} :
    (ledger.readAccounts a b).result = .error e ↔
      ((ledger.account a).firstFault? (ledger.account b)).map .ledger = some e := by
  rw [readAccounts, Task.join_eq]
  exact Task.result_joined_fresh_eq_error_iff

/-- The second of two accounts is not looked up if the lookup of the first one fails at once. -/
theorem started_readAccounts_eq (ledger : Ledger) (a b : Address) :
    (ledger.readAccounts a b).started =
      if (ledger.account a).failsAtOnce then [.account a] else [.account a, .account b] := by
  rw [readAccounts, Task.join_eq]
  exact Task.started_joined_fresh

end Ledger

end PayLink
