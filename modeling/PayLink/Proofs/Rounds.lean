import PayLink.Proofs.Ledger
/-!
# How long waiting for lookups takes

Who waits for lookups asks in rounds until there is a value or a failure. The rounds are counted by
waiting that is given up after some number of them. It comes to the same as waiting without an end if
it is given as many rounds as the lookups take, and to nothing if it is given fewer. One round more
than a lookup is found unfinished is always enough.
-/

namespace PayLink

section Rounds

variable {σ β : Type}

/-- Asks again and again until there is a value or a failure, and gives up after `n` rounds. -/
def askWithin (ask : σ → Reading σ) (value? : σ → Option β) : Nat → σ → Option (Reading β)
  | 0, _ => none
  | n + 1, s =>
    match (ask s).result with
    | .error e => some ⟨.error e, (ask s).started⟩
    | .ok t =>
      match value? t with
      | some b => some ⟨.ok b, (ask s).started⟩
      | none => (askWithin ask value? n t).map (.after (ask s).started)

/-- What one round of waiting does to the reading that waiting comes to and to the number of rounds
that it takes. -/
structure WaitsFor (ask : σ → Reading σ) (value? : σ → Option β) (wait : σ → Reading β)
    (rounds : σ → Nat) : Prop where
  /-- There is always a first round. -/
  one_le (s : σ) : 1 ≤ rounds s
  /-- A round that fails is the last one. -/
  failed {s : σ} {e : PayError} (h : (ask s).result = .error e) :
    wait s = ⟨.error e, (ask s).started⟩ ∧ rounds s = 1
  /-- A round after which there is a value is the last one. -/
  found {s t : σ} {b : β} (h : (ask s).result = .ok t) (hb : value? t = some b) :
    wait s = ⟨.ok b, (ask s).started⟩ ∧ rounds s = 1
  /-- Any other round leaves one round less, and only adds the lookups that it starts. -/
  next {s t : σ} (h : (ask s).result = .ok t) (hb : value? t = none) :
    wait s = (wait t).after (ask s).started ∧ rounds s = rounds t + 1

/-- Waiting comes to an end after just the rounds that it takes. -/
theorem WaitsFor.askWithin_eq {ask : σ → Reading σ} {value? : σ → Option β} {wait : σ → Reading β}
    {rounds : σ → Nat} (h : WaitsFor ask value? wait rounds) (n : Nat) (s : σ) :
    askWithin ask value? n s = if rounds s ≤ n then some (wait s) else none := by
  -- With `n` rounds left the state is any that the rounds before have led to.
  induction n generalizing s with
  | zero =>
    have hone := h.one_le s
    rw [askWithin, if_neg (by omega)]
  | succ n ih =>
    cases hask : (ask s).result with
    | error e =>
      obtain ⟨hwait, hrounds⟩ := h.failed hask
      rw [askWithin, hask, if_pos (by omega), hwait]
    | ok t =>
      cases hvalue : value? t with
      | some b =>
        obtain ⟨hwait, hrounds⟩ := h.found hask hvalue
        simp only [askWithin, hask, hvalue]
        rw [if_pos (by omega), hwait]
      | none =>
        obtain ⟨hwait, hrounds⟩ := h.next hask hvalue
        have hiff : rounds t ≤ n ↔ rounds s ≤ n + 1 := by omega
        simp only [askWithin, hask, hvalue, ih, hiff, hwait]
        by_cases hle : rounds s ≤ n + 1
        · simp only [if_pos hle, Option.map_some]
        · simp only [if_neg hle, Option.map_none]

end Rounds

namespace Task

variable {α β : Type}

/-- The value of a finished task. -/
def value? : Task α → Option α
  | .finished a => some a
  | .fresh _ _ | .running _ => none

/-- A task has its value if it is finished. -/
theorem value?_eq_some_iff {s : Task α} {a : α} : s.value? = some a ↔ s = .finished a := by
  cases s with
  | fresh key l => simp [value?]
  | running l => simp [value?]
  | finished b => simp [value?]

/-- A task has no value as long as it has to be asked. -/
theorem value?_eq_none_iff {s : Task α} : s.value? = none ↔ s.remaining ≠ 0 := by
  cases s with
  | fresh key l => simp [value?, remaining]
  | running l => simp [value?, remaining]
  | finished b => simp [value?, remaining]

/-- Waits for a task, and gives up after `n` questions. -/
def finishWithin : Nat → Task α → Option (Reading α) :=
  askWithin ask value?

/-- Waiting for a task takes as many questions as it has to be asked, and one if it is finished. -/
theorem waitsFor_finish : WaitsFor ask value? (finish (α := α)) fun s => max 1 s.remaining where
  one_le s := Nat.le_max_left 1 s.remaining
  failed {s e} h := by
    obtain ⟨hone, fault, hfault, rfl⟩ := ask_eq_error_iff.1 h
    rw [finish_eq, hfault, started_ask, hone]
    exact ⟨rfl, rfl⟩
  found {s t a} h ha := by
    obtain rfl := value?_eq_some_iff.1 ha
    have hrem : 0 = s.remaining - 1 := remaining_ask h
    rw [finish_eq, started_ask, ← (ask_eq_ok h).1]
    exact ⟨rfl, by omega⟩
  next {s t} h hnone := by
    obtain ⟨hout, hkeys⟩ := ask_eq_ok h
    have hrem := remaining_ask h
    have hne := value?_eq_none_iff.1 hnone
    rw [finish_eq, finish_eq, hout, hkeys, started_ask]
    exact ⟨congrArg _ (List.append_nil _).symm, by omega⟩

/-- A round of questions to two tasks, the second one asked only if the first one has not failed. -/
def askBoth (tasks : Task α × Task β) : Reading (Task α × Task β) :=
  tasks.1.ask.andThen fun s => tasks.2.ask.andThen fun t => .ofResult (.ok (s, t))

/-- The values of two tasks that are both finished. -/
def values? (tasks : Task α × Task β) : Option (α × β) :=
  tasks.1.value?.bind fun a => tasks.2.value?.map (a, ·)

/-- Waits for two tasks, and gives up after `n` rounds. -/
def joinWithin (n : Nat) (s : Task α) (t : Task β) : Option (Reading (α × β)) :=
  askWithin askBoth values? n (s, t)

/-- The rounds that waiting for two tasks takes: until both are finished, or until the first
failure. -/
def rounds (tasks : Task α × Task β) : Nat :=
  match tasks.1.outcome, tasks.2.outcome with
  | .ok _, .ok _ => max 1 (max tasks.1.remaining tasks.2.remaining)
  | .ok _, .error _ => tasks.2.remaining
  | .error _, .ok _ => tasks.1.remaining
  | .error _, .error _ => min tasks.1.remaining tasks.2.remaining

/-- Waiting for two tasks takes no longer than waiting for each of them. -/
theorem rounds_le (tasks : Task α × Task β) :
    rounds tasks ≤ max 1 (max tasks.1.remaining tasks.2.remaining) := by
  unfold rounds
  cases tasks.1.outcome with
  | ok a =>
    cases tasks.2.outcome with
    | ok b => exact Nat.le_refl _
    | error fault => dsimp only; omega
  | error fault =>
    cases tasks.2.outcome with
    | ok b => dsimp only; omega
    | error other => dsimp only; omega

/-- Waiting for two tasks takes at least one round. -/
theorem one_le_rounds (tasks : Task α × Task β) : 1 ≤ rounds tasks := by
  unfold rounds
  cases hs : tasks.1.outcome with
  | ok a =>
    cases ht : tasks.2.outcome with
    | ok b => exact Nat.le_max_left _ _
    | error fault => exact Nat.one_le_iff_ne_zero.2 (remaining_ne_zero ht)
  | error fault =>
    have hszero := remaining_ne_zero hs
    cases ht : tasks.2.outcome with
    | ok b => exact Nat.one_le_iff_ne_zero.2 hszero
    | error other =>
      have htzero := remaining_ne_zero ht
      exact Nat.le_min.2 ⟨Nat.one_le_iff_ne_zero.2 hszero, Nat.one_le_iff_ne_zero.2 htzero⟩

variable {s s' : Task α} {t t' : Task β}

/-- If one of two tasks fails at the next question, waiting for them takes one round. -/
theorem rounds_of_ask {e : PayError} (h : s.ask.result = .error e ∨ t.ask.result = .error e) :
    rounds (s, t) = 1 := by
  have hone := one_le_rounds (s, t)
  have hle : rounds (s, t) ≤ 1 := by
    rcases h with h | h
    · obtain ⟨hrem, fault, hfault, -⟩ := ask_eq_error_iff.1 h
      unfold rounds
      rw [hfault]
      cases t.outcome with
      | ok b => exact Nat.le_of_eq hrem
      | error other => exact Nat.le_trans (Nat.min_le_left _ _) (Nat.le_of_eq hrem)
    · obtain ⟨hrem, fault, hfault, -⟩ := ask_eq_error_iff.1 h
      unfold rounds
      rw [hfault]
      cases s.outcome with
      | ok a => exact Nat.le_of_eq hrem
      | error other => exact Nat.le_trans (Nat.min_le_right _ _) (Nat.le_of_eq hrem)
  omega

/-- A round that does not fail asks both tasks. -/
theorem ask_of_askBoth (h : (askBoth (s, t)).result = .ok (s', t')) :
    s.ask.result = .ok s' ∧ t.ask.result = .ok t' ∧
      (askBoth (s, t)).started = s.keys ++ t.keys := by
  obtain ⟨first, hs, h⟩ := Reading.result_andThen_eq_ok_iff.1 h
  obtain ⟨second, ht, h⟩ := Reading.result_andThen_eq_ok_iff.1 h
  cases h
  refine ⟨hs, ht, ?_⟩
  rw [askBoth, Reading.andThen_of_ok hs, Reading.andThen_of_ok ht, started_ask, started_ask]
  exact congrArg _ (List.append_nil _)

/-- A round that fails is the last one. -/
theorem join_of_askBoth_error {e : PayError} (h : (askBoth (s, t)).result = .error e) :
    s.join t = ⟨.error e, (askBoth (s, t)).started⟩ ∧ rounds (s, t) = 1 := by
  rw [join_eq]
  rcases Reading.result_andThen_eq_error_iff.1 h with hs | ⟨s', hs, h⟩
  · rw [askBoth, Reading.andThen_of_error hs, started_ask, joined_of_ask_left hs]
    exact ⟨rfl, rounds_of_ask (.inl hs)⟩
  · rcases Reading.result_andThen_eq_error_iff.1 h with ht | ⟨t', ht, h⟩
    · rw [askBoth, Reading.andThen_of_ok hs, Reading.andThen_of_error ht, started_ask, started_ask,
        joined_of_ask_right hs ht]
      exact ⟨rfl, rounds_of_ask (.inr ht)⟩
    · cases h

/-- Two tasks have both values if both are finished. -/
theorem values?_eq_some_iff {found : α × β} :
    values? (s, t) = some found ↔ s = .finished found.1 ∧ t = .finished found.2 := by
  obtain ⟨a, b⟩ := found
  simp only [values?, Option.bind_eq_some_iff, Option.map_eq_some_iff, value?_eq_some_iff,
    Prod.mk.injEq]
  constructor
  · rintro ⟨_, rfl, _, rfl, rfl, rfl⟩
    exact ⟨rfl, rfl⟩
  · rintro ⟨rfl, rfl⟩
    exact ⟨a, rfl, b, rfl, rfl, rfl⟩

/-- Two tasks do not have both values as long as one of them has to be asked. -/
theorem values?_eq_none_iff :
    values? (s, t) = none ↔ s.remaining ≠ 0 ∨ t.remaining ≠ 0 := by
  simp only [← value?_eq_none_iff, values?]
  cases s.value? with
  | none => simp
  | some a => simp

/-- Waiting for two tasks takes one round more before a round than after it, unless that was the last
one. -/
theorem rounds_of_askBoth (hs : s.ask.result = .ok s') (ht : t.ask.result = .ok t')
    (hnone : s'.remaining ≠ 0 ∨ t'.remaining ≠ 0) : rounds (s, t) = rounds (s', t') + 1 := by
  have hsrem := remaining_ask hs
  have htrem := remaining_ask ht
  unfold rounds
  rw [(ask_eq_ok hs).1, (ask_eq_ok ht).1]
  cases hsout : s.outcome with
  | ok a =>
    cases htout : t.outcome with
    | ok b => dsimp only; omega
    | error fault =>
      have htzero := remaining_ne_zero htout
      dsimp only
      omega
  | error fault =>
    have hszero := remaining_ne_zero hsout
    cases htout : t.outcome with
    | ok b => dsimp only; omega
    | error other =>
      have htzero := remaining_ne_zero htout
      dsimp only
      omega

/-- Waiting for two tasks takes the rounds that it takes until both are finished or one has failed. -/
theorem waitsFor_join :
    WaitsFor askBoth values? (fun tasks : Task α × Task β => tasks.1.join tasks.2) rounds where
  one_le := one_le_rounds
  failed h := join_of_askBoth_error h
  found {tasks next found} h hfound := by
    obtain ⟨s, t⟩ := tasks
    obtain ⟨s', t'⟩ := next
    obtain ⟨hs, ht, hstarted⟩ := ask_of_askBoth h
    obtain ⟨rfl, rfl⟩ := values?_eq_some_iff.1 hfound
    have hsrem : 0 = s.remaining - 1 := remaining_ask hs
    have htrem : 0 = t.remaining - 1 := remaining_ask ht
    rw [hstarted, join_eq, ← joined_of_ask hs ht]
    refine ⟨congrArg (Reading.mk _) (List.append_nil _), ?_⟩
    have hle : rounds (s, t) ≤ max 1 (max s.remaining t.remaining) := rounds_le (s, t)
    have hone := one_le_rounds (s, t)
    omega
  next {tasks next} h hnone := by
    obtain ⟨s, t⟩ := tasks
    obtain ⟨s', t'⟩ := next
    obtain ⟨hs, ht, hstarted⟩ := ask_of_askBoth h
    rw [hstarted, join_eq, join_eq, joined_of_ask hs ht]
    exact ⟨rfl, rounds_of_askBoth hs ht (values?_eq_none_iff.1 hnone)⟩

/-- Waiting for a task has come to its end after more rounds than its lookup is found unfinished. -/
theorem finishWithin_fresh {key : LookupKey} {l : Lookup α} {n : Nat} (h : l.delay < n) :
    finishWithin n (.fresh key l) = some (finish (.fresh key l)) := by
  have hle : max 1 (remaining (.fresh key l)) ≤ n := by
    rw [remaining]
    omega
  rw [finishWithin, waitsFor_finish.askWithin_eq, if_pos hle]

/-- Waiting for two tasks has come to its end after more rounds than either lookup is found
unfinished. -/
theorem joinWithin_fresh {key key' : LookupKey} {l : Lookup α} {m : Lookup β} {n : Nat}
    (h : max l.delay m.delay < n) :
    joinWithin n (.fresh key l) (.fresh key' m) = some ((fresh key l).join (.fresh key' m)) := by
  have hle := rounds_le (fresh key l, fresh key' m)
  simp only [remaining] at hle
  rw [joinWithin, waitsFor_join.askWithin_eq, if_pos (by omega)]

end Task

end PayLink
