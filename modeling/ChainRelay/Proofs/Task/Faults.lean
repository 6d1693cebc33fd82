import ChainRelay.Proofs.Task.Deeds

/-!
# How a task goes on

It is known how a task goes on with each act (`go?_readPosition` and the lemmas behind
it), in surroundings of which nothing is asked. An operation of the store fails
because something is the matter with it, or because it writes about a height that is
too large to be stored (`Act.fault?`); it leaves the store as it was then, and has been
called all the same. Any other act is answered, or the task has to wait.
-/

namespace ChainRelay

/-- Why a height cannot be stored, if it cannot. -/
def Store.refusal? (height : UInt64) : Option Failure :=
  if height ≤ maxHeight then none else some (tooLarge height)

/-- Why an operation of the store fails, if it does. -/
def Act.fault? (fails : Act → Option Failure) : Act → Option Failure
  | .setStatus height status => (fails (.setStatus height status)).or (Store.refusal? height)
  | .setPosition height => (fails (.setPosition height)).or (Store.refusal? height)
  | act => fails act

namespace Surroundings

variable {s : Surroundings} {height : UInt64} {status : BlockStatus}

/-- The surroundings once the store has been called. -/
def called (s : Surroundings) (act : Act) : Surroundings := { s with calls := s.calls ++ [act] }

/-- The surroundings once a height has been put into the queue. -/
def enqueue (s : Surroundings) (height : UInt64) : Surroundings :=
  { s with queue := s.queue ++ [height] }

/-- The surroundings once the status of a height has been noted. -/
def note (s : Surroundings) (height : UInt64) (status : BlockStatus) : Surroundings :=
  { s.called (.setStatus height status) with
    store := { s.store with rows := StatusRows.put height status s.store.rows } }

/-- The surroundings once a position has been noted. -/
def moveTo (s : Surroundings) (height : UInt64) : Surroundings :=
  { s.called (.setPosition height) with store := { s.store with position := some height } }

theorem status?_note_self (s : Surroundings) (height : UInt64) (status : BlockStatus) :
    (s.note height status).store.status? height = some status :=
  StatusRows.lookup_put_self _ _ _

theorem status?_note_of_ne {other : UInt64} (h : other ≠ height) :
    (s.note height status).store.status? other = s.store.status? other :=
  StatusRows.lookup_put_of_ne _ _ h

/-- A write that nothing is the matter with does what it does to the store. -/
theorem write_eq {act : Act} {change : Store → Outcome Store}
    {changed : Store} (hchange : change s.store =
      if height ≤ Store.maxHeight then .ok changed else .error (Store.tooLarge height)) :
    s.write act change =
      match (s.fails act).or (Store.refusal? height) with
      | none => ({ s.called act with store := changed }, .ok ())
      | some failure => (s.called act, .error failure) := by
  rw [write, hchange, Store.refusal?]
  cases s.fails act with
  | some failure => rfl
  | none => split_ifs <;> rfl

variable {σ : Type} {n : Network} {replies : List Http.Reply} {turn : σ → Turn σ} {stage : σ}

/-- A task that has to wait does not go on. -/
theorem go?_eq_none {act : Act} {next : act.Answer → List Measurement × σ}
    (hturn : turn stage = .ask act next) (h : s.serve n act = none) :
    s.go? n replies turn stage = none := by
  simp only [go?, hturn, answer?, h, Option.map_none]

/-! ## The store -/

theorem go?_readPosition {next : Outcome (Option UInt64) → List Measurement × σ}
    (hturn : turn stage = .ask .readPosition next) :
    s.go? n replies turn stage =
      let (log, stage) := next (match s.fails .readPosition with
        | some failure => .error failure
        | none => .ok s.store.position)
      some ⟨s.called .readPosition, [], log, stage⟩ :=
  go?_of_served hturn rfl

theorem go?_readUnfinished {next : Outcome (List UInt64) → List Measurement × σ}
    (hturn : turn stage = .ask .readUnfinished next) :
    s.go? n replies turn stage =
      let (log, stage) := next (match s.fails .readUnfinished with
        | some failure => .error failure
        | none => .ok s.store.unfinished)
      some ⟨s.called .readUnfinished, [], log, stage⟩ :=
  go?_of_served hturn rfl

theorem go?_readFailed {next : Outcome (List UInt64) → List Measurement × σ}
    (hturn : turn stage = .ask .readFailed next) :
    s.go? n replies turn stage =
      let (log, stage) := next (match s.fails .readFailed with
        | some failure => .error failure
        | none => .ok s.store.failed)
      some ⟨s.called .readFailed, [], log, stage⟩ :=
  go?_of_served hturn rfl

theorem go?_setStatus {next : Outcome Unit → List Measurement × σ}
    (hturn : turn stage = .ask (.setStatus height status) next) :
    s.go? n replies turn stage =
      match (Act.setStatus height status).fault? s.fails with
      | none => some ⟨s.note height status, [.noted height status], (next (.ok ())).1,
          (next (.ok ())).2⟩
      | some failure => some ⟨s.called (.setStatus height status), [], (next (.error failure)).1,
          (next (.error failure)).2⟩ := by
  have hwrite : s.write (.setStatus height status) (·.setStatus height status) = _ := write_eq rfl
  rw [Act.fault?]
  split at hwrite <;> exact go?_of_served hturn (congrArg some hwrite)

theorem go?_setPosition {next : Outcome Unit → List Measurement × σ}
    (hturn : turn stage = .ask (.setPosition height) next) :
    s.go? n replies turn stage =
      match (Act.setPosition height).fault? s.fails with
      | none => some ⟨s.moveTo height, [], (next (.ok ())).1, (next (.ok ())).2⟩
      | some failure => some ⟨s.called (.setPosition height), [], (next (.error failure)).1,
          (next (.error failure)).2⟩ := by
  have hwrite : s.write (.setPosition height) (·.setPosition height) = _ := write_eq rfl
  rw [Act.fault?]
  split at hwrite <;> exact go?_of_served hturn (congrArg some hwrite)

/-! ## The node -/

/-- A task that is stopped asks for no chain head. -/
theorem go?_pollHead {next : Option (Outcome UInt64) → List Measurement × σ}
    (hturn : turn stage = .ask .pollHead next) :
    s.go? n replies turn stage =
      if s.isStopped then some ⟨s, [], (next none).1, (next none).2⟩
      else
        let (log, head) := (n.pollHead.run Http.scripted replies).1
        some ⟨s, [], log ++ (next (some head)).1, (next (some head)).2⟩ := by
  split_ifs with h
  · exact go?_of_served hturn (if_pos h)
  · have hserve : s.serveLocal .pollHead = none := if_neg h
    simp only [go?, hturn, answer?, serve, hserve, Option.map_some, Http.Exchange.run_bind,
      Http.Exchange.run]
    rfl

/-- A task that asks for a block goes on with what the node answers. -/
theorem go?_observe {next : Outcome Block → List Measurement × σ}
    (hturn : turn stage = .ask (.observe height) next) :
    s.go? n replies turn stage =
      let block := ((n.observe height).run Http.scripted replies).1
      some ⟨s, [], (next block).1, (next block).2⟩ := by
  simp only [go?, hturn, answer?, serve, serveLocal, Option.map_some, Http.Exchange.run_bind,
    Http.Exchange.run]
  rfl

/-! ## Time and queues -/

theorem go?_rest {next : Bool → List Measurement × σ} (hturn : turn stage = .ask .rest next) :
    s.go? n replies turn stage =
      if s.isStopped then some ⟨s, [], (next false).1, (next false).2⟩
      else if s.isRested then some ⟨{ s with isRested := false }, [], (next true).1, (next true).2⟩
      else none := by
  split_ifs with h hrested
  · exact go?_of_served hturn (if_pos h)
  · exact go?_of_served hturn ((if_neg h).trans (if_pos hrested))
  · exact go?_eq_none hturn (by simp [serve, serveLocal, h, hrested])

theorem go?_awaitDue {next : Bool → List Measurement × σ}
    (hturn : turn stage = .ask .awaitDue next) :
    s.go? n replies turn stage =
      if s.isStopped then some ⟨s, [], (next false).1, (next false).2⟩
      else if s.isDue then some ⟨{ s with isDue := false }, [], (next true).1, (next true).2⟩
      else none := by
  split_ifs with h hdue
  · exact go?_of_served hturn (if_pos h)
  · exact go?_of_served hturn ((if_neg h).trans (if_pos hdue))
  · exact go?_eq_none hturn (by simp [serve, serveLocal, h, hdue])

/-- No height is offered once the task is stopped or nobody is left to take it. -/
theorem go?_offer {next : Bool → List Measurement × σ}
    (hturn : turn stage = .ask (.offer height) next) :
    s.go? n replies turn stage =
      if s.isStopped || s.isAbandoned then some ⟨s, [], (next false).1, (next false).2⟩
      else if s.queue.length < s.capacity then
        some ⟨s.enqueue height, [.offered height], (next true).1, (next true).2⟩
      else none := by
  split_ifs with h hroom
  · exact go?_of_served hturn (if_pos h)
  · exact go?_of_served hturn ((if_neg h).trans (if_pos hroom))
  · exact go?_eq_none hturn (by simp [serve, serveLocal, h, hroom])

/-- A task is stopped even if heights still wait, but not just because nobody is left
    to offer more. -/
theorem go?_take {next : Option UInt64 → List Measurement × σ}
    (hturn : turn stage = .ask .take next) :
    s.go? n replies turn stage =
      if s.isStopped then some ⟨s, [], (next none).1, (next none).2⟩
      else
        match s.queue with
        | height :: rest =>
          some ⟨{ s with queue := rest }, [], (next (some height)).1, (next (some height)).2⟩
        | [] => if s.isClosed then some ⟨s, [], (next none).1, (next none).2⟩ else none := by
  by_cases h : s.isStopped
  · rw [if_pos h]
    exact go?_of_served hturn (if_pos h)
  · rw [if_neg h]
    cases hq : s.queue with
    | nil =>
      dsimp only
      split_ifs with hclosed
      · exact go?_of_served hturn (by simp [serveLocal, h, hq, hclosed])
      · exact go?_eq_none hturn (by simp [serve, serveLocal, h, hq, hclosed])
    | cons height rest => exact go?_of_served hturn (by simp [serveLocal, h, hq])

theorem go?_forward {block : Block} {next : Bool → List Measurement × σ}
    (hturn : turn stage = .ask (.forward block) next) :
    s.go? n replies turn stage =
      if s.isUnread then some ⟨s, [], (next false).1, (next false).2⟩
      else some ⟨{ s with blocks := s.blocks ++ [block] }, [.forwarded block], (next true).1,
        (next true).2⟩ := by
  split_ifs with h
  · exact go?_of_served hturn (if_pos h)
  · exact go?_of_served hturn (if_neg h)

end Surroundings

end ChainRelay
