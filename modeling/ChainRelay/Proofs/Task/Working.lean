import ChainRelay.Proofs.Task.Faults

/-!
# Surroundings that work

In surroundings that work, no operation of the store fails, no task is stopped, and
at the other end of every queue somebody is left. Then what is read is what the store
holds, what is written is kept unless it is too large, and a task waits only for room
in a queue, for a height, or for its time (`Works.go?_setStatus` and the lemmas beside
it).
-/

namespace ChainRelay.Surroundings

/-- Nothing in the surroundings fails or comes to an end. -/
structure Works (s : Surroundings) : Prop where
  fails : ∀ act, s.fails act = none
  isStopped : s.isStopped = false
  isAbandoned : s.isAbandoned = false
  isClosed : s.isClosed = false
  isUnread : s.isUnread = false

theorem works_start (store : Store) (capacity : Nat) : (start store capacity).Works :=
  ⟨fun _ => rfl, rfl, rfl, rfl, rfl⟩

variable {s : Surroundings} {height : UInt64} {status : BlockStatus}

namespace Works

/-- What is stored, waits, is due or was counted is free to change. -/
theorem frame (hw : s.Works) (store : Store) (calls : List Act) (queue : List UInt64)
    (capacity : Nat) (blocks : List Block) (isRested isDue : Bool) (log : List Measurement) :
    Works { s with store, calls, queue, capacity, blocks, isRested, isDue, log } :=
  ⟨hw.fails, hw.isStopped, hw.isAbandoned, hw.isClosed, hw.isUnread⟩

theorem called (hw : s.Works) (act : Act) : (s.called act).Works := hw.frame ..

theorem enqueue (hw : s.Works) (height : UInt64) : (s.enqueue height).Works := hw.frame ..

/-- A height that can be stored is stored. -/
theorem fault?_setStatus (hw : s.Works) (hle : height ≤ Store.maxHeight) :
    (Act.setStatus height status).fault? s.fails = none := by
  rw [Act.fault?, hw.fails, Option.none_or, Store.refusal?, if_pos hle]

theorem fault?_setPosition (hw : s.Works) (hle : height ≤ Store.maxHeight) :
    (Act.setPosition height).fault? s.fails = none := by
  rw [Act.fault?, hw.fails, Option.none_or, Store.refusal?, if_pos hle]

variable {σ : Type} {n : Network} {replies : List Http.Reply} {turn : σ → Turn σ} {stage : σ}

theorem go?_readFailed (hw : s.Works) {next : Outcome (List UInt64) → List Measurement × σ}
    (hturn : turn stage = .ask .readFailed next) :
    s.go? n replies turn stage =
      let (log, stage) := next (.ok s.store.failed)
      some ⟨s.called .readFailed, [], log, stage⟩ := by
  rw [Surroundings.go?_readFailed hturn, hw.fails]

theorem go?_setStatus (hw : s.Works) (hle : height ≤ Store.maxHeight)
    {next : Outcome Unit → List Measurement × σ}
    (hturn : turn stage = .ask (.setStatus height status) next) :
    s.go? n replies turn stage =
      let (log, stage) := next (.ok ())
      some ⟨s.note height status, [.noted height status], log, stage⟩ := by
  rw [Surroundings.go?_setStatus hturn, hw.fault?_setStatus hle]

/-- A task that asks for the chain head goes on with what the node tells. -/
theorem go?_pollHead (hw : s.Works) {next : Option (Outcome UInt64) → List Measurement × σ}
    (hturn : turn stage = .ask .pollHead next) :
    s.go? n replies turn stage =
      let (log, head) := (n.pollHead.run Http.scripted replies).1
      some ⟨s, [], log ++ (next (some head)).1, (next (some head)).2⟩ := by
  rw [Surroundings.go?_pollHead hturn, if_neg (by simp [hw.isStopped])]

theorem go?_awaitDue (hw : s.Works) {next : Bool → List Measurement × σ}
    (hturn : turn stage = .ask .awaitDue next) :
    s.go? n replies turn stage =
      if s.isDue then some ⟨{ s with isDue := false }, [], (next true).1, (next true).2⟩
      else none := by
  rw [Surroundings.go?_awaitDue hturn, if_neg (by simp [hw.isStopped])]

/-- A height is offered once there is room. -/
theorem go?_offer (hw : s.Works) {next : Bool → List Measurement × σ}
    (hturn : turn stage = .ask (.offer height) next) :
    s.go? n replies turn stage =
      if s.queue.length < s.capacity then
        some ⟨s.enqueue height, [.offered height], (next true).1, (next true).2⟩
      else none := by
  rw [Surroundings.go?_offer hturn, if_neg (by simp [hw.isStopped, hw.isAbandoned])]

/-- A height is taken once there is one. -/
theorem go?_take (hw : s.Works) {next : Option UInt64 → List Measurement × σ}
    (hturn : turn stage = .ask .take next) :
    s.go? n replies turn stage =
      match s.queue with
      | [] => none
      | height :: rest =>
        some ⟨{ s with queue := rest }, [], (next (some height)).1, (next (some height)).2⟩ := by
  rw [Surroundings.go?_take hturn, if_neg (by simp [hw.isStopped]), hw.isClosed]
  cases s.queue <;> rfl

theorem go?_forward (hw : s.Works) {block : Block} {next : Bool → List Measurement × σ}
    (hturn : turn stage = .ask (.forward block) next) :
    s.go? n replies turn stage =
      some ⟨{ s with blocks := s.blocks ++ [block] }, [.forwarded block], (next true).1,
        (next true).2⟩ := by
  rw [Surroundings.go?_forward hturn, if_neg (by simp [hw.isUnread])]

end Works

end ChainRelay.Surroundings
