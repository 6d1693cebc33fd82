import ChainRelay.Observer.Basic
import ChainRelay.Proofs.Scanner.Heights
import ChainRelay.Proofs.Task.Faults
import ChainRelay.Scanner.Head

/-!
# The steps of a scan

In any surroundings a step of a scan is one of a few (`Scan.Moves`): it goes on as it
would in surroundings that work (`Scan.Strides`), or does without what it cannot read,
or ends because it is stopped, because nobody is left to take heights, or because a
write failed.

A scan offers the heights that were left over, and then goes from its first position
to the highest head that the node will have told (`summit`), handing out the heights on
the way. What it has yet to do from a stage on, `Scan.toDo`, depends on that summit
alone, and not on the order in which heads are told: no poll changes it
(`Ascends.polled`), and every other step that succeeds does the first of it or nothing
(`Strides.ascends`).
-/

namespace ChainRelay

/-! ## Heads -/

namespace Scanner

variable (s : Scanner)

/-- How the tasks of a relay reach the node. -/
def network (o : Observer) (shared : Surroundings) : Network where
  pollHead := s.pollHead shared.isStopped
  observe := o.observe shared.isStopped

/-- What a node tells of the chain head by some replies. -/
def told (replies : List Http.Reply) : Outcome UInt64 :=
  ((s.pollHead false).run Http.scripted replies).1.2

variable {s}

/-- A poll of the chain head is counted, and what is wrong with it. -/
theorem mem_log_pollHead {isStopped : Bool} {replies : List Http.Reply} {m : Measurement}
    (h : m ∈ ((s.pollHead isStopped).run Http.scripted replies).1.1) :
    m = .headPolled ∨ ∃ trouble, m = .scanTrouble trouble := by
  rw [pollHead, Http.Exchange.run_bind'] at h
  split at h
  · rcases List.mem_cons.1 h with rfl | h
    · exact .inr ⟨_, rfl⟩
    · exact .inl (List.mem_singleton.1 h)
  · split at h
    · exact .inl (List.mem_singleton.1 h)
    · rcases List.mem_cons.1 h with rfl | h
      · exact .inr ⟨_, rfl⟩
      · exact .inl (List.mem_singleton.1 h)

/-- Whether the heads that are told can be stored can be checked. -/
theorem told_le_of_all {polls : List (List Http.Reply)}
    (h : polls.all fun replies => (s.told replies).toOption.all (· ≤ Store.maxHeight)) :
    ∀ replies ∈ polls, ∀ head, s.told replies = .ok head → head ≤ Store.maxHeight := by
  intro replies hmem head htold
  have hhead := List.all_eq_true.1 h replies hmem
  rw [htold] at hhead
  exact of_decide_eq_true hhead

end Scanner

section

variable {position head first top : UInt64} {heads : List (Outcome UInt64)}

/-- The greatest of a position and the heads that are told. -/
def summit (position : UInt64) : List (Outcome UInt64) → UInt64
  | [] => position
  | .ok head :: heads => summit (max position head) heads
  | .error _ :: heads => summit position heads

theorem summit_of_lt (h : position < head) :
    summit position (.ok head :: heads) = summit head heads := by
  rw [summit]
  exact congrArg (summit · heads) (if_pos (UInt64.le_of_lt h))

theorem summit_of_not_lt (h : ¬ position < head) :
    summit position (.ok head :: heads) = summit position heads := by
  rw [summit]
  refine congrArg (summit · heads) ?_
  show (if position ≤ head then head else position) = position
  split_ifs with hle
  · exact UInt64.le_antisymm (UInt64.not_lt.1 h) hle
  · rfl

/-- The summit is the position itself, or one of the heads. -/
theorem summit_eq_or_mem :
    summit position heads = position ∨ .ok (summit position heads) ∈ heads := by
  induction heads generalizing position with
  | nil => exact .inl rfl
  | cons answer heads ih =>
    match answer with
    | .error _ => exact ih.imp_right (List.mem_cons_of_mem _)
    | .ok head =>
      by_cases h : position < head
      · rw [summit_of_lt h]
        refine .inr (List.mem_cons.2 ?_)
        exact (@ih head).imp_left fun heq => congrArg Except.ok heq
      · rw [summit_of_not_lt h]
        exact ih.imp_right (List.mem_cons_of_mem _)

theorem le_summit : position ≤ summit position heads := by
  induction heads generalizing position with
  | nil => exact UInt64.le_refl _
  | cons answer heads ih =>
    match answer with
    | .error _ => exact ih
    | .ok head =>
      by_cases h : position < head
      · rw [summit_of_lt h]
        exact UInt64.le_trans (UInt64.le_of_lt h) ih
      · rw [summit_of_not_lt h]
        exact ih

namespace Scan

/-! ## What a scan does -/

/-- Behind an answer about the head, a scan rests or goes on to that head. -/
theorem polled_eq (position : UInt64) (answer : Outcome UInt64) :
    polled position answer = resting position ∨
      ∃ head, polled position answer = marking position head := by
  match answer with
  | .error _ => exact .inl rfl
  | .ok head =>
    rw [polled]
    split_ifs
    · exact .inr ⟨head, rfl⟩
    · exact .inl rfl

/-- A scan that approaches a head goes on to it, or has come to it and polls. -/
theorem approach_eq (position head : UInt64) :
    approach position head = marking position head ∨
      approach position head = polling position := by
  rw [approach]
  split_ifs
  · exact .inl rfl
  · exact .inr rfl

/-- What hands out the heights behind a position: each is marked, then offered. -/
def handOuts (position top : UInt64) : List Deed :=
  (heights position top).flatMap fun height => [.noted height .handedOut, .offered height]

theorem handOuts_of_lt (h : position < top) : handOuts position top =
    .noted (position + 1) .handedOut :: .offered (position + 1) :: handOuts (position + 1) top := by
  rw [handOuts, heights_eq_cons h]
  rfl

/-- What is offered by all that a scan does. -/
theorem offered_handOuts (again : List UInt64) (position top : UInt64) :
    (again.map Deed.offered ++ handOuts position top).filterMap Deed.offered? =
      again ++ heights position top := by
  rw [handOuts, List.filterMap_append, List.filterMap_map]
  congr 1
  · exact List.filterMap_some
  · induction heights position top with
    | nil => rfl
    | cons height heights ih => exact congrArg (height :: ·) ih

/-- What is marked as handed out by all that a scan does. -/
theorem handedOut_handOuts (again : List UInt64) (position top : UInt64) :
    (again.map Deed.offered ++ handOuts position top).filterMap Deed.handedOut? =
      heights position top := by
  have hagain : (again.map Deed.offered).filterMap Deed.handedOut? = [] := by
    rw [List.filterMap_map]
    exact List.filterMap_eq_nil_iff.2 fun _ _ => rfl
  rw [handOuts, List.filterMap_append, hagain, List.nil_append]
  induction heights position top with
  | nil => rfl
  | cons height heights ih => exact congrArg (height :: ·) ih

theorem handOuts_self (top : UInt64) : handOuts top top = [] := by
  rw [handOuts, heights_eq_nil (UInt64.le_refl _)]
  rfl

/-- What a scan has yet to do at a stage, if `again` are the heights left over. -/
def toDo (again : List UInt64) (first top : UInt64) : Scan → List Deed
  | starting | resuming _ => again.map .offered ++ handOuts first top
  | reoffering position height more => (height :: more).map .offered ++ handOuts position top
  | polling position | resting position | marking position _ => handOuts position top
  | offering position _ => .offered (position + 1) :: handOuts (position + 1) top
  | advancing position _ => handOuts (position + 1) top
  | ended _ => []

/-- Whether a scan has yet to read what the store holds. -/
def IsEarly : Scan → Prop
  | starting | resuming _ => True
  | _ => False

theorem toDo_reoffer (again left : List UInt64) :
    (reoffer position left).toDo again first top =
      left.map .offered ++ handOuts position top := by
  cases left <;> rfl

/-! ## Steps -/

/-- The steps of a scan in surroundings that work, polls apart. -/
inductive Strides (startHeight : UInt64) (s : Surroundings) : Scan → Stride Scan → Prop
  | start (position : UInt64) : s.store.position.getD startHeight = position →
      Strides startHeight s starting
        ⟨s.called .readPosition, [], [.position position], resuming position⟩
  | resume (position : UInt64) : Strides startHeight s (resuming position)
      ⟨s.called .readUnfinished, [], [], reoffer position s.store.unfinished⟩
  | reoffer (position height : UInt64) (more : List UInt64) : s.queue.length < s.capacity →
      Strides startHeight s (reoffering position height more)
        ⟨s.enqueue height, [.offered height], [.offeredAgain], reoffer position more⟩
  | rest (position : UInt64) : s.isRested → Strides startHeight s (resting position)
      ⟨{ s with isRested := false }, [], [], polling position⟩
  | mark (position head : UInt64) : Strides startHeight s (marking position head)
      ⟨s.note (position + 1) .handedOut, [.noted (position + 1) .handedOut], [],
        offering position head⟩
  | offer (position head : UInt64) : s.queue.length < s.capacity →
      Strides startHeight s (offering position head)
        ⟨s.enqueue (position + 1), [.offered (position + 1)], [], advancing position head⟩
  | advance (position head : UInt64) : Strides startHeight s (advancing position head)
      ⟨s.moveTo (position + 1), [], [.position (position + 1), .scanned],
        approach (position + 1) head⟩

/-- The writes of a scan for a height. -/
inductive Write
  /-- The height is marked as handed out. -/
  | status
  /-- The height becomes the position. -/
  | position
deriving DecidableEq, Repr

/-- The operation of the store by which a write is made. -/
def Write.act (height : UInt64) : Write → Act
  | .status => .setStatus height .handedOut
  | .position => .setPosition height

/-- The write that a scan is about to make, with its height. -/
def write? : Scan → Option (UInt64 × Write)
  | marking position _ => some (position + 1, .status)
  | advancing position _ => some (position + 1, .position)
  | _ => none

/-- The operation of the store that a scan is about to make. -/
def operation? : Scan → Option Act
  | starting => some .readPosition
  | resuming _ => some .readUnfinished
  | scan => scan.write?.map fun (height, write) => write.act height

/-- Whether a scan waits for something at a stage, and gives up if it is stopped. -/
def Waits : Scan → Prop
  | reoffering _ _ _ | polling _ | resting _ | offering _ _ => True
  | _ => False

/-- The steps of a scan in any surroundings. -/
inductive Moves (startHeight : UInt64) (s : Surroundings) : Scan → Stride Scan → Prop
  /-- It goes on as it would in surroundings that work. -/
  | goes {scan : Scan} {stride : Stride Scan} : Strides startHeight s scan stride →
      (∀ act, scan.operation? = some act → act.fault? s.fails = none) →
      Moves startHeight s scan stride
  /-- It cannot read its position. -/
  | unread (failure : Failure) (log : List Measurement) : s.fails .readPosition = some failure →
      Moves startHeight s starting ⟨s.called .readPosition, [], log, resuming startHeight⟩
  /-- It cannot read what was left over. -/
  | unresumed (position : UInt64) (failure : Failure) (log : List Measurement) :
      s.fails .readUnfinished = some failure → Moves startHeight s (resuming position)
        ⟨s.called .readUnfinished, [], log, polling position⟩
  /-- It gives up. -/
  | leaves {scan : Scan} : scan.Waits → s.isStopped ∨ s.isAbandoned →
      Moves startHeight s scan ⟨s, [], [], ended (.ok ())⟩
  /-- It breaks off because a write has failed. -/
  | breaks {scan : Scan} (height : UInt64) (write : Write) (failure : Failure)
      (log : List Measurement) : scan.write? = some (height, write) →
      (write.act height).fault? s.fails = some failure →
      Moves startHeight s scan ⟨s.called (write.act height), [], log, unkept height failure⟩

variable {startHeight : UInt64} {again : List UInt64} {s : Surroundings} {n : Network}
  {replies : List Http.Reply} {scan : Scan} {stride : Stride Scan}

/-- A scan that goes on, but not by a poll, takes one of these steps. -/
theorem moves_of_go? (hpoll : s.isStopped ∨ ∀ position, scan ≠ polling position)
    (hgo : s.go? n replies (turn startHeight) scan = some stride) :
    Moves startHeight s scan stride := by
  cases scan with
  | starting =>
    rw [Surroundings.go?_readPosition rfl] at hgo
    cases hfails : s.fails .readPosition with
    | some failure =>
      rw [hfails] at hgo
      exact Option.some.inj hgo ▸ .unread failure _ hfails
    | none =>
      rw [hfails] at hgo
      refine .goes ?_ fun _ hact => Option.some.inj hact ▸ hfails
      cases hp : s.store.position <;>
        exact Option.some.inj (hp ▸ hgo) ▸ .start _ (hp ▸ rfl)
  | resuming position =>
    rw [Surroundings.go?_readUnfinished rfl] at hgo
    cases hfails : s.fails .readUnfinished with
    | some failure =>
      rw [hfails] at hgo
      exact Option.some.inj hgo ▸ .unresumed position failure _ hfails
    | none =>
      rw [hfails] at hgo
      exact Option.some.inj hgo ▸
        .goes (.resume position) fun _ hact => Option.some.inj hact ▸ hfails
  | reoffering position height more =>
    rw [Surroundings.go?_offer rfl] at hgo
    split_ifs at hgo with hleave hroom
    · exact Option.some.inj hgo ▸ .leaves trivial (Bool.or_eq_true_iff.1 hleave)
    · exact Option.some.inj hgo ▸ .goes (.reoffer position height more hroom) nofun
  | polling position =>
    rw [Surroundings.go?_pollHead rfl] at hgo
    have hstopped := hpoll.resolve_right fun h => h position rfl
    rw [if_pos hstopped] at hgo
    exact Option.some.inj hgo ▸ .leaves trivial (.inl hstopped)
  | resting position =>
    rw [Surroundings.go?_rest rfl] at hgo
    split_ifs at hgo with hstopped hrested
    · exact Option.some.inj hgo ▸ .leaves trivial (.inl hstopped)
    · exact Option.some.inj hgo ▸ .goes (.rest position hrested) nofun
  | marking position head =>
    rw [Surroundings.go?_setStatus rfl] at hgo
    split at hgo
    · next hfault =>
      exact Option.some.inj hgo ▸
        .goes (.mark position head) fun _ hact => Option.some.inj hact ▸ hfault
    · next failure hfault =>
      exact Option.some.inj hgo ▸ .breaks (position + 1) .status failure _ rfl hfault
  | offering position head =>
    rw [Surroundings.go?_offer rfl] at hgo
    split_ifs at hgo with hleave hroom
    · exact Option.some.inj hgo ▸ .leaves trivial (Bool.or_eq_true_iff.1 hleave)
    · exact Option.some.inj hgo ▸ .goes (.offer position head hroom) nofun
  | advancing position head =>
    rw [Surroundings.go?_setPosition rfl] at hgo
    split at hgo
    · next hfault =>
      exact Option.some.inj hgo ▸
        .goes (.advance position head) fun _ hact => Option.some.inj hact ▸ hfault
    · next failure hfault =>
      exact Option.some.inj hgo ▸ .breaks (position + 1) .position failure _ rfl hfault
  | ended => exact absurd hgo nofun

/-! ## On the way to the top -/

/-- A scan is on its way from `first` to `top` at a stage where `heads` are still to be
    told. -/
def Ascends (first top : UInt64) (heads : List (Outcome UInt64)) : Scan → Prop
  | starting => summit first heads = top
  | resuming position | reoffering position _ _ => position = first ∧ summit position heads = top
  | polling position | resting position => first ≤ position ∧ summit position heads = top
  | marking position head | offering position head | advancing position head =>
    first ≤ position ∧ position < head ∧ summit head heads = top
  | ended _ => False

/-- A scan that is on its way to the next height has not come to the top. -/
theorem Ascends.lt_top (h : (marking position head).Ascends first top heads) : position < top :=
  UInt64.lt_of_lt_of_le h.2.1 (h.2.2 ▸ le_summit)

theorem Ascends.reoffer (h : summit first heads = top) (left : List UInt64) :
    (reoffer first left).Ascends first top heads := by
  cases left with
  | nil => exact ⟨UInt64.le_refl _, h⟩
  | cons => exact ⟨rfl, h⟩

/-- Behind a height that was handed out, there is the next one or the head. -/
theorem Ascends.approach (h : (advancing position head).Ascends first top heads)
    (again : List UInt64) : (approach (position + 1) head).Ascends first top heads ∧
      (approach (position + 1) head).toDo again first top = handOuts (position + 1) top := by
  obtain ⟨hfirst, hlt, hsummit⟩ := h
  have hfirst' := UInt64.le_trans hfirst (UInt64.le_of_lt (lt_succ hlt))
  rw [Scan.approach]
  split_ifs with hnext
  · exact ⟨⟨hfirst', hnext, hsummit⟩, rfl⟩
  · have heq : position + 1 = head := UInt64.le_antisymm (succ_le hlt) (UInt64.not_lt.1 hnext)
    exact ⟨⟨hfirst', heq ▸ hsummit⟩, rfl⟩

/-- What a poll tells moves a scan up, or not at all. -/
theorem Ascends.polled {answer : Outcome UInt64}
    (h : (polling position).Ascends first top (answer :: heads)) (again : List UInt64) :
    (polled position answer).Ascends first top heads ∧
      (polled position answer).toDo again first top = (polling position).toDo again first top := by
  obtain ⟨hfirst, hsummit⟩ := h
  match answer with
  | .error _ => exact ⟨⟨hfirst, hsummit⟩, rfl⟩
  | .ok head =>
    rw [Scan.polled]
    split_ifs with hlt
    · exact ⟨⟨hfirst, hlt, summit_of_lt hlt ▸ hsummit⟩, rfl⟩
    · exact ⟨⟨hfirst, summit_of_not_lt hlt ▸ hsummit⟩, rfl⟩

/-- A step that succeeds does the first of what the scan has yet to do, or nothing. -/
theorem Strides.ascends (h : Strides startHeight s scan stride)
    (hc : scan.Ascends first top heads)
    (hposition : scan = starting → s.store.position.getD startHeight = first)
    (hagain : ∀ position, scan = resuming position → s.store.unfinished = again) :
    stride.stage.Ascends first top heads ∧
      scan.toDo again first top = stride.deeds ++ stride.stage.toDo again first top := by
  cases h with
  | start position hp =>
    obtain rfl : position = first := hp.symm.trans (hposition rfl)
    exact ⟨⟨rfl, hc⟩, rfl⟩
  | resume position =>
    obtain ⟨rfl, hsummit⟩ := hc
    refine ⟨Ascends.reoffer hsummit _, ?_⟩
    rw [toDo_reoffer, hagain position rfl]
    rfl
  | reoffer position height more =>
    obtain ⟨rfl, hsummit⟩ := hc
    refine ⟨Ascends.reoffer hsummit _, ?_⟩
    rw [toDo_reoffer]
    rfl
  | rest position => exact ⟨hc, rfl⟩
  | mark position head =>
    exact ⟨hc, handOuts_of_lt hc.lt_top⟩
  | offer position head => exact ⟨hc, rfl⟩
  | advance position head =>
    obtain ⟨hascends, htoDo⟩ := Ascends.approach hc again
    exact ⟨hascends, htoDo.symm⟩

/-- A scan that finds room, and whose wait is over, goes on if it need not poll. -/
theorem Ascends.exists_go? (hc : scan.Ascends first top heads)
    (hroom : s.queue.length < s.capacity) (hrested : s.isRested)
    (hpoll : ∀ position, scan ≠ polling position) :
    ∃ stride, s.go? n replies (turn startHeight) scan = some stride := by
  cases scan with
  | starting => exact ⟨_, Surroundings.go?_readPosition rfl⟩
  | resuming position => exact ⟨_, Surroundings.go?_readUnfinished rfl⟩
  | reoffering position height more =>
    rw [Surroundings.go?_offer rfl, if_pos hroom]
    split_ifs <;> exact ⟨_, rfl⟩
  | polling position => exact absurd rfl (hpoll position)
  | resting position =>
    rw [Surroundings.go?_rest rfl, if_pos hrested]
    split_ifs <;> exact ⟨_, rfl⟩
  | marking position head =>
    rw [Surroundings.go?_setStatus rfl]
    split <;> exact ⟨_, rfl⟩
  | offering position head =>
    rw [Surroundings.go?_offer rfl, if_pos hroom]
    split_ifs <;> exact ⟨_, rfl⟩
  | advancing position head =>
    rw [Surroundings.go?_setPosition rfl]
    split <;> exact ⟨_, rfl⟩
  | ended => exact hc.elim

/-- How many steps a scan takes from a stage before it does something or polls. -/
def rank : Scan → Nat
  | starting => 2
  | resuming _ | resting _ | advancing _ _ => 1
  | _ => 0

theorem rank_reoffer (left : List UInt64) : (Scan.reoffer position left).rank = 0 := by
  cases left <;> rfl

theorem rank_approach : (Scan.approach position head).rank = 0 := by
  rcases approach_eq position head with h | h <;> rw [h] <;> rfl

theorem rank_polled_le (answer : Outcome UInt64) : (Scan.polled position answer).rank ≤ 1 := by
  rcases polled_eq position answer with h | ⟨head, h⟩
  · exact h ▸ Nat.le_refl _
  · exact h ▸ Nat.zero_le _

/-- A step that does nothing brings a scan closer to one that does. -/
theorem Strides.rank_lt (h : Strides startHeight s scan stride) :
    stride.stage.rank < 2 * stride.deeds.length + scan.rank := by
  -- A step that does nothing ranks lower than it did, and one that does something may
  -- come to a stage that ranks higher, but by one at most.
  cases h with
  | resume => exact lt_of_eq_of_lt (rank_reoffer _) Nat.zero_lt_one
  | reoffer => exact lt_of_eq_of_lt (rank_reoffer _) Nat.zero_lt_two
  | advance => exact lt_of_eq_of_lt rank_approach Nat.zero_lt_one
  | start | rest | mark | offer => simp [rank]

end Scan

end

/-! ## Positions and counts -/

namespace Scan

variable {startHeight first top p : UInt64} {heads : List (Outcome UInt64)}
  {s : Surroundings} {scan : Scan} {stride : Stride Scan}

/-- The position of a scan, which begins at `first`. -/
def position (first : UInt64) : Scan → UInt64
  | starting | ended _ => first
  | resuming position | reoffering position _ _ | polling position | resting position
  | marking position _ | offering position _ | advancing position _ => position

/-- The heights left over that are still to be offered, of all that there are. -/
def left (again : List UInt64) : Scan → List UInt64
  | starting | resuming _ => again
  | reoffering _ height more => height :: more
  | _ => []

theorem not_isEarly_reoffer (left : List UInt64) : ¬ (Scan.reoffer p left).IsEarly := by
  cases left <;> exact id

theorem not_isEarly_approach {head : UInt64} : ¬ (Scan.approach p head).IsEarly := by
  rcases approach_eq p head with h | h <;> rw [h] <;> exact id

theorem not_isEarly_polled {answer : Outcome UInt64} : ¬ (Scan.polled p answer).IsEarly := by
  rcases polled_eq p answer with h | ⟨head, h⟩ <;> rw [h] <;> exact id

theorem position_reoffer (left : List UInt64) :
    (Scan.reoffer p left).position first = p := by
  cases left <;> rfl

theorem left_reoffer (again left : List UInt64) :
    (Scan.reoffer p left).left again = left := by
  cases left <;> rfl

theorem position_approach (head : UInt64) :
    (Scan.approach p head).position first = p := by
  rcases approach_eq p head with h | h <;> rw [h] <;> rfl

theorem left_approach (again : List UInt64) (head : UInt64) :
    (Scan.approach p head).left again = [] := by
  rcases approach_eq p head with h | h <;> rw [h] <;> rfl

theorem position_polled (answer : Outcome UInt64) :
    (Scan.polled p answer).position first = p := by
  rcases polled_eq p answer with h | ⟨head, h⟩ <;> rw [h] <;> rfl

theorem left_polled (again : List UInt64) (answer : Outcome UInt64) :
    (Scan.polled p answer).left again = [] := by
  rcases polled_eq p answer with h | ⟨head, h⟩ <;> rw [h] <;> rfl

/-- Only what scans do is done by a step of a scan. -/
theorem Strides.isOfScan (h : Strides startHeight s scan stride) :
    ∀ deed ∈ stride.deeds, deed.isOfScan := by
  cases h <;> simp [Deed.isOfScan, Deed.offered?, Deed.handedOut?]

theorem Strides.capacity (h : Strides startHeight s scan stride) :
    stride.surroundings.capacity = s.capacity := by
  cases h <;> rfl

theorem Strides.fails_eq (h : Strides startHeight s scan stride) :
    stride.surroundings.fails = s.fails := by
  cases h <;> rfl

/-- A step of a scan puts into the queue what it offers. -/
theorem Strides.queue_eq (h : Strides startHeight s scan stride) :
    stride.surroundings.queue = s.queue ++ stride.deeds.filterMap Deed.offered? := by
  cases h with
  | start | resume | rest | mark | advance => exact (List.append_nil _).symm
  | reoffer | offer => rfl

theorem Strides.length_offered_le (h : Strides startHeight s scan stride) :
    (stride.deeds.filterMap Deed.offered?).length ≤ 1 := by
  cases h with
  | start | resume | rest | mark | advance => exact Nat.zero_le _
  | reoffer | offer => exact Nat.le_refl _

theorem Strides.blocks_eq (h : Strides startHeight s scan stride) :
    stride.surroundings.blocks = s.blocks := by
  cases h <;> rfl

theorem Strides.isDue_eq (h : Strides startHeight s scan stride) :
    stride.surroundings.isDue = s.isDue := by
  cases h <;> rfl

/-- A step of a scan leaves the status of every height alone, or marks the next one. -/
theorem Strides.status?_cases (h : Strides startHeight s scan stride) :
    stride.surroundings.store.status? = s.store.status? ∨
      ∃ p head, scan = marking p head ∧ stride.surroundings = s.note (p + 1) .handedOut := by
  cases h with
  | mark p head => exact .inr ⟨p, head, rfl, rfl⟩
  | start | resume | reoffer | rest | offer | advance => exact .inl rfl

theorem Strides.log_eq (h : Strides startHeight s scan stride) :
    stride.surroundings.log = s.log := by
  cases h <;> rfl

/-- A scan that has yet to read what the store holds has changed nothing of it. -/
theorem Strides.early (h : Strides startHeight s scan stride) (hearly : stride.stage.IsEarly) :
    scan.IsEarly ∧ stride.surroundings.store = s.store ∧ stride.deeds = [] := by
  cases h with
  | start => exact ⟨trivial, rfl, rfl⟩
  | resume | reoffer => exact (not_isEarly_reoffer _ hearly).elim
  | advance => exact (not_isEarly_approach hearly).elim
  | rest | mark | offer => exact hearly.elim

/-- The position that is remembered is that of the scan, once that has moved. -/
theorem Strides.position_of_ascends (h : Strides startHeight s scan stride)
    (hc : scan.Ascends first top heads)
    (hposition : scan = starting → s.store.position.getD startHeight = first)
    {before : Option UInt64} (hp : s.store.position =
      if scan.position first = first then before else some (scan.position first)) :
    stride.surroundings.store.position = if stride.stage.position first = first then before
      else some (stride.stage.position first) := by
  cases h with
  | start p hfirst =>
    obtain rfl : p = first := hfirst.symm.trans (hposition rfl)
    exact hp
  | resume | reoffer => rw [position_reoffer]; exact hp
  | rest | mark | offer => exact hp
  | advance p head =>
    have hlt := UInt64.lt_of_le_of_lt hc.1 (lt_succ hc.2.1)
    rw [position_approach, if_neg (UInt64.ne_of_lt hlt).symm]
    rfl

/-- Each height left over that is offered is counted. -/
theorem Strides.offeredAgain (h : Strides startHeight s scan stride) {again : List UInt64}
    (hs : scan.IsEarly → s.store.unfinished = again) :
    stride.log.count .offeredAgain + (stride.stage.left again).length =
      (scan.left again).length := by
  cases h with
  | start => simp [left]
  | resume => rw [left_reoffer, hs trivial]; simp [left]
  | reoffer => rw [left_reoffer]; simp [left, Nat.add_comm]
  | rest | mark | offer => simp [left]
  | advance => rw [left_approach]; simp [left]

/-- No step of a scan stops it or makes the consumer go away. -/
theorem Moves.isStopped_eq (h : Moves startHeight s scan stride) :
    stride.surroundings.isStopped = s.isStopped ∧
      stride.surroundings.isAbandoned = s.isAbandoned ∧
      stride.surroundings.capacity = s.capacity := by
  cases h with
  | goes hstride => cases hstride <;> exact ⟨rfl, rfl, rfl⟩
  | unread | unresumed | leaves | breaks => exact ⟨rfl, rfl, rfl⟩

end Scan

end ChainRelay
