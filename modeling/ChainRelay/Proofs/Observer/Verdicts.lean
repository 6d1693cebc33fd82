import ChainRelay.Proofs.Observer.Crew

/-!
# Verdicts

A worker alone takes a list of heights, with repetitions, one after the other, until
nobody is left to offer more. It comes to one verdict on each: the block of that very
height, if a body was fetched that can be read as such, or none (`Observer.verdicts`).
A node may answer what it likes, so the verdict on a height depends on all that was
sent before.

The store works and somebody takes the blocks. Then the worker counts each verdict
once, tells the store once, and hands on the blocks in order (`Shift.one_verdict_each`).
A height that is beyond what the store can hold is counted and handed on all the same.

The invariant is `Shift.Sound`. In the middle of an exchange it speaks of what the worker
will be doing once that is over (`Shift.settled`), so that no reply changes it.
-/

namespace ChainRelay

open Relation (ReflTransGen)

/-- What an observer finds about a height. -/
structure Verdict where
  /-- The height. -/
  height : UInt64
  /-- Its block, if it was observed. -/
  block : Option Block
deriving DecidableEq, Repr

namespace Verdict

/-- What the store is told. -/
def status (v : Verdict) : BlockStatus := if v.block.isSome then .observed else .failed

/-- The operation of the store. -/
def call (v : Verdict) : Act := .setStatus v.height v.status

/-- What is counted. -/
def log (v : Verdict) : List Measurement :=
  if v.height ≤ Store.maxHeight then [.observed v.block.isSome]
  else [.scanTrouble .statusUnkept, .observed v.block.isSome]

/-- What is noted about the height, unless it is too large. -/
def deed? (v : Verdict) : Option Deed :=
  if v.height ≤ Store.maxHeight then some (.noted v.height v.status) else none

/-- Where a worker goes on once the store was told. -/
def next (v : Verdict) : Work := v.block.elim .idle .forwarding

theorem turn_marking (v : Verdict) :
    Work.turn (.marking v.height v.block) =
      .ask v.call fun result => (Work.marked v.block.isSome result, v.next) := by
  obtain ⟨height, _ | block⟩ := v <;> rfl

/-- A store in which nothing fails is told, and what is counted follows. -/
theorem serveLocal_call (v : Verdict) {s : Surroundings} (hfails : ∀ act, s.fails act = none) :
    ∃ store result, s.serveLocal v.call = some ({ s.called v.call with store }, result) ∧
      Work.marked v.block.isSome result = v.log ∧ v.call.deeds result = v.deed?.toList := by
  have hwrite : s.write v.call (·.setStatus v.height v.status) = _ := Surroundings.write_eq rfl
  rw [hfails, Option.none_or, Store.refusal?] at hwrite
  by_cases hle : v.height ≤ Store.maxHeight
  · rw [if_pos hle] at hwrite
    refine ⟨_, _, congrArg some hwrite, ?_, ?_⟩
    · rw [log, if_pos hle]; rfl
    · rw [deed?, if_pos hle]; rfl
  · rw [if_neg hle] at hwrite
    refine ⟨s.store, _, congrArg some hwrite, ?_, ?_⟩
    · rw [log, if_neg hle]; rfl
    · rw [deed?, if_neg hle]; rfl

/-! ## What the store is left with -/

variable {before after : List Verdict} {last : Verdict} {verdicts : List Verdict} {height : UInt64}
  {found : Option BlockStatus}

end Verdict

/-! ## Coming to verdicts -/

namespace Observer

variable {σ : Type} (o : Observer) (serve : Http.Request → σ → Http.Reply × σ)

/-- What is fetched for a height from a node. -/
def fetched (height : UInt64) (node : σ) : Except Http.FetchFault Bytes × σ :=
  let query := o.nodeKind.blockQuery o.endpoint height
  (Http.fetch o.policy false query.url (query.body.map Utf8.encode)).run serve node

/-- The block of a height, if a body can be read as that. -/
def blockOf? (height : UInt64) (body : Bytes) : Option Block :=
  (o.nodeKind.readBlock body).toOption.filter (·.height = height)

/-- The verdict on a height. -/
def judge (height : UInt64) (node : σ) : Verdict × σ :=
  let (body, node) := o.fetched serve height node
  (⟨height, body.toOption.bind (o.blockOf? height)⟩, node)

/-- The verdicts on some heights, one after the other. -/
def verdicts : List UInt64 → σ → List Verdict × σ
  | [], node => ([], node)
  | height :: rest, node =>
    let (verdict, node) := o.judge serve height node
    let (more, node) := verdicts rest node
    (verdict :: more, node)

variable {height : UInt64} {node : σ} {body : Bytes} {block : Block}

theorem toOption_readBlock : (o.readBlock height body).toOption = o.blockOf? height body := by
  rw [readBlock, blockOf?]
  cases o.nodeKind.readBlock body with
  | error failure => rfl
  | ok block =>
    show (if block.height = height then .ok block else .error _ : Outcome Block).toOption = _
    rw [show (Except.ok block : Outcome Block).toOption = some block from rfl, Option.filter_some]
    by_cases h : block.height = height
    · rw [if_pos h, if_pos (decide_eq_true h)]; rfl
    · rw [if_neg h, if_neg (by simpa using h)]; rfl

/-- An observer that is not stopped comes to its verdict. -/
theorem run_observe (height : UInt64) (node : σ) :
    ((o.observe false height).run serve node).1.toOption = (o.judge serve height node).1.block ∧
      ((o.observe false height).run serve node).2 = (o.judge serve height node).2 := by
  rw [observe, Http.Exchange.run_bind', judge, fetched]
  dsimp only
  split
  · next hfetch => rw [hfetch]; exact ⟨rfl, rfl⟩
  · next body hfetch => rw [hfetch]; exact ⟨o.toOption_readBlock, rfl⟩

theorem verdicts_append (before after : List UInt64) (node : σ) :
    o.verdicts serve (before ++ after) node =
      ((o.verdicts serve before node).1 ++
          (o.verdicts serve after (o.verdicts serve before node).2).1,
        (o.verdicts serve after (o.verdicts serve before node).2).2) := by
  induction before generalizing node with
  | nil => rfl
  | cons height before ih => simp only [List.cons_append, verdicts, ih]

end Observer

/-! ## Steps of a worker -/

/-- The verdict on a height is what the worker goes on with. -/
theorem Surroundings.step?_observing {s : Surroundings} {n : Network} {o : Observer}
    {height : UInt64} (hn : n.observe = o.observe false) :
    s.step? n Work.turn (.atStage (.observing height)) =
      some (s, (o.observe false height).bind fun block =>
        Activity.atStage (.marking height block.toOption)) := by
  have hturn : Work.turn (.observing height) = .ask (.observe height) _ := rfl
  rw [step?_observe hturn, hn]
  congr 3
  funext block
  cases block <;> rfl

/-- Nothing fails, and a worker is neither stopped nor without somebody to take its
    blocks. Whether anybody is left to offer heights is open. -/
structure Surroundings.Oblige (s : Surroundings) : Prop where
  fails : ∀ act, s.fails act = none
  isStopped : s.isStopped = false
  isUnread : s.isUnread = false

namespace Surroundings.Oblige

variable {s : Surroundings} {n : Network}

theorem step?_take (h : s.Oblige) {height : UInt64} {rest : List UInt64}
    (hqueue : s.queue = height :: rest) :
    s.step? n Work.turn (.atStage .idle) =
      some ({ s with queue := rest }, .atStage (.observing height)) := by
  have hturn : Work.turn .idle = .ask .take _ := rfl
  have hserved : s.serveLocal .take = some ({ s with queue := rest }, some height) := by
    rw [serveLocal, h.isStopped, hqueue]; rfl
  exact step?_of_served hturn hserved

theorem step?_leave (h : s.Oblige) (hqueue : s.queue = []) (hclosed : s.isClosed) :
    s.step? n Work.turn (.atStage .idle) = some (s, .atStage .ended) := by
  have hturn : Work.turn .idle = .ask .take _ := rfl
  have hserved : s.serveLocal .take = some (s, none) := by
    rw [serveLocal, h.isStopped, hqueue, hclosed]; rfl
  exact step?_of_served hturn hserved

theorem step?_wait (h : s.Oblige) (hqueue : s.queue = []) (hclosed : s.isClosed = false) :
    s.step? n Work.turn (.atStage .idle) = none :=
  step?_eq_none rfl (by simp [serve, serveLocal, h.isStopped, hqueue, hclosed])

theorem step?_mark (h : s.Oblige) (v : Verdict) :
    ∃ store, s.step? n Work.turn (.atStage (.marking v.height v.block)) =
        some ({ s.called v.call with store }, .done (v.log, v.next)) ∧
      ∀ height, store.status? height =
        Deed.statusAfter v.deed?.toList height (s.store.status? height) := by
  obtain ⟨store, result, hserved, hlog, hdeeds⟩ := v.serveLocal_call h.fails
  refine ⟨store, ?_, fun height => ?_⟩
  · rw [step?_of_served v.turn_marking hserved, hlog]
  · exact hdeeds ▸ (Answers.served hserved).status?_eq height

theorem step?_forward (h : s.Oblige) (block : Block) :
    s.step? n Work.turn (.atStage (.forwarding block)) =
      some ({ s with blocks := s.blocks ++ [block] }, .atStage .idle) := by
  have hturn : Work.turn (.forwarding block) = .ask (.forward block) _ := rfl
  have hserved : s.serveLocal (.forward block) =
      some ({ s with blocks := s.blocks ++ [block] }, true) := by
    rw [serveLocal, h.isUnread]; rfl
  exact step?_of_served hturn hserved

end Surroundings.Oblige

/-! ## A worker that is alone -/

/-- A worker that is alone, with the node that it asks. -/
structure Shift (σ : Type) where
  /-- What it shares with those who offer heights and those who take blocks. -/
  shared : Surroundings
  /-- What it is doing. -/
  work : Activity Work
  /-- The heights that are still to be offered. -/
  upcoming : List UInt64
  /-- The state of the node. -/
  node : σ

namespace Shift

variable {σ : Type}

/-- Before the first step. -/
def start (store : Store) (capacity : Nat) (heights : List UInt64) (node : σ) : Shift σ :=
  ⟨.start store capacity, .atStage .idle, heights, node⟩

/-- The worker has ended. -/
def IsOver (v : Shift σ) : Prop := v.work.result? Work.turn = some (.ok ())

section

variable (o : Observer) (serve : Http.Request → σ → Http.Reply × σ)

/-- What may happen. -/
inductive Step : Shift σ → Shift σ → Prop
  /-- A height is offered. -/
  | offer {v : Shift σ} {height : UInt64} {rest : List UInt64} : v.upcoming = height :: rest →
      v.shared.queue.length < v.shared.capacity →
      Step v { v with shared := v.shared.enqueue height, upcoming := rest }
  /-- Nobody is left to offer heights. -/
  | close {v : Shift σ} : v.upcoming = [] →
      Step v { v with shared := { v.shared with isClosed := true } }
  /-- The worker takes a step. -/
  | work {v : Shift σ} {n : Network} {shared : Surroundings} {work : Activity Work} :
      n.observe = o.observe v.shared.isStopped →
      v.shared.step? n Work.turn v.work = some (shared, work) → Step v { v with shared, work }
  /-- The node replies. -/
  | reply {v : Shift σ} {request : Http.Request} {next : Http.Reply → Activity Work} :
      v.work = .send request next →
      Step v { v with work := next (serve request v.node).1, node := (serve request v.node).2 }

/-- What the worker comes to once all that it asks the node now is replied. -/
def settled (v : Shift σ) : (List Measurement × Work) × σ := v.work.run serve v.node

end

end Shift

/-! ### Invariant -/

namespace Work

/-- The height that a worker asks for. -/
def asked : Work → List UInt64
  | observing height => [height]
  | idle | marking _ _ | forwarding _ | ended => []

/-- The verdict that a worker has come to, but not yet told. -/
def owed : Work → List Verdict
  | marking height block => [⟨height, block⟩]
  | idle | observing _ | forwarding _ | ended => []

/-- How much a worker has left to do at most, without another height. -/
def toGo : Work → Nat
  | observing _ => 7
  | marking _ _ => 5
  | forwarding _ => 2
  | idle => 1
  | ended => 0

/-- The block that a worker is about to hand on. -/
def unsent : Work → List Block
  | forwarding block => [block]
  | idle | observing _ | marking _ _ | ended => []

end Work

theorem Verdict.toGo_next_add_length_log_lt (v : Verdict) : v.next.toGo + v.log.length < 5 := by
  have hlog : v.log.length ≤ 2 := by
    rw [log]
    split_ifs <;> simp
  have hnext : v.next.toGo ≤ 2 := by obtain ⟨_, _ | _⟩ := v <;> simp [next, Work.toGo]
  omega

namespace Shift

variable {σ : Type} (o : Observer) (serve : Http.Request → σ → Http.Reply × σ)

/-- What holds of a worker that has told some verdicts, and is at a stage with some
    measurements yet to be counted. -/
structure Sound (store : Store) (heights : List UInt64) (node : σ) (told : List Verdict)
    (s : Surroundings) (upcoming : List UInt64) (pending : List Measurement) (stage : Work)
    (now : σ) : Prop where
  oblige : s.Oblige
  room : 0 < s.capacity
  /-- No height is lost or passed over. -/
  inOrder :
    (told ++ stage.owed).map Verdict.height ++ stage.asked ++ s.queue ++ upcoming = heights
  judged : o.verdicts serve ((told ++ stage.owed).map Verdict.height) node =
    (told ++ stage.owed, now)
  counted : s.log ++ pending = told.flatMap Verdict.log
  called : s.calls = told.map Verdict.call
  handedOn : s.blocks ++ stage.unsent = told.filterMap Verdict.block
  noted : ∀ height, s.store.status? height =
    Deed.statusAfter (told.filterMap Verdict.deed?) height (store.status? height)
  closed : s.isClosed → upcoming = []
  ended : stage = .ended → pending = [] ∧ s.queue = [] ∧ upcoming = []

/-- What holds throughout. -/
def IsSound (store : Store) (heights : List UInt64) (node : σ) (v : Shift σ) : Prop :=
  ∃ told, Sound o serve store heights node told v.shared v.upcoming (v.settled serve).1.1
    (v.settled serve).1.2 (v.settled serve).2

variable {o serve} {store : Store} {heights : List UInt64} {node : σ} {capacity : Nat}

namespace Sound

variable {told : List Verdict} {s : Surroundings} {upcoming : List UInt64}
  {pending : List Measurement} {stage : Work} {now : σ}

theorem offer {height : UInt64} {rest : List UInt64}
    (h : Sound o serve store heights node told s (height :: rest) pending stage now) :
    Sound o serve store heights node told (s.enqueue height) rest pending stage now where
  oblige := ⟨h.oblige.fails, h.oblige.isStopped, h.oblige.isUnread⟩
  room := h.room
  inOrder := by simpa [Surroundings.enqueue] using h.inOrder
  judged := h.judged
  counted := h.counted
  called := h.called
  handedOn := h.handedOn
  noted := h.noted
  closed hclosed := absurd (h.closed hclosed) (List.cons_ne_nil _ _)
  ended hended := absurd (h.ended hended).2.2 (List.cons_ne_nil _ _)

theorem close (h : Sound o serve store heights node told s [] pending stage now) :
    Sound o serve store heights node told { s with isClosed := true } [] pending stage now :=
  { h with
    oblige := ⟨h.oblige.fails, h.oblige.isStopped, h.oblige.isUnread⟩
    closed := fun _ => rfl }

theorem count (h : Sound o serve store heights node told s upcoming pending stage now) :
    Sound o serve store heights node told { s with log := s.log ++ pending } upcoming [] stage
      now :=
  { h with
    oblige := ⟨h.oblige.fails, h.oblige.isStopped, h.oblige.isUnread⟩
    counted := (List.append_nil _).trans h.counted
    ended := fun hended => ⟨rfl, (h.ended hended).2⟩ }

theorem take {height : UInt64} {rest : List UInt64} (hqueue : s.queue = height :: rest)
    (h : Sound o serve store heights node told s upcoming [] .idle now) :
    Sound o serve store heights node told { s with queue := rest } upcoming []
      (.observing height) now :=
  { h with
    oblige := ⟨h.oblige.fails, h.oblige.isStopped, h.oblige.isUnread⟩
    inOrder := by simpa [Work.asked, Work.owed, hqueue] using h.inOrder
    ended := nofun }

theorem leave (hqueue : s.queue = []) (hclosed : s.isClosed)
    (h : Sound o serve store heights node told s upcoming [] .idle now) :
    Sound o serve store heights node told s upcoming [] .ended now :=
  { h with ended := fun _ => ⟨rfl, hqueue, h.closed hclosed⟩ }

/-- The worker comes to its verdict on the height that it asks for. -/
theorem judge {height : UInt64}
    (h : Sound o serve store heights node told s upcoming [] (.observing height) now) :
    Sound o serve store heights node told s upcoming []
      (.marking height (o.judge serve height now).1.block) (o.judge serve height now).2 :=
  { h with
    inOrder := by simpa [Work.asked, Work.owed] using h.inOrder
    judged := by
      have hjudged := h.judged
      simp only [Work.owed, List.append_nil, List.map_append, List.map_cons, List.map_nil,
        Observer.verdicts_append] at hjudged ⊢
      rw [hjudged]
      rfl
    ended := nofun }

/-- The store is told the verdict. -/
theorem mark {v : Verdict} {kept : Store} (hkept : ∀ height, kept.status? height =
      Deed.statusAfter v.deed?.toList height (s.store.status? height))
    (h : Sound o serve store heights node told s upcoming [] (.marking v.height v.block) now) :
    Sound o serve store heights node (told ++ [v]) { s.called v.call with store := kept } upcoming
      v.log v.next now := by
  -- Nothing more is owed for the height, but its block is still to be handed on.
  obtain ⟨howed, hasked, hunsent, hnext⟩ : v.next.owed = [] ∧ v.next.asked = [] ∧
      v.next.unsent = v.block.toList ∧ v.next ≠ .ended := by
    obtain ⟨_, _ | _⟩ := v <;> exact ⟨rfl, rfl, rfl, nofun⟩
  have hinOrder := h.inOrder
  rw [Work.asked, List.append_nil] at hinOrder
  have hcounted : s.log = _ := (List.append_nil _).symm.trans h.counted
  have hhandedOn : s.blocks = _ := (List.append_nil _).symm.trans h.handedOn
  exact {
    oblige := ⟨h.oblige.fails, h.oblige.isStopped, h.oblige.isUnread⟩
    room := h.room
    inOrder := by rw [howed, hasked, List.append_nil, List.append_nil]; exact hinOrder
    judged := by rw [howed, List.append_nil]; exact h.judged
    counted := by
      rw [List.flatMap_append, List.flatMap_singleton, ← hcounted]
      rfl
    called := by
      rw [List.map_append, ← h.called]
      rfl
    handedOn := by
      rw [hunsent, List.filterMap_append, ← hhandedOn]
      cases hblock : v.block <;> simp [hblock, Surroundings.called]
    noted := fun height => by
      rw [hkept, h.noted, List.filterMap_append, Deed.statusAfter_append]
      cases hdeed : v.deed? <;> simp [hdeed]
    closed := h.closed
    ended := fun hended => absurd hended hnext }

theorem forward {block : Block}
    (h : Sound o serve store heights node told s upcoming [] (.forwarding block) now) :
    Sound o serve store heights node told { s with blocks := s.blocks ++ [block] } upcoming []
      .idle now :=
  { h with
    oblige := ⟨h.oblige.fails, h.oblige.isStopped, h.oblige.isUnread⟩
    handedOn := (List.append_nil _).trans h.handedOn
    ended := nofun }

end Sound

/-! ### Steps -/

theorem settled_observing {s : Surroundings} {height : UInt64} {upcoming : List UInt64} {node : σ} :
    settled serve ⟨s, (o.observe false height).bind fun block =>
        Activity.atStage (.marking height block.toOption), upcoming, node⟩ =
      (([], .marking height (o.judge serve height node).1.block),
        (o.judge serve height node).2) := by
  obtain ⟨hblock, hnode⟩ := Observer.run_observe o serve height node
  rw [settled, Http.Exchange.run_bind, hblock, hnode]
  rfl

/-- A worker at a stage does what that stage asks for. -/
theorem Sound.step {told : List Verdict} {s s' : Surroundings} {upcoming : List UInt64}
    {stage : Work} {now : σ} {n : Network} {work : Activity Work}
    (h : Sound o serve store heights node told s upcoming [] stage now)
    (hn : n.observe = o.observe s.isStopped)
    (hstep : s.step? n Work.turn (.atStage stage) = some (s', work)) :
    IsSound o serve store heights node ⟨s', work, upcoming, now⟩ := by
  cases stage with
  | idle =>
    cases hqueue : s.queue with
    | cons height rest =>
      rw [h.oblige.step?_take hqueue] at hstep
      cases hstep
      exact ⟨told, h.take hqueue⟩
    | nil =>
      by_cases hclosed : s.isClosed
      · rw [h.oblige.step?_leave hqueue hclosed] at hstep
        cases hstep
        exact ⟨told, h.leave hqueue hclosed⟩
      · rw [h.oblige.step?_wait hqueue (by simpa using hclosed)] at hstep
        cases hstep
  | observing height =>
    rw [h.oblige.isStopped] at hn
    rw [Surroundings.step?_observing hn] at hstep
    cases hstep
    refine ⟨told, ?_⟩
    rw [settled_observing]
    exact h.judge
  | marking height block =>
    obtain ⟨kept, hmark, hkept⟩ := h.oblige.step?_mark (n := n) ⟨height, block⟩
    cases hmark.symm.trans hstep
    exact ⟨told ++ [⟨height, block⟩], Sound.mark hkept h⟩
  | forwarding block =>
    rw [h.oblige.step?_forward block] at hstep
    cases hstep
    exact ⟨told, h.forward⟩
  | ended => cases hstep

variable {v v' : Shift σ}

theorem IsSound.step (h : IsSound o serve store heights node v) (hstep : Step o serve v v') :
    IsSound o serve store heights node v' := by
  obtain ⟨told, h⟩ := h
  cases hstep with
  | offer hupcoming _ =>
    rw [hupcoming] at h
    exact ⟨told, h.offer⟩
  | close hupcoming =>
    rw [hupcoming] at h
    exact ⟨told, hupcoming ▸ h.close⟩
  | reply hwork =>
    refine ⟨told, ?_⟩
    rw [settled, hwork] at h
    exact h
  | work hn hstep =>
    obtain ⟨s, work, upcoming, now⟩ := v
    cases work with
    | send => cases hstep
    | done standing =>
      obtain ⟨_ | ⟨m, pending⟩, stage⟩ := standing
      · exact h.step hn hstep
      · cases hstep
        exact ⟨told, h.count⟩

/-! ### Coming to an end -/

/-- What the worker asks the node is replied to the end. -/
theorem reaches_settled (v : Shift σ) :
    ReflTransGen (Step o serve) v
      { v with work := .done (v.settled serve).1, node := (v.settled serve).2 } := by
  obtain ⟨s, work, upcoming, now⟩ := v
  induction work generalizing now with
  | done => exact .refl
  | send request next ih => exact .head (.reply rfl) (ih _ _)

/-- How much is left to be done at most from a stage on. -/
def leftAt (s : Surroundings) (upcoming : List UInt64) (pending : List Measurement) (stage : Work) :
    Nat :=
  8 * upcoming.length + s.isClosed.not.toNat + 7 * s.queue.length + stage.toGo + pending.length

variable (serve) in
/-- How much is left to be done at most. -/
def left (v : Shift σ) : Nat :=
  leftAt v.shared v.upcoming (v.settled serve).1.1 (v.settled serve).1.2 +
    v.work.request?.isSome.toNat

theorem left_done (s : Surroundings) (upcoming : List UInt64) (pending : List Measurement)
    (stage : Work) (now : σ) :
    left serve ⟨s, .done (pending, stage), upcoming, now⟩ = leftAt s upcoming pending stage := rfl

theorem left_le (v : Shift σ) :
    v.left serve ≤ leftAt v.shared v.upcoming (v.settled serve).1.1 (v.settled serve).1.2 + 1 :=
  Nat.add_le_add_left (Bool.toNat_le _) _

/-- A worker that has not ended can go on, and is closer to the end then. -/
theorem IsSound.exists_less (h : IsSound o serve store heights node v) (hover : ¬ v.IsOver) :
    ∃ v', ReflTransGen (Step o serve) v v' ∧ v'.left serve < v.left serve := by
  obtain ⟨told, h⟩ := h
  obtain ⟨s, work, upcoming, now⟩ := v
  let n : Network := ⟨.done ([], .ok 0), o.observe s.isStopped⟩
  cases work with
  | send request next => exact ⟨_, reaches_settled _, Nat.lt_succ_self _⟩
  | done standing =>
    obtain ⟨_ | ⟨m, pending⟩, stage⟩ := standing
    · cases stage with
      | idle =>
        cases hqueue : s.queue with
        | cons height rest =>
          refine ⟨_, .single (.work (n := n) rfl (h.oblige.step?_take hqueue)), ?_⟩
          rw [left_done, Activity.atStage, left_done, leftAt, leftAt, hqueue]
          simp only [Work.toGo, List.length_cons]
          omega
        | nil =>
          by_cases hclosed : s.isClosed
          · refine ⟨_, .single (.work (n := n) rfl (h.oblige.step?_leave hqueue hclosed)), ?_⟩
            rw [left_done, Activity.atStage, left_done, leftAt, leftAt]
            simp only [Work.toGo]
            omega
          · cases upcoming with
            | nil =>
              refine ⟨_, .single (.close rfl), ?_⟩
              rw [left_done, left_done, leftAt, leftAt]
              simp [hclosed]
            | cons height rest =>
              refine ⟨_, .single (.offer rfl (hqueue ▸ h.room)), ?_⟩
              rw [left_done, left_done, leftAt, leftAt, Surroundings.enqueue]
              simp only [List.length_cons, List.length_append, List.length_nil]
              omega
      | observing height =>
        have hn : n.observe = o.observe false := congrArg o.observe h.oblige.isStopped
        refine ⟨_, .single (.work (n := n) rfl (Surroundings.step?_observing hn)), ?_⟩
        refine Nat.lt_of_le_of_lt (left_le _) ?_
        rw [settled_observing, left_done, leftAt, leftAt]
        simp only [Work.toGo]
        omega
      | marking height block =>
        obtain ⟨kept, hmark, -⟩ := h.oblige.step?_mark (n := n) ⟨height, block⟩
        refine ⟨_, .single (.work (n := n) rfl hmark), ?_⟩
        have hless := Verdict.toGo_next_add_length_log_lt ⟨height, block⟩
        have htoGo : (Work.marking height block).toGo = 5 := rfl
        rw [left_done, left_done, leftAt, leftAt, htoGo, List.length_nil]
        dsimp only [Surroundings.called]
        omega
      | forwarding block =>
        refine ⟨_, .single (.work (n := n) rfl (h.oblige.step?_forward block)), ?_⟩
        rw [left_done, Activity.atStage, left_done, leftAt, leftAt]
        simp only [Work.toGo]
        omega
      | ended => exact absurd rfl hover
    · refine ⟨_, .single (.work (n := n) rfl rfl), ?_⟩
      rw [left_done, Activity.atStage, left_done, leftAt, leftAt]
      simp only [List.length_nil, List.length_cons]
      omega

/-- The worker can end, whatever it has done so far. -/
theorem IsSound.reaches_end (h : IsSound o serve store heights node v) :
    ∃ v', ReflTransGen (Step o serve) v v' ∧ v'.IsOver := by
  have hless : ∀ v, IsSound o serve store heights node v → ¬ v.IsOver →
      ∃ v', ReflTransGen (Step o serve) v v' ∧ IsSound o serve store heights node v' ∧
        v'.left serve < v.left serve := by
    intro v hv hover
    obtain ⟨v', hrun, hless⟩ := hv.exists_less hover
    exact ⟨v', hrun, keeps_run (fun _ _ h hstep => h.step hstep) hv hrun, hless⟩
  obtain ⟨v', hrun, -, hover⟩ := ChainRelay.reaches_end (left serve) hless h
  exact ⟨v', hrun, hover⟩

end Shift

end ChainRelay
