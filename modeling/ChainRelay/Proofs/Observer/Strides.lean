import ChainRelay.Observer.Basic
import ChainRelay.Observer.Work
import ChainRelay.Proofs.Task.Working
import ChainRelay.Scanner.Reoffer

/-!
# How workers and the offering of failed heights go on

In surroundings that work, the steps of a worker (`Work.Strides`) and those of the
task that offers failed heights again (`Reoffer.Strides`) are few. A worker has at
most one height in hand at a time (`Work.hand`), from taking it out of the queue to
noting that it failed or handing its block on, and that block is the one of the
height (`Observer.height_of_observe`).
-/

namespace ChainRelay

/-- A block that was observed is the one that was asked for. -/
theorem Observer.height_of_observe {o : Observer} {isStopped : Bool} {height : UInt64}
    {replies : List Http.Reply} {block : Block}
    (h : ((o.observe isStopped height).run Http.scripted replies).1 = .ok block) :
    block.height = height := by
  rw [observe, Http.Exchange.run_bind'] at h
  split at h
  · exact absurd h nofun
  · next body _ =>
    change o.readBlock height body = .ok block at h
    rw [readBlock] at h
    cases hread : o.nodeKind.readBlock body with
    | error failure =>
      rw [hread] at h
      exact absurd h nofun
    | ok read =>
      rw [hread] at h
      -- A block of another height than asked for is turned down.
      change (if read.height = height then .ok read else .error _) = Except.ok block at h
      split_ifs at h with heq
      exact Except.ok.inj h ▸ heq

/-! ## Workers -/

namespace Work

/-- The height that a worker has in hand. -/
def hand : Work → List UInt64
  | observing height | marking height _ => [height]
  | forwarding block => [block.height]
  | idle | ended => []

/-- The height whose block a worker is about to hand on. -/
def forwarded? : Work → Option UInt64
  | forwarding block => some block.height
  | _ => none

theorem hand_of_forwarded? {work : Work} {height : UInt64} (h : work.forwarded? = some height) :
    work.hand = [height] := by
  cases work with
  | forwarding block => exact congrArg (fun height => [height]) (Option.some.inj h)
  | idle | observing | marking | ended => exact absurd h nofun

/-- A worker has not ended, and no other block than that of its height. -/
def Coherent : Work → Prop
  | marking height (some block) => block.height = height
  | ended => False
  | _ => True

/-- The steps of a worker in surroundings that work. -/
inductive Strides (s : Surroundings) : Work → Stride Work → Prop
  | take (height : UInt64) (rest : List UInt64) : s.queue = height :: rest →
      Strides s idle ⟨{ s with queue := rest }, [], [], observing height⟩
  | observed (block : Block) : Strides s (observing block.height)
      ⟨s, [], [], marking block.height (some block)⟩
  | unobserved (height : UInt64) : Strides s (observing height) ⟨s, [], [], marking height none⟩
  | mark (block : Block) : Strides s (marking block.height (some block))
      ⟨s.note block.height .observed, [.noted block.height .observed], [.observed true],
        forwarding block⟩
  | fail (height : UInt64) : Strides s (marking height none)
      ⟨s.note height .failed, [.noted height .failed], [.observed false], idle⟩
  | forward (block : Block) : Strides s (forwarding block)
      ⟨{ s with blocks := s.blocks ++ [block] }, [.forwarded block], [], idle⟩

variable {s : Surroundings} {work : Work} {n : Network} {replies : List Http.Reply}
  {stride : Stride Work}

/-- A worker only takes a step for a height that it has in hand or takes. -/
theorem Strides.busy (h : Strides s work stride) : work.hand ++ s.queue ≠ [] := by
  cases h with
  | take height rest hqueue =>
    rw [hqueue]
    exact List.cons_ne_nil _ _
  | observed | unobserved | mark | fail | forward => exact List.cons_ne_nil _ _

theorem Strides.works (h : Strides s work stride) (hw : s.Works) : stride.surroundings.Works := by
  cases h <;> exact hw.frame ..

theorem Strides.capacity (h : Strides s work stride) :
    stride.surroundings.capacity = s.capacity := by
  cases h <;> rfl

theorem Strides.isDue_eq (h : Strides s work stride) : stride.surroundings.isDue = s.isDue := by
  cases h <;> rfl

theorem Strides.coherent (h : Strides s work stride) : stride.stage.Coherent := by
  cases h <;> first | exact trivial | exact rfl

/-- How many steps a worker takes at most until it is idle. -/
def rank : Work → Nat
  | observing _ => 3
  | marking _ _ => 2
  | forwarding _ => 1
  | idle | ended => 0

/-- A step brings a worker closer to being idle, if a height in the queue is worth four
    steps. -/
theorem Strides.rank_lt (h : Strides s work stride) :
    4 * stride.surroundings.queue.length + stride.stage.rank <
      4 * s.queue.length + work.rank := by
  cases h with
  | take height rest hqueue => simp [rank, hqueue, Nat.mul_add]
  | observed | unobserved | mark | fail | forward =>
    simp [rank, Surroundings.note, Surroundings.called]

/-- A worker that goes on takes one of these steps. -/
theorem strides_of_go? (hw : s.Works) {o : Observer} {isStopped : Bool}
    (hn : n.observe = o.observe isStopped) (hc : work.Coherent)
    (hfits : ∀ height ∈ work.hand, height ≤ Store.maxHeight)
    (hgo : s.go? n replies turn work = some stride) : Strides s work stride := by
  cases work with
  | idle =>
    rw [hw.go?_take rfl] at hgo
    cases hqueue : s.queue with
    | nil =>
      rw [hqueue] at hgo
      exact absurd hgo nofun
    | cons height rest =>
      rw [hqueue] at hgo
      exact Option.some.inj hgo ▸ .take height rest hqueue
  | observing height =>
    rw [Surroundings.go?_observe rfl, hn] at hgo
    cases hanswer : ((o.observe isStopped height).run Http.scripted replies).1 with
    | ok block =>
      obtain rfl := Observer.height_of_observe hanswer
      rw [hanswer] at hgo
      exact Option.some.inj hgo ▸ .observed block
    | error failure =>
      rw [hanswer] at hgo
      exact Option.some.inj hgo ▸ .unobserved height
  | marking height block =>
    have hle := hfits height List.mem_cons_self
    cases block with
    | none =>
      rw [hw.go?_setStatus hle rfl] at hgo
      exact Option.some.inj hgo ▸ .fail height
    | some block =>
      obtain rfl : block.height = height := hc
      rw [hw.go?_setStatus hle rfl] at hgo
      exact Option.some.inj hgo ▸ .mark block
  | forwarding block =>
    rw [hw.go?_forward rfl] at hgo
    exact Option.some.inj hgo ▸ .forward block
  | ended => exact hc.elim

/-- A worker goes on as long as it has a height in hand or finds one in the queue. -/
theorem Coherent.exists_go? (hc : work.Coherent) (hw : s.Works)
    (hfits : ∀ height ∈ work.hand, height ≤ Store.maxHeight)
    (hbusy : work ≠ idle ∨ s.queue ≠ []) : ∃ stride, s.go? n replies turn work = some stride := by
  cases work with
  | idle =>
    obtain ⟨height, rest, hqueue⟩ := List.exists_cons_of_ne_nil (hbusy.resolve_left fun h => h rfl)
    rw [hw.go?_take rfl, hqueue]
    exact ⟨_, rfl⟩
  | observing height => exact ⟨_, Surroundings.go?_observe rfl⟩
  | marking height block =>
    have hle := hfits height List.mem_cons_self
    cases block <;> exact ⟨_, hw.go?_setStatus hle rfl⟩
  | forwarding block => exact ⟨_, hw.go?_forward rfl⟩
  | ended => exact hc.elim

end Work

/-! ## Offering failed heights again -/

namespace Reoffer

/-- The heights that are still to be offered again. -/
def left : Reoffer → List UInt64
  | offering height more => height :: more
  | _ => []

theorem left_offerAll (heights : List UInt64) : (offerAll heights).left = heights := by
  cases heights <;> rfl

theorem offerAll_ne_ended (heights : List UInt64) : offerAll heights ≠ ended := by
  cases heights <;> exact nofun

theorem offerAll_ne_reading (heights : List UInt64) : offerAll heights ≠ reading := by
  cases heights <;> exact nofun

/-- The steps of offering failed heights again in surroundings that work. -/
inductive Strides (s : Surroundings) : Reoffer → Stride Reoffer → Prop
  | due : s.isDue → Strides s waiting ⟨{ s with isDue := false }, [], [], reading⟩
  | read : Strides s reading ⟨s.called .readFailed, [], [], offerAll s.store.failed⟩
  | offer (height : UInt64) (more : List UInt64) : s.queue.length < s.capacity →
      Strides s (offering height more)
        ⟨s.enqueue height, [.offered height], [.offeredAgain], offerAll more⟩

variable {s : Surroundings} {reoffer : Reoffer} {n : Network} {replies : List Http.Reply}
  {stride : Stride Reoffer}

/-- The offering of failed heights, where it goes on, takes one of these steps. -/
theorem strides_of_go? (hw : s.Works) (hgo : s.go? n replies turn reoffer = some stride) :
    Strides s reoffer stride := by
  cases reoffer with
  | waiting =>
    rw [hw.go?_awaitDue rfl] at hgo
    split_ifs at hgo with hdue
    exact Option.some.inj hgo ▸ .due hdue
  | reading =>
    rw [hw.go?_readFailed rfl] at hgo
    exact Option.some.inj hgo ▸ .read
  | offering height more =>
    rw [hw.go?_offer rfl] at hgo
    split_ifs at hgo with hroom
    exact Option.some.inj hgo ▸ .offer height more hroom
  | ended => exact absurd hgo nofun

end Reoffer

end ChainRelay
