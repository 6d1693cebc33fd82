import ChainRelay.Proofs.Measurement
import ChainRelay.Proofs.Runs
import ChainRelay.Proofs.Scanner.Course

/-!
# Sweeps

A sweep is one run of the scan, from what some store holds, in surroundings that work
and with a consumer that keeps accepting: it takes heights out of the queue, and
notes of heights that were offered whether they were observed, at any time. The node
is polled a number of times, and each time fails to answer or tells some head.

However heads rise, repeat or fall, the scan hands out the same: first the heights
that were left over, then every height behind its first position up to the highest
head, each once and in order (`gapless`). The invariant is that what was done so far,
followed by what is yet to be done, is the same list at all times (`Sound.deeds`). A
run that has not come to its end can always go on to it (`Sound.settles`).
-/

namespace ChainRelay

/-- One run of a scan, with its consumer. -/
structure Sweep where
  /-- What the scan shares with its consumer. -/
  shared : Surroundings
  /-- Where the scan stands. -/
  scan : Scan
  /-- What the node replies to each of the polls to come. -/
  polls : List (List Http.Reply)
  /-- What was done to heights. -/
  deeds : List Deed

namespace Sweep

/-- A run before its first step. -/
def start (store : Store) (capacity : Nat) (polls : List (List Http.Reply)) : Sweep where
  shared := .start store capacity
  scan := .starting
  polls := polls
  deeds := []

/-- A run whose scan has gone on. -/
def go (w : Sweep) (stride : Stride Scan) : Sweep where
  shared := { stride.surroundings with log := stride.surroundings.log ++ stride.log }
  scan := stride.stage
  polls := w.polls
  deeds := w.deeds ++ stride.deeds

/-- What may happen in a run. -/
inductive Step (s : Scanner) (o : Observer) : Sweep → Sweep → Prop
  /-- The scan goes on by anything but a poll. -/
  | scan (w : Sweep) (stride : Stride Scan) : (∀ position, w.scan ≠ .polling position) →
      w.shared.go? (s.network o w.shared) [] s.turn w.scan = some stride → Step s o w (w.go stride)
  /-- The scan polls the chain head. -/
  | poll (w : Sweep) (position : UInt64) (replies : List Http.Reply)
      (polls : List (List Http.Reply)) (stride : Stride Scan) :
      w.scan = .polling position → w.polls = replies :: polls →
      w.shared.go? (s.network o w.shared) replies s.turn w.scan = some stride →
      Step s o w { w.go stride with polls := polls }
  /-- The scan has rested for long enough. -/
  | rested (w : Sweep) : Step s o w { w with shared := { w.shared with isRested := true } }
  /-- The consumer takes a height. -/
  | take (w : Sweep) (height : UInt64) (rest : List UInt64) : w.shared.queue = height :: rest →
      Step s o w { w with shared := { w.shared with queue := rest } }
  /-- The consumer notes what has become of a height. -/
  | report (w : Sweep) (height : UInt64) (status : BlockStatus) (store : Store) :
      .offered height ∈ w.deeds → status ≠ .handedOut →
      w.shared.store.setStatus height status = .ok store →
      Step s o w { w with
        shared := { w.shared with store := store }, deeds := w.deeds ++ [.noted height status] }

/-- The node has been polled for the last time, and the scan has nothing more to do. -/
def IsSettled (w : Sweep) : Prop :=
  w.polls = [] ∧ ∃ position, w.scan = .polling position ∨ w.scan = .resting position

/-- What a sweep from `first` to `top` that found `store` has left behind. -/
structure Complete (store : Store) (first top : UInt64) (w : Sweep) : Prop where
  /-- The heights that were left over were offered, and then all heights up to `top`,
      in order and each once. -/
  offered : w.deeds.filterMap Deed.offered? = store.unfinished ++ heights first top
  /-- The latter were marked as handed out, in order and each once. -/
  handedOut : w.deeds.filterMap Deed.handedOut? = heights first top
  /-- What has become of a height is what was last noted. -/
  status : ∀ height, w.shared.store.status? height =
    Deed.statusAfter w.deeds height (store.status? height)
  /-- A height on the way is still handed out if nothing else was noted. -/
  status_of_mem : ∀ height ∈ heights first top,
    (∀ status, .noted height status ∈ w.deeds → status = .handedOut) →
      w.shared.store.status? height = some .handedOut
  /-- Any other height is as it was if nothing was noted by the consumer. -/
  status_of_not_mem : ∀ height ∉ heights first top,
    (∀ status, .noted height status ∈ w.deeds → status = .handedOut) →
      w.shared.store.status? height = store.status? height
  position : w.shared.store.position = if top = first then store.position else some top
  scanned : Measurement.shown "total_block_scanned" w.shared.log = top.toNat - first.toNat
  offeredAgain : Measurement.shown "total_retry_blocks" w.shared.log = store.unfinished.length

/-! ## Invariant -/

variable {s : Scanner} {o : Observer} {store : Store} {first top : UInt64} {w w' : Sweep}

/-- What holds throughout a sweep from `first` to `top` that found `store`. -/
structure Sound (s : Scanner) (store : Store) (first top : UInt64) (w : Sweep) : Prop where
  works : w.shared.Works
  room : 0 < w.shared.capacity
  early : w.scan.IsEarly → w.shared.store = store ∧ w.deeds = []
  course : w.scan.OnCourse first top (w.polls.map s.told)
  heads : ∀ replies ∈ w.polls, ∀ head, s.told replies = .ok head → head ≤ Store.maxHeight
  /-- What the scan has done and what it has yet to do are the same list at all times. -/
  deeds : w.deeds.filter Deed.isOfScan ++ w.scan.toDo store.unfinished first top =
    store.unfinished.map .offered ++ Scan.handOuts first top
  status : ∀ height, w.shared.store.status? height =
    Deed.statusAfter w.deeds height (store.status? height)
  position : w.shared.store.position =
    if w.scan.position first = first then store.position else some (w.scan.position first)
  scanned : w.shared.log.count .scanned + first.toNat = (w.scan.position first).toNat
  offeredAgain : w.shared.log.count .offeredAgain + (w.scan.left store.unfinished).length =
    store.unfinished.length

theorem sound_start {capacity : Nat} {polls : List (List Http.Reply)} (hcapacity : 0 < capacity)
    (hheads : ∀ replies ∈ polls, ∀ head, s.told replies = .ok head → head ≤ Store.maxHeight) :
    (start store capacity polls).Sound s store first (summit first (polls.map s.told)) where
  works := Surroundings.works_start _ _
  room := hcapacity
  early _ := ⟨rfl, rfl⟩
  course := rfl
  heads := hheads
  deeds := rfl
  status _ := rfl
  position := (if_pos rfl).symm
  scanned := Nat.zero_add _
  offeredAgain := Nat.zero_add _

/-- The steps of the scan keep to its course. -/
theorem Sound.go (h : w.Sound s store first top)
    (hfirst : store.position.getD s.settings.startHeight = first) {stride : Stride Scan}
    (hstride : Scan.Strides s.settings.startHeight w.shared w.scan stride)
    (hstatus : ∀ height, stride.surroundings.store.status? height =
      Deed.statusAfter stride.deeds height (w.shared.store.status? height)) :
    (w.go stride).Sound s store first top := by
  have hearly : w.scan.IsEarly → w.shared.store.position.getD s.settings.startHeight = first ∧
      w.shared.store.unfinished = store.unfinished := fun he =>
    ⟨(h.early he).1 ▸ hfirst, congrArg Store.unfinished (h.early he).1⟩
  obtain ⟨hcourse, htoDo⟩ := hstride.toDo h.course hearly
  have hscanned := hstride.scanned h.course fun he => (hearly he).1
  have hagain := hstride.offeredAgain fun he => (hearly he).2
  exact {
    works := (hstride.works h.works).frame ..
    room := hstride.capacity ▸ h.room
    early := fun he => by
      obtain ⟨hscan, hstore, hdeeds⟩ := hstride.early he
      obtain ⟨hbefore, hnone⟩ := h.early hscan
      exact ⟨hstore.trans hbefore, by rw [Sweep.go, hdeeds, hnone]; rfl⟩
    course := hcourse
    heads := h.heads
    deeds := by
      -- What the stride has done moves from the list of what is to do to that of what is
      -- done.
      rw [← h.deeds, htoDo, Sweep.go, List.filter_append, List.append_assoc,
        List.filter_eq_self.2 hstride.isOfScan]
    status := fun height => by
      rw [Sweep.go, hstatus, h.status, Deed.statusAfter_append]
    position := hstride.position_eq h.course (fun he => (hearly he).1) h.position
    scanned := by
      show (stride.surroundings.log ++ stride.log).count .scanned + _ = _
      rw [List.count_append, hstride.log_eq, Nat.add_right_comm, h.scanned, Nat.add_comm]
      exact hscanned
    offeredAgain := by
      show (stride.surroundings.log ++ stride.log).count .offeredAgain + _ = _
      rw [List.count_append, hstride.log_eq, Nat.add_assoc, ← h.offeredAgain]
      exact congrArg _ hagain }

theorem Sound.polled (h : w.Sound s store first top) {position : UInt64}
    (hscan : w.scan = .polling position) {replies : List Http.Reply}
    {polls : List (List Http.Reply)} (hpolls : w.polls = replies :: polls) :
    (Scan.polled position (s.told replies)).OnCourse first top (polls.map s.told) ∧
      (Scan.polled position (s.told replies)).toDo store.unfinished first top =
        w.scan.toDo store.unfinished first top := by
  have hcourse := h.course
  have hheads := h.heads replies (hpolls ▸ List.mem_cons_self)
  rw [hpolls, hscan] at hcourse
  rw [hscan]
  exact hcourse.polled hheads _

/-- A poll changes nothing but where the scan stands. -/
theorem Sound.poll (h : w.Sound s store first top) {position : UInt64}
    (hscan : w.scan = .polling position) {replies : List Http.Reply}
    {polls : List (List Http.Reply)} (hpolls : w.polls = replies :: polls)
    {stride : Stride Scan}
    (hgo : w.shared.go? (s.network o w.shared) replies s.turn w.scan = some stride) :
    Sound s store first top { w.go stride with polls := polls } := by
  obtain ⟨hcourse, htoDo⟩ := h.polled hscan hpolls
  rw [hscan, Scanner.go?_polling h.works] at hgo
  obtain rfl := Option.some.inj hgo
  have hdeeds := h.deeds
  have hposition := h.position
  have hscanned := h.scanned
  have hagain := h.offeredAgain
  rw [hscan] at hposition hscanned hagain
  -- What a poll counts is neither a height that was scanned nor one offered again.
  have hquiet : ∀ m, m = .scanned ∨ m = .offeredAgain →
      (((s.pollHead false).run Http.scripted replies).1.1 ++ []).count m = 0 := by
    intro m hm
    rw [List.append_nil, List.count_eq_zero]
    intro hmem
    obtain rfl | ⟨_, rfl⟩ := Scanner.mem_log_pollHead hmem <;> simp at hm
  exact {
    works := h.works.frame ..
    room := h.room
    early := fun he => absurd he Scan.not_isEarly_polled
    course := hcourse
    heads := fun replies hmem => h.heads replies (hpolls ▸ List.mem_cons_of_mem _ hmem)
    deeds := by
      rw [Sweep.go, List.append_nil w.deeds]
      exact htoDo ▸ hdeeds
    status := fun height => by
      rw [Sweep.go, List.append_nil w.deeds]
      exact h.status height
    position := (Scan.position_polled (s.told replies)).symm ▸ hposition
    scanned := by
      rw [Sweep.go, List.count_append, hquiet _ (.inl rfl), Scan.position_polled]
      exact hscanned
    offeredAgain := by
      rw [Sweep.go, List.count_append, hquiet _ (.inr rfl), Scan.left_polled]
      exact hagain }

/-- What tasks share may change as long as it works and nothing is noted in the store
    or counted. -/
theorem Sound.surround (h : w.Sound s store first top) {shared : Surroundings}
    (hworks : shared.Works) (hcapacity : shared.capacity = w.shared.capacity)
    (hstore : shared.store = w.shared.store) (hlog : shared.log = w.shared.log) :
    Sound s store first top { w with shared := shared } where
  works := hworks
  room := hcapacity ▸ h.room
  early := hstore ▸ h.early
  course := h.course
  heads := h.heads
  deeds := h.deeds
  status := hstore ▸ h.status
  position := hstore ▸ h.position
  scanned := hlog ▸ h.scanned
  offeredAgain := hlog ▸ h.offeredAgain

/-- What the consumer notes is not for the scan to do. -/
theorem Sound.report (h : w.Sound s store first top) {height : UInt64} {status : BlockStatus}
    {after : Store} (hoffered : .offered height ∈ w.deeds) (hstatus : status ≠ .handedOut)
    (hset : w.shared.store.setStatus height status = .ok after) :
    Sound s store first top { w with
      shared := { w.shared with store := after }, deeds := w.deeds ++ [.noted height status] } where
  works := h.works.frame ..
  room := h.room
  early he := by
    -- Nothing was offered yet, so there is nothing to note of.
    rw [(h.early he).2] at hoffered
    exact absurd hoffered List.not_mem_nil
  course := h.course
  heads := h.heads
  deeds := by
    rw [← h.deeds, Deed.filter_isOfScan_append_noted hstatus]
  status other := by
    rw [Store.status?_eq_of_setStatus hset, h.status, Deed.statusAfter_append]
  position := (Store.position_setStatus hset).trans h.position
  scanned := h.scanned
  offeredAgain := h.offeredAgain

theorem Sound.step (h : w.Sound s store first top)
    (hfirst : store.position.getD s.settings.startHeight = first) (hstep : Step s o w w') :
    w'.Sound s store first top := by
  cases hstep with
  | scan stride hpoll hgo =>
    exact h.go hfirst (Scan.strides_of_go? h.works h.course hpoll hgo)
      (Surroundings.status?_of_go? hgo)
  | poll position replies polls stride hscan hpolls hgo => exact h.poll hscan hpolls hgo
  | rested | take => exact h.surround (h.works.frame ..) rfl rfl rfl
  | report height status after hoffered hstatus hset => exact h.report hoffered hstatus hset

/-- What may become of a run that found some store. -/
inductive Reachable (s : Scanner) (o : Observer) (store : Store) (capacity : Nat)
    (polls : List (List Http.Reply)) : Sweep → Prop
  | start : Reachable s o store capacity polls (start store capacity polls)
  | step {w w' : Sweep} : Reachable s o store capacity polls w → Step s o w w' →
      Reachable s o store capacity polls w'

variable {capacity : Nat} {polls : List (List Http.Reply)}

theorem Reachable.sound (h : Reachable s o store capacity polls w) (hcapacity : 0 < capacity)
    (hheads : ∀ replies ∈ polls, ∀ head, s.told replies = .ok head → head ≤ Store.maxHeight)
    (hfirst : store.position.getD s.settings.startHeight = first) :
    w.Sound s store first (summit first (polls.map s.told)) := by
  induction h with
  | start => exact sound_start hcapacity hheads
  | step _ hstep ih => exact ih.step hfirst hstep

theorem Reachable.steps (h : Reachable s o store capacity polls w)
    (hsteps : Relation.ReflTransGen (Step s o) w w') : Reachable s o store capacity polls w' :=
  keeps_run (fun _ _ hw hstep => hw.step hstep) h hsteps

/-! ## The end -/

/-- In the end a scan has come to the top, and nothing is left to do. -/
theorem Sound.settled (h : w.Sound s store first top) (hsettled : w.IsSettled) :
    w.scan.position first = top ∧ w.scan.toDo store.unfinished first top = [] ∧
      w.scan.left store.unfinished = [] := by
  obtain ⟨hpolls, position, hscan⟩ := hsettled
  have hcourse := h.course
  rw [hpolls, List.map_nil] at hcourse
  exact hcourse.atRest hscan _

/-- A run that has settled is complete. -/
theorem Sound.complete (h : w.Sound s store first top) (hsettled : w.IsSettled) :
    w.Complete store first top := by
  obtain ⟨hposition, htoDo, hleft⟩ := h.settled hsettled
  have hdeeds := h.deeds
  rw [htoDo, List.append_nil] at hdeeds
  have hhandedOut : w.deeds.filterMap Deed.handedOut? = heights first top := by
    rw [← Deed.filterMap_handedOut?_isOfScan, hdeeds]
    exact Scan.handedOut_handOuts _ _ _
  exact {
    offered := by
      rw [← Deed.filterMap_offered?_isOfScan, hdeeds]
      exact Scan.offered_handOuts _ _ _
    handedOut := hhandedOut
    status := h.status
    status_of_mem := fun height hheight honly => by
      rw [h.status]
      exact Deed.statusAfter_of_handedOut (hhandedOut ▸ hheight) honly
    status_of_not_mem := fun height hheight honly => by
      rw [h.status]
      exact Deed.statusAfter_of_not_handedOut (hhandedOut ▸ hheight) honly
    position := hposition ▸ h.position
    scanned := by
      have := h.scanned
      rw [hposition] at this
      rw [Measurement.shown_scanned]
      omega
    offeredAgain := by
      rw [Measurement.shown_offeredAgain]
      have := h.offeredAgain
      rwa [hleft] at this }

/-! ## Progress -/

/-- The steps that are left to the scan, at most. -/
def work (store : Store) (first top : UInt64) (w : Sweep) : Nat :=
  2 * (w.scan.toDo store.unfinished first top).length + 2 * w.polls.length + w.scan.rank

theorem Sound.steps (h : w.Sound s store first top)
    (hfirst : store.position.getD s.settings.startHeight = first)
    (hsteps : Relation.ReflTransGen (Step s o) w w') : w'.Sound s store first top :=
  keeps_run (fun _ _ hw hstep => hw.step hfirst hstep) h hsteps

/-- If a consumer can take heights one by one, it can take all that is in the queue. -/
theorem drain_of {step : Sweep → Sweep → Prop}
    (htake : ∀ (w : Sweep) (height : UInt64) (rest : List UInt64), w.shared.queue = height :: rest →
      step w { w with shared := { w.shared with queue := rest } }) (w : Sweep) :
    Relation.ReflTransGen step w { w with shared := { w.shared with queue := [] } } := by
  obtain ⟨queue, hqueue⟩ : ∃ queue, w.shared.queue = queue := ⟨_, rfl⟩
  induction queue generalizing w with
  | nil => rw [← hqueue]
  | cons height rest ih =>
    exact .head (htake w height rest hqueue)
      (ih { w with shared := { w.shared with queue := rest } } rfl)

theorem drain (w : Sweep) : Relation.ReflTransGen (Step s o) w
    { w with shared := { w.shared with queue := [] } } :=
  drain_of .take w

/-- The steps of the scan other than polls leave it with less to do. -/
theorem Sound.work_go_lt (h : w.Sound s store first top)
    (hfirst : store.position.getD s.settings.startHeight = first) {stride : Stride Scan}
    (hpoll : ∀ position, w.scan ≠ .polling position)
    (hgo : w.shared.go? (s.network o w.shared) [] s.turn w.scan = some stride) :
    (w.go stride).work store first top < w.work store first top := by
  have hstride := Scan.strides_of_go? h.works h.course hpoll hgo
  obtain ⟨-, htoDo⟩ := hstride.toDo h.course fun he =>
    ⟨(h.early he).1 ▸ hfirst, congrArg Store.unfinished (h.early he).1⟩
  have hrank := hstride.rank_lt
  show 2 * (stride.stage.toDo store.unfinished first top).length + 2 * w.polls.length +
    stride.stage.rank < _
  rw [work, htoDo, List.length_append]
  omega

/-- A run that has not settled can get on to one in which less is left to do. -/
theorem Sound.exists_work_lt (h : w.Sound s store first top)
    (hfirst : store.position.getD s.settings.startHeight = first) (hsettled : ¬ w.IsSettled) :
    ∃ w', Relation.ReflTransGen (Step s o) w w' ∧
      w'.work store first top < w.work store first top := by
  by_cases hpoll : ∃ position, w.scan = .polling position
  · obtain ⟨position, hscan⟩ := hpoll
    obtain ⟨replies, polls, hpolls⟩ : ∃ replies polls, w.polls = replies :: polls :=
      List.exists_cons_of_ne_nil fun hnil => hsettled ⟨hnil, position, .inl hscan⟩
    have hgo : w.shared.go? (s.network o w.shared) replies s.turn w.scan = _ :=
      hscan ▸ Scanner.go?_polling h.works position replies
    refine ⟨_, .single (.poll w position replies polls _ hscan hpolls hgo), ?_⟩
    have hrank : (Scan.polled position (s.told replies)).rank ≤ 1 := Scan.rank_polled_le _
    show 2 * ((Scan.polled position (s.told replies)).toDo store.unfinished first top).length +
      2 * polls.length + (Scan.polled position (s.told replies)).rank < _
    rw [(h.polled hscan hpolls).2, work, hpolls, List.length_cons]
    omega
  · -- The consumer makes room and time passes, then the scan goes on.
    have hready : Sound s store first top { w with
        shared := { w.shared with queue := [], isRested := true } } :=
      h.surround (h.works.frame ..) rfl rfl rfl
    have hpoll' : ∀ position, w.scan ≠ .polling position := not_exists.1 hpoll
    obtain ⟨stride, hgo⟩ : ∃ stride, Surroundings.go? { w.shared with queue := [], isRested := true }
        (s.network o w.shared) [] s.turn w.scan = some stride :=
      hready.course.ascends.exists_go? hready.room rfl hpoll'
    exact ⟨_, ((drain w).tail (.rested _)).tail (.scan _ stride hpoll' hgo),
      hready.work_go_lt hfirst hpoll' hgo⟩

/-- A run can always get on to its end. -/
theorem Sound.settles (h : w.Sound s store first top)
    (hfirst : store.position.getD s.settings.startHeight = first) :
    ∃ w', Relation.ReflTransGen (Step s o) w w' ∧ w'.IsSettled := by
  have hless : ∀ w : Sweep, w.Sound s store first top → ¬ w.IsSettled →
      ∃ w', Relation.ReflTransGen (Step s o) w w' ∧ w'.Sound s store first top ∧
        w'.work store first top < w.work store first top := by
    intro w hw hsettled
    obtain ⟨w', hsteps, hlt⟩ := hw.exists_work_lt (o := o) hfirst hsettled
    exact ⟨w', hsteps, hw.steps hfirst hsteps, hlt⟩
  obtain ⟨w', hsteps, -, hsettled⟩ := reaches_end (work store first top) hless h
  exact ⟨w', hsteps, hsettled⟩

/-- A run of the scan can always get on to its end. In the end it has offered the
    heights that were left over, in ascending order, and then every height behind its
    first position up to the highest head that was told, each once and in order. -/
theorem gapless (hs : store.Ordered) (hcapacity : 0 < capacity)
    (hheads : ∀ replies ∈ polls, ∀ head, s.told replies = .ok head → head ≤ Store.maxHeight) :
    let first := store.position.getD s.settings.startHeight
    let top := summit first (polls.map s.told)
    store.unfinished.Pairwise (· < ·) ∧
      (∀ height, height ∈ store.unfinished ↔
        ∃ status, store.status? height = some status ∧ status ≠ .observed) ∧
      ∀ w, Reachable s o store capacity polls w →
        (∃ w', Relation.ReflTransGen (Step s o) w w' ∧ w'.IsSettled) ∧
          (w.IsSettled → w.Complete store first top) := by
  intro first top
  refine ⟨hs.pairwise_unfinished, fun height => hs.mem_unfinished, fun w hw => ?_⟩
  -- All that is said of a run follows from what holds throughout it.
  have hsound : w.Sound s store first top := hw.sound hcapacity hheads rfl
  exact ⟨hsound.settles rfl, hsound.complete⟩

/-- A node whose chain has come to height 7 is asked twice, and first does not answer.
    A scan from height 4 on offers 3 and 6, which were left over, and then 5, 6 and 7. -/
theorem gapless_up_to_seven :
    let s : Scanner := ⟨"http://node", { ScanSettings.standard with startHeight := 4 }⟩
    let o : Observer := ⟨"http://node", .tendermint, ScanSettings.standard.policy, 1⟩
    let store : Store := ⟨none, [(3, .failed), (5, .observed), (6, .handedOut)]⟩
    let body := "\x7b\"result\":\x7b\"block\":\x7b\"header\":\x7b\"height\":\"7\"\x7d\x7d\x7d\x7d"
    ∃ w, Reachable s o store 2 [[], [.lost, .answered .ok (Utf8.encode body)]] w ∧
      w.IsSettled ∧ w.deeds.filterMap Deed.offered? = [3, 6, 5, 6, 7] := by
  intro s o store body
  have hheads := s.told_le_of_all (by decide +kernel :
    [[], [.lost, .answered .ok (Utf8.encode body)]].all fun replies =>
      (s.told replies).toOption.all (· ≤ Store.maxHeight))
  have hsummit : summit 4 ([[], [.lost, .answered .ok (Utf8.encode body)]].map s.told) = 7 := by
    decide +kernel
  have hs : store.Ordered := by decide
  obtain ⟨-, -, hrun⟩ := gapless (o := o) hs Nat.zero_lt_two hheads
  obtain ⟨w, hsteps, hsettled⟩ := (hrun _ .start).1
  have hw := Reachable.start.steps hsteps
  have hoffered : w.deeds.filterMap Deed.offered? = store.unfinished ++ heights 4 (summit 4 _) :=
    ((hrun w hw).2 hsettled).offered
  exact ⟨w, hw, hsettled, by rw [hoffered, hsummit]; decide⟩

end Sweep

end ChainRelay
