import ChainRelay.Proofs.Observer.Reckoning
import ChainRelay.Proofs.Observer.Strides
import ChainRelay.Proofs.Scanner.Course

/-!
# Watches

A watch is a run of the scan with one worker that observes what is offered, in
surroundings that work. The node answers for heads and for blocks whatever it likes.
When the scan has come to rest and the worker has nothing left to do, failed heights
may become due (`Watch.Step.due`): they are offered once more, and the worker observes
them in another round. There may be any number of rounds.

`Watch.Sound` holds throughout. Its reckoning is over the heights that are pending:
those that the scan has yet to offer, those in the queue, the one that the worker has
in hand, and those that are being offered again. No step but the end of the work on a
height, and the beginning of a round, changes the list of these.
-/

namespace ChainRelay

/-- A run of the scan with a worker. -/
structure Watch where
  /-- What the tasks share. -/
  shared : Surroundings
  /-- Where the scan stands. -/
  scan : Scan
  /-- Where the worker stands. -/
  worker : Work
  /-- Where the offering of failed heights stands. -/
  reoffer : Reoffer
  /-- What the node replies to each of the polls to come. -/
  polls : List (List Http.Reply)
  /-- How often failed heights have been due. -/
  rounds : Nat

namespace Watch

/-- A run before its first step. -/
def start (store : Store) (capacity : Nat) (polls : List (List Http.Reply)) : Watch where
  shared := .start store capacity
  scan := .starting
  worker := .idle
  reoffer := .waiting
  polls := polls
  rounds := 0

/-- The node has been polled for the last time, and the scan has nothing more to do. -/
def IsSettled (w : Watch) : Prop :=
  w.polls = [] ∧ ∃ position, w.scan = .polling position ∨ w.scan = .resting position

/-- Nothing is left to do until failed heights are due. -/
structure IsQuiet (w : Watch) : Prop where
  settled : w.IsSettled
  isDue : w.shared.isDue = false
  reoffer : w.reoffer = .waiting
  queue : w.shared.queue = []
  worker : w.worker = .idle

/-- What may happen in a run. -/
inductive Step (s : Scanner) (o : Observer) : Watch → Watch → Prop
  /-- The scan goes on by anything but a poll. -/
  | scan (w : Watch) (stride : Stride Scan) : (∀ position, w.scan ≠ .polling position) →
      w.shared.go? (s.network o w.shared) [] s.turn w.scan = some stride →
      Step s o w { w with shared := stride.surroundings, scan := stride.stage }
  /-- The scan polls the chain head. -/
  | poll (w : Watch) (position : UInt64) (replies : List Http.Reply)
      (polls : List (List Http.Reply)) (stride : Stride Scan) :
      w.scan = .polling position → w.polls = replies :: polls →
      w.shared.go? (s.network o w.shared) replies s.turn w.scan = some stride →
      Step s o w { w with shared := stride.surroundings, scan := stride.stage, polls := polls }
  /-- The scan has rested for long enough. -/
  | rested (w : Watch) : Step s o w { w with shared := { w.shared with isRested := true } }
  /-- The worker goes on, and if it asks for a block, the node replies. -/
  | work (w : Watch) (replies : List Http.Reply) (stride : Stride Work) :
      w.shared.go? (s.network o w.shared) replies Work.turn w.worker = some stride →
      Step s o w { w with shared := stride.surroundings, worker := stride.stage }
  /-- The offering of failed heights goes on. -/
  | reoffer (w : Watch) (stride : Stride Reoffer) :
      w.shared.go? (s.network o w.shared) [] Reoffer.turn w.reoffer = some stride →
      Step s o w { w with shared := stride.surroundings, reoffer := stride.stage }
  /-- Failed heights are due, and another round begins. -/
  | due (w : Watch) : w.IsQuiet → Step s o w
      { w with shared := { w.shared with isDue := true }, rounds := w.rounds + 1 }

/-- What may become of a run that found some store. -/
inductive Reachable (s : Scanner) (o : Observer) (store : Store) (capacity : Nat)
    (polls : List (List Http.Reply)) : Watch → Prop
  | start : Reachable s o store capacity polls (start store capacity polls)
  | step {w w' : Watch} : Reachable s o store capacity polls w → Step s o w w' →
      Reachable s o store capacity polls w'

/-! ## Invariant -/

/-- The heights that the scan of a watch hands out. -/
def scope (store : Store) (first top : UInt64) : List UInt64 :=
  store.unfinished ++ heights first top

/-- The heights of the scope that a scan has yet to offer. -/
def unoffered (store : Store) (first top : UInt64) (scan : Scan) : List UInt64 :=
  (scan.toDo store.unfinished first top).filterMap Deed.offered?

/-- The heights that the worker will come to before failed heights are due again. -/
def pending (store : Store) (first top : UInt64) (w : Watch) : List UInt64 :=
  w.worker.hand ++ w.shared.queue ++ unoffered store first top w.scan ++ w.reoffer.left

/-- What holds throughout a watch from `first` to `top` that found `store`. -/
structure Sound (s : Scanner) (store : Store) (first top : UInt64) (w : Watch) : Prop where
  works : w.shared.Works
  room : 0 < w.shared.capacity
  ordered : w.shared.store.Ordered
  course : w.scan.OnCourse first top (w.polls.map s.told)
  heads : ∀ replies ∈ w.polls, ∀ head, s.told replies = .ok head → head ≤ Store.maxHeight
  /-- Until the scan has read the store, nothing has changed. -/
  early : w.scan.IsEarly → w.shared.store = store ∧ w.worker.hand ++ w.shared.queue = []
  worker : w.worker.Coherent
  /-- Heights are offered again only once the scan has settled. -/
  calm : w.IsSettled ∨ w.reoffer = .waiting ∧ w.shared.isDue = false
  reoffer : w.reoffer = .waiting ∨ w.shared.isDue = false ∧ w.reoffer ≠ .ended
  /-- The failed heights are read when nothing else is pending. -/
  still : w.shared.isDue ∨ w.reoffer = .reading → w.pending store first top = []
  reckoning : Reckoning (scope store first top) store.status? (w.pending store first top)
    w.worker.forwarded? w.shared.store.status? w.shared.blocks

variable {s : Scanner} {o : Observer} {store : Store} {first top : UInt64} {w w' : Watch}

/-- All heights of the scope can be stored. -/
theorem le_maxHeight_of_mem_scope {heads : List (Outcome UInt64)} (hs : store.Ordered)
    (hfits : store.Fits) (hheads : ∀ head, .ok head ∈ heads → head ≤ Store.maxHeight)
    {height : UInt64} (h : height ∈ scope store first (summit first heads)) :
    height ≤ Store.maxHeight := by
  rcases List.mem_append.1 h with h | h
  · obtain ⟨status, hstatus, -⟩ := hs.mem_unfinished.1 h
    exact hfits _ (hs.mem_iff_lookup.2 hstatus)
  · obtain ⟨hlo, hhi⟩ := mem_heights.1 h
    obtain heq | hmem : summit first heads = first ∨ _ := summit_eq_or_mem
    · exact absurd (heq ▸ UInt64.lt_of_lt_of_le hlo hhi) (UInt64.lt_irrefl _)
    · exact UInt64.le_trans hhi (hheads _ hmem)

/-- If no row is beyond the first position, the scope ascends. -/
theorem pairwise_scope (hs : store.Ordered) (hrows : ∀ row ∈ store.rows, row.1 ≤ first) :
    (scope store first top).Pairwise (· < ·) := by
  refine List.pairwise_append.2 ⟨hs.pairwise_unfinished, pairwise_heights, ?_⟩
  intro a ha b hb
  obtain ⟨status, hstatus, -⟩ := hs.mem_unfinished.1 ha
  exact UInt64.lt_of_le_of_lt (hrows _ (hs.mem_iff_lookup.2 hstatus)) (mem_heights.1 hb).1

/-- No height of the scope was observed before. -/
theorem not_observed_of_mem_scope (hs : store.Ordered) (hrows : ∀ row ∈ store.rows, row.1 ≤ first)
    {height : UInt64} (h : height ∈ scope store first top) :
    store.status? height ≠ some .observed := by
  intro hobserved
  rcases List.mem_append.1 h with h | h
  · obtain ⟨status, hstatus, hne⟩ := hs.mem_unfinished.1 h
    exact hne (Option.some.inj (hstatus.symm.trans hobserved))
  · -- What lies behind the first position has no row at all.
    have hle := hrows _ (hs.mem_iff_lookup.2 hobserved)
    exact UInt64.not_lt.2 hle (mem_heights.1 h).1

theorem sound_start {capacity : Nat} {polls : List (List Http.Reply)} (hs : store.Ordered)
    (hrows : ∀ row ∈ store.rows, row.1 ≤ first) (hcapacity : 0 < capacity)
    (hheads : ∀ replies ∈ polls, ∀ head, s.told replies = .ok head → head ≤ Store.maxHeight) :
    (start store capacity polls).Sound s store first (summit first (polls.map s.told)) := by
  have hpending : (start store capacity polls).pending store first
      (summit first (polls.map s.told)) = scope store first (summit first (polls.map s.told)) := by
    show unoffered store first _ .starting ++ [] = _
    rw [List.append_nil]
    exact Scan.offered_handOuts _ _ _
  exact {
    works := Surroundings.works_start _ _
    room := hcapacity
    ordered := hs
    course := rfl
    heads := hheads
    early := fun _ => ⟨rfl, rfl⟩
    worker := trivial
    calm := .inr ⟨rfl, rfl⟩
    reoffer := .inl rfl
    still := fun h => absurd h (by simp [start, Surroundings.start])
    reckoning := by
      rw [hpending]
      exact {
        nodup := (pairwise_scope hs hrows).imp UInt64.ne_of_lt
        subset := fun _ h => h
        unforwarded := fun _ _ => rfl
        observed := fun height hmem =>
          iff_of_false (not_observed_of_mem_scope hs hrows hmem) nofun
        settled := fun height hscope hmem => absurd hscope hmem
        others := fun _ _ => ⟨rfl, rfl⟩ } }

/-- When a scan has settled, it has nothing more to offer. -/
theorem Sound.toDo_eq_nil (h : w.Sound s store first top) (hsettled : w.IsSettled) :
    w.scan.toDo store.unfinished first top = [] := by
  obtain ⟨hpolls, position, hscan⟩ := hsettled
  have hcourse := h.course
  rw [hpolls, List.map_nil] at hcourse
  exact (hcourse.atRest hscan _).2.1

/-- When nothing is left to do, nothing is pending. -/
theorem Sound.pending_eq_nil (h : w.Sound s store first top) (hquiet : w.IsQuiet) :
    w.pending store first top = [] := by
  rw [pending, unoffered, h.toDo_eq_nil hquiet.settled, hquiet.worker, hquiet.queue,
    hquiet.reoffer]
  rfl

/-- A height that the scan marks stays pending. -/
theorem Sound.scan_reckoning (h : w.Sound s store first top) {stride : Stride Scan}
    (hstride : Scan.Strides s.settings.startHeight w.shared w.scan stride) :
    Reckoning (scope store first top) store.status? (w.pending store first top)
      w.worker.forwarded? stride.surroundings.store.status? w.shared.blocks := by
  obtain hsame | ⟨p, head, hscan, hnote⟩ := hstride.status?_cases
  · exact hsame ▸ h.reckoning
  · -- The height that is marked is yet to be offered, so it is not in hand.
    have hlt : p < top := Scan.Climbs.lt_top (hscan ▸ h.course)
    have hmem : p + 1 ∈ unoffered store first top w.scan := by
      rw [unoffered, hscan, Scan.toDo, Scan.handOuts_of_lt hlt]
      exact List.mem_cons_self
    have hnot : w.worker.forwarded? ≠ some (p + 1) := by
      intro hforwarded
      have hnodup := h.reckoning.nodup
      rw [pending, Work.hand_of_forwarded? hforwarded] at hnodup
      refine (List.nodup_cons.1 hnodup).1 ?_
      exact List.mem_append_left _ (List.mem_append_right _ hmem)
    rw [hnote]
    refine h.reckoning.handOut ?_ hnot (Surroundings.status?_note_self _ _ _) fun _ hne =>
      Surroundings.status?_note_of_ne hne
    exact List.mem_append_left _ (List.mem_append_right _ hmem)

/-- A step of the scan neither adds to what is pending nor takes away from it. -/
theorem Sound.scan (h : w.Sound s store first top)
    (hfirst : store.position.getD s.settings.startHeight = first) {stride : Stride Scan}
    (hpoll : ∀ position, w.scan ≠ .polling position)
    (hgo : w.shared.go? (s.network o w.shared) [] s.turn w.scan = some stride) :
    Sound s store first top { w with shared := stride.surroundings, scan := stride.stage } := by
  have hstride := Scan.strides_of_go? h.works h.course hpoll hgo
  obtain ⟨hcourse, htoDo⟩ := hstride.toDo h.course fun he =>
    ⟨(h.early he).1 ▸ hfirst, congrArg Store.unfinished (h.early he).1⟩
  have hpending : pending store first top
      { w with shared := stride.surroundings, scan := stride.stage } =
        w.pending store first top := by
    -- What the scan offers goes from the heights yet to be offered to those in the queue.
    rw [pending, pending, hstride.queue_eq, unoffered, unoffered, htoDo, List.filterMap_append]
    simp only [List.append_assoc]
  have hreckoning := h.scan_reckoning hstride
  exact {
    works := hstride.works h.works
    room := hstride.capacity ▸ h.room
    ordered := Surroundings.ordered_of_go? hgo h.ordered
    course := hcourse
    heads := h.heads
    early := fun he => by
      obtain ⟨hscan, hstore, hdeeds⟩ := hstride.early he
      obtain ⟨hbefore, hnone⟩ := h.early hscan
      refine ⟨hstore.trans hbefore, ?_⟩
      rw [hstride.queue_eq, hdeeds]
      exact (List.append_nil _).symm ▸ hnone
    worker := h.worker
    calm := by
      -- A scan that has settled goes on from resting to polling only.
      refine h.calm.imp ?_ (And.imp_right fun hdue => hstride.isDue_eq.trans hdue)
      rintro ⟨hpolls, position, hscan | hscan⟩
      · exact absurd hscan (hpoll position)
      · rw [hscan] at hstride
        cases hstride with
        | rest => exact ⟨hpolls, position, .inl rfl⟩
    reoffer := h.reoffer.imp_right (And.imp_left fun hdue => hstride.isDue_eq.trans hdue)
    still := fun hd => hpending.trans (h.still (hstride.isDue_eq ▸ hd))
    reckoning := by
      rw [hpending, hstride.blocks_eq]
      exact hreckoning }

/-- A poll changes nothing but where the scan stands. -/
theorem Sound.poll (h : w.Sound s store first top) {position : UInt64}
    (hscan : w.scan = .polling position) {replies : List Http.Reply}
    {polls : List (List Http.Reply)} (hpolls : w.polls = replies :: polls) {stride : Stride Scan}
    (hgo : w.shared.go? (s.network o w.shared) replies s.turn w.scan = some stride) :
    Sound s store first top
      { w with shared := stride.surroundings, scan := stride.stage, polls := polls } := by
  have hcourse := h.course
  rw [hpolls, hscan] at hcourse
  obtain ⟨hnext, htoDo⟩ :=
    hcourse.polled (h.heads replies (hpolls ▸ List.mem_cons_self)) store.unfinished
  rw [hscan, Scanner.go?_polling h.works] at hgo
  obtain rfl := Option.some.inj hgo
  have hpending : pending store first top
      { w with scan := Scan.polled position (s.told replies), polls := polls } =
        w.pending store first top := by
    rw [pending, pending, unoffered, unoffered, htoDo, hscan]
  exact {
    works := h.works
    room := h.room
    ordered := h.ordered
    course := hnext
    heads := fun replies hmem => h.heads replies (hpolls ▸ List.mem_cons_of_mem _ hmem)
    early := fun he => absurd he Scan.not_isEarly_polled
    worker := h.worker
    calm := .inr (h.calm.resolve_left fun hsettled =>
      absurd (hpolls.symm.trans hsettled.1) (List.cons_ne_nil _ _))
    reoffer := h.reoffer
    still := fun hd => hpending.trans (h.still hd)
    reckoning := hpending ▸ h.reckoning }

/-- The worker settles the first of what is pending, or keeps it in hand. -/
theorem Sound.work_reckoning (h : w.Sound s store first top) {stride : Stride Work}
    (hstride : Work.Strides w.shared w.worker stride) :
    Reckoning (scope store first top) store.status?
      (pending store first top
        { w with shared := stride.surroundings, worker := stride.stage })
      stride.stage.forwarded? stride.surroundings.store.status? stride.surroundings.blocks := by
  have hreckoning := h.reckoning
  obtain ⟨worker, hworker⟩ : ∃ worker, w.worker = worker := ⟨_, rfl⟩
  rw [pending, hworker] at hreckoning
  rw [hworker] at hstride
  cases hstride with
  | take height rest hqueue =>
    rw [hqueue] at hreckoning
    exact hreckoning
  | observed | unobserved => exact hreckoning
  | mark block =>
    exact hreckoning.observe (Surroundings.status?_note_self _ _ _) fun _ hne =>
      Surroundings.status?_note_of_ne hne
  | fail height =>
    exact hreckoning.fail (Surroundings.status?_note_self _ _ _) fun _ hne =>
      Surroundings.status?_note_of_ne hne
  | forward block => exact hreckoning.forward

theorem Sound.hand_le (h : w.Sound s store first top)
    (hscope : ∀ height ∈ scope store first top, height ≤ Store.maxHeight) :
    ∀ height ∈ w.worker.hand, height ≤ Store.maxHeight := by
  intro height hmem
  refine hscope height (h.reckoning.subset height ?_)
  rw [pending, List.append_assoc, List.append_assoc]
  exact List.mem_append_left _ hmem

theorem Sound.work (h : w.Sound s store first top)
    (hscope : ∀ height ∈ scope store first top, height ≤ Store.maxHeight)
    {replies : List Http.Reply} {stride : Stride Work}
    (hgo : w.shared.go? (s.network o w.shared) replies Work.turn w.worker = some stride) :
    Sound s store first top
      { w with shared := stride.surroundings, worker := stride.stage } := by
  have hstride := Work.strides_of_go? h.works rfl h.worker (h.hand_le hscope) hgo
  exact {
    works := hstride.works h.works
    room := hstride.capacity ▸ h.room
    ordered := Surroundings.ordered_of_go? hgo h.ordered
    course := h.course
    heads := h.heads
    early := fun he => absurd (h.early he).2 hstride.busy
    worker := hstride.coherent
    calm := h.calm.imp_right (And.imp_right fun hdue => hstride.isDue_eq.trans hdue)
    reoffer := h.reoffer.imp_right (And.imp_left fun hdue => hstride.isDue_eq.trans hdue)
    still := fun hd => by
      -- When nothing is pending, the worker has nothing to go on with.
      have hnone := h.still (hstride.isDue_eq ▸ hd)
      rw [pending, List.append_eq_nil_iff, List.append_eq_nil_iff] at hnone
      exact absurd hnone.1.1 hstride.busy
    reckoning := h.work_reckoning hstride }

/-- While heights are offered again, the scan has settled, and they are not due anew. -/
theorem Sound.settled_of_busy (h : w.Sound s store first top) (hbusy : w.reoffer ≠ .waiting) :
    w.IsSettled ∧ w.shared.isDue = false :=
  ⟨h.calm.resolve_right fun hwaiting => hbusy hwaiting.1, (h.reoffer.resolve_left hbusy).1⟩

theorem IsSettled.not_isEarly (h : w.IsSettled) : ¬ w.scan.IsEarly := by
  obtain ⟨-, position, hscan | hscan⟩ := h <;> exact hscan ▸ id

/-- Once the scan has settled, heights may be offered again, whatever is pending then. -/
theorem Sound.offerAll (h : w.Sound s store first top) (hsettled : w.IsSettled)
    {shared : Surroundings} (hworks : shared.Works)
    (hcapacity : shared.capacity = w.shared.capacity) (hstore : shared.store = w.shared.store)
    (hdue : shared.isDue = false) (heights : List UInt64)
    (hreckoning : Reckoning (scope store first top) store.status?
      (pending store first top { w with shared, reoffer := .offerAll heights })
      w.worker.forwarded? shared.store.status? shared.blocks) :
    Sound s store first top { w with shared, reoffer := .offerAll heights } where
  works := hworks
  room := hcapacity ▸ h.room
  ordered := hstore ▸ h.ordered
  course := h.course
  heads := h.heads
  early he := absurd he hsettled.not_isEarly
  worker := h.worker
  calm := .inl hsettled
  reoffer := .inr ⟨hdue, Reoffer.offerAll_ne_ended _⟩
  still := by
    rintro (hd | hd)
    · exact absurd (hd.symm.trans hdue) nofun
    · exact absurd hd (Reoffer.offerAll_ne_reading _)
  reckoning := hreckoning

/-- A round begins with the failed heights, when nothing else is pending. -/
theorem Sound.read (h : w.Sound s store first top) (hs : store.Ordered)
    (hreading : w.reoffer = .reading) :
    Sound s store first top { w with
      shared := w.shared.called .readFailed
      reoffer := Reoffer.offerAll w.shared.store.failed } := by
  obtain ⟨hsettled, hdue⟩ := h.settled_of_busy (hreading ▸ nofun)
  have hreckoning := h.reckoning
  have hnone := h.still (.inr hreading)
  rw [hnone] at hreckoning
  rw [pending, hreading] at hnone
  simp only [List.append_eq_nil_iff] at hnone
  obtain ⟨⟨⟨hhand, hqueue⟩, hunoffered⟩, -⟩ := hnone
  have hpending : pending store first top { w with
      shared := w.shared.called .readFailed
      reoffer := Reoffer.offerAll w.shared.store.failed } = w.shared.store.failed := by
    show w.worker.hand ++ w.shared.queue ++ unoffered store first top w.scan ++
      (Reoffer.offerAll _).left = _
    rw [hhand, hqueue, hunoffered, Reoffer.left_offerAll]
    rfl
  -- The worker is idle, so no block is just being handed on.
  have hforwarded : w.worker.forwarded? = none := by
    cases hsome : w.worker.forwarded? with
    | none => rfl
    | some height => exact absurd (hhand.symm.trans (Work.hand_of_forwarded? hsome)) nofun
  rw [hforwarded] at hreckoning
  refine h.offerAll hsettled (h.works.called _) rfl rfl hdue _ ?_
  rw [hpending, hforwarded]
  refine hreckoning.reoffer (h.ordered.pairwise_failed.imp UInt64.ne_of_lt)
    (fun height => h.ordered.mem_failed.1) fun height hfailed => ?_
  exact List.mem_append_left _ (hs.mem_unfinished.2 ⟨_, hfailed, nofun⟩)

/-- The steps of offering failed heights again add to what is pending only when it
    reads them. -/
theorem Sound.reoffer_step (h : w.Sound s store first top) (hs : store.Ordered)
    {stride : Stride Reoffer}
    (hgo : w.shared.go? (s.network o w.shared) [] Reoffer.turn w.reoffer = some stride) :
    Sound s store first top
      { w with shared := stride.surroundings, reoffer := stride.stage } := by
  have hstride := Reoffer.strides_of_go? h.works hgo
  obtain ⟨reoffer, hreoffer⟩ : ∃ reoffer, w.reoffer = reoffer := ⟨_, rfl⟩
  rw [hreoffer] at hstride
  have hworks := h.works
  cases hstride with
  | due hdue =>
    have hsettled : w.IsSettled :=
      h.calm.resolve_right fun hwaiting => absurd (hdue.symm.trans hwaiting.2) nofun
    have hpending : pending store first top { w with
        shared := { w.shared with isDue := false }, reoffer := .reading } =
          w.pending store first top := by
      rw [pending, pending, hreoffer]
      rfl
    exact {
      works := hworks.frame ..
      room := h.room
      ordered := h.ordered
      course := h.course
      heads := h.heads
      early := h.early
      worker := h.worker
      calm := .inl hsettled
      reoffer := .inr ⟨rfl, nofun⟩
      still := fun _ => hpending.trans (h.still (.inl hdue))
      reckoning := hpending ▸ h.reckoning }
  | read => exact h.read hs hreoffer
  | offer height more hroom =>
    obtain ⟨hsettled, hdue⟩ := h.settled_of_busy (hreoffer ▸ nofun)
    have hpending : pending store first top { w with
        shared := w.shared.enqueue height, reoffer := Reoffer.offerAll more } =
          w.pending store first top := by
      have hnone : unoffered store first top w.scan = [] := by
        rw [unoffered, h.toDo_eq_nil hsettled]
        rfl
      rw [pending, pending, hreoffer, hnone, Reoffer.left_offerAll, List.append_nil,
        List.append_nil]
      show w.worker.hand ++ (w.shared.queue ++ [height]) ++ more =
        w.worker.hand ++ w.shared.queue ++ (height :: more)
      simp only [List.append_assoc, List.singleton_append]
    exact h.offerAll hsettled (hworks.enqueue height) rfl rfl hdue more (hpending ▸ h.reckoning)

/-- Failed heights become due when nothing is pending. -/
theorem Sound.due (h : w.Sound s store first top) (hquiet : w.IsQuiet) :
    Sound s store first top
      { w with shared := { w.shared with isDue := true }, rounds := w.rounds + 1 } where
  works := h.works.frame ..
  room := h.room
  ordered := h.ordered
  course := h.course
  heads := h.heads
  early := h.early
  worker := h.worker
  calm := .inl hquiet.settled
  reoffer := .inl hquiet.reoffer
  still _ := h.pending_eq_nil hquiet
  reckoning := h.reckoning

theorem Sound.step (h : w.Sound s store first top) (hs : store.Ordered)
    (hfirst : store.position.getD s.settings.startHeight = first)
    (hscope : ∀ height ∈ scope store first top, height ≤ Store.maxHeight)
    (hstep : Step s o w w') : w'.Sound s store first top := by
  cases hstep with
  | scan stride hpoll hgo => exact h.scan hfirst hpoll hgo
  | poll position replies polls stride hscan hpolls hgo => exact h.poll hscan hpolls hgo
  | rested => exact { h with works := h.works.frame .. }
  | work replies stride hgo => exact h.work hscope hgo
  | reoffer stride hgo => exact h.reoffer_step hs hgo
  | due hquiet => exact h.due hquiet

end Watch

end ChainRelay
