import ChainRelay.Proofs.Observer.Watch
import ChainRelay.Proofs.Runs
import Mathlib.Data.List.Sort

/-!
# Rounds of observation

Between the rounds of a watch, each height that the scan has handed out was handed on
exactly once, or it is marked as failed and was never handed on; and the heights that
have not been handed on are those that would be offered again (`Watch.exactly_once`).
Nothing is pending then, so this is what the reckoning says of settled heights
(`Watch.Sound.quiet`). From any state of a round its end can be reached, since some
task can go on that leaves less to do (`Watch.Sound.exists_effort_lt`).

A list of moves makes a run that can be computed (`Watch.moves?`).
-/

namespace ChainRelay.Watch

variable {s : Scanner} {o : Observer} {store : Store} {first top : UInt64} {w w' : Watch}

/-! ## Between rounds -/

/-- What is known of the heights between rounds. -/
structure Accounted (store : Store) (first top : UInt64) (w : Watch) : Prop where
  /-- What was observed was handed on once, and what failed was not. No height is still
      handed out. -/
  status : ∀ height ∈ store.unfinished ++ heights first top,
    (w.shared.store.status? height = some .observed ∧ forwardings w.shared.blocks height = 1) ∨
      (w.shared.store.status? height = some .failed ∧ forwardings w.shared.blocks height = 0)
  /-- Heights that had been observed before are not handed on. -/
  observed : ∀ height, store.status? height = some .observed →
    w.shared.store.status? height = some .observed ∧ forwardings w.shared.blocks height = 0
  /-- The heights that have not been handed on are those to be offered again, in
      ascending order. -/
  unfinished : w.shared.store.unfinished = (store.unfinished ++ heights first top).filter
    fun height => forwardings w.shared.blocks height = 0
  failed : w.shared.store.failed = w.shared.store.unfinished

/-- Between rounds, the heights that would be offered again are those marked as
    failed. -/
theorem Sound.mem_unfinished_iff_failed (h : w.Sound s store first top) (hs : store.Ordered)
    (hquiet : w.IsQuiet) {height : UInt64} :
    height ∈ w.shared.store.unfinished ↔ w.shared.store.status? height = some .failed := by
  have hreckoning := h.pending_eq_nil hquiet ▸ h.reckoning
  rw [h.ordered.mem_unfinished]
  constructor
  · rintro ⟨status, hstatus, hne⟩
    by_cases hmem : height ∈ scope store first top
    · obtain ⟨hobserved, -⟩ | ⟨hfailed, -⟩ := hreckoning.settled height hmem List.not_mem_nil
      · exact absurd (Option.some.inj (hstatus.symm.trans hobserved)) hne
      · exact hfailed
    · -- A height out of scope is as it was, and it was not to be offered again then.
      rw [(hreckoning.others height hmem).1] at hstatus
      exact absurd (List.mem_append_left _ (hs.mem_unfinished.2 ⟨status, hstatus, hne⟩)) hmem
  · intro hfailed
    exact ⟨_, hfailed, by decide⟩

/-- Between rounds, the heights marked as failed are those of the scope that were not
    handed on. -/
theorem Sound.failed_iff_unforwarded (h : w.Sound s store first top) (hs : store.Ordered)
    (hquiet : w.IsQuiet) {height : UInt64} :
    w.shared.store.status? height = some .failed ↔
      height ∈ scope store first top ∧ forwardings w.shared.blocks height = 0 := by
  have hreckoning := h.pending_eq_nil hquiet ▸ h.reckoning
  constructor
  · intro hfailed
    have hmem : height ∈ scope store first top := by
      by_contra hnot
      rw [(hreckoning.others height hnot).1] at hfailed
      exact hnot (List.mem_append_left _ (hs.mem_unfinished.2 ⟨_, hfailed, by decide⟩))
    obtain ⟨hobserved, -⟩ | ⟨-, hnone⟩ := hreckoning.settled height hmem List.not_mem_nil
    · exact absurd (hobserved.symm.trans hfailed) (by decide)
    · exact ⟨hmem, hnone⟩
  · rintro ⟨hmem, hnone⟩
    obtain ⟨-, hone⟩ | ⟨hfailed, -⟩ := hreckoning.settled height hmem List.not_mem_nil
    · exact absurd (hnone.symm.trans hone) Nat.zero_ne_one
    · exact hfailed

/-- Nothing is pending between rounds, so every height in the scope is settled. -/
theorem Sound.quiet (h : w.Sound s store first top) (hs : store.Ordered)
    (hrows : ∀ row ∈ store.rows, row.1 ≤ first) (hquiet : w.IsQuiet) :
    w.Accounted store first top := by
  have hreckoning := h.pending_eq_nil hquiet ▸ h.reckoning
  exact {
    status := fun height hmem => hreckoning.settled height hmem List.not_mem_nil
    observed := fun height hobserved => by
      have hnot : height ∉ scope store first top := fun hmem =>
        not_observed_of_mem_scope hs hrows hmem hobserved
      exact (hreckoning.others height hnot).imp_left fun hsame => hsame.trans hobserved
    unfinished := by
      -- Both lists ascend, so it is enough that they have the same heights.
      refine h.ordered.pairwise_unfinished.eq_of_mem_iff
        ((pairwise_scope hs hrows).filter _) fun height => ?_
      rw [h.mem_unfinished_iff_failed hs hquiet, h.failed_iff_unforwarded hs hquiet,
        List.mem_filter, decide_eq_true_eq]
      rfl
    failed := by
      refine h.ordered.pairwise_failed.eq_of_mem_iff h.ordered.pairwise_unfinished
        fun height => ?_
      rw [h.ordered.mem_failed, h.mem_unfinished_iff_failed hs hquiet] }

/-! ## Progress -/

/-- The steps that are left to the tasks before failed heights are due, at most. -/
def effort (store : Store) (first top : UInt64) (w : Watch) : Nat :=
  5 * (2 * (w.scan.toDo store.unfinished first top).length + 2 * w.polls.length + w.scan.rank) +
    5 * w.reoffer.left.length + (4 * w.shared.queue.length + w.worker.rank)

theorem Sound.steps (h : w.Sound s store first top) (hs : store.Ordered)
    (hfirst : store.position.getD s.settings.startHeight = first)
    (hscope : ∀ height ∈ scope store first top, height ≤ Store.maxHeight)
    (hsteps : Relation.ReflTransGen (Step s o) w w') : w'.Sound s store first top :=
  keeps_run (fun _ _ hw hstep => hw.step hs hfirst hscope hstep) h hsteps

/-- The steps of the scan other than polls leave less to do. -/
theorem Sound.effort_scan_lt (h : w.Sound s store first top)
    (hfirst : store.position.getD s.settings.startHeight = first) {stride : Stride Scan}
    (hpoll : ∀ position, w.scan ≠ .polling position)
    (hgo : w.shared.go? (s.network o w.shared) [] s.turn w.scan = some stride) :
    effort store first top { w with shared := stride.surroundings, scan := stride.stage } <
      w.effort store first top := by
  have hstride := Scan.strides_of_go? h.works h.course hpoll hgo
  obtain ⟨-, htoDo⟩ := hstride.toDo h.course fun he =>
    ⟨(h.early he).1 ▸ hfirst, congrArg Store.unfinished (h.early he).1⟩
  have hrank := hstride.rank_lt
  have hoffered : (stride.deeds.filterMap Deed.offered?).length ≤ 1 := hstride.length_offered_le
  rw [effort, effort, htoDo, hstride.queue_eq, List.length_append, List.length_append]
  dsimp only
  omega

/-- As long as the tasks are not quiet, one of them can go on. -/
theorem Sound.exists_effort_lt (h : w.Sound s store first top)
    (hfirst : store.position.getD s.settings.startHeight = first)
    (hscope : ∀ height ∈ scope store first top, height ≤ Store.maxHeight)
    (hquiet : ¬ w.IsQuiet) (hdue : w.shared.isDue = false) (hreading : w.reoffer ≠ .reading) :
    ∃ w', Relation.ReflTransGen (Step s o) w w' ∧ w'.rounds = w.rounds ∧
      w'.shared.isDue = false ∧ w'.reoffer ≠ .reading ∧
      w'.effort store first top < w.effort store first top := by
  by_cases hbusy : w.worker ≠ .idle ∨ w.shared.queue ≠ []
  · obtain ⟨stride, hgo⟩ : ∃ stride, w.shared.go? (s.network o w.shared) [] Work.turn w.worker =
        some stride := h.worker.exists_go? h.works (h.hand_le hscope) hbusy
    have hstride := Work.strides_of_go? h.works rfl h.worker (h.hand_le hscope) hgo
    refine ⟨_, .single (.work w [] stride hgo), rfl, hstride.isDue_eq.trans hdue, hreading, ?_⟩
    exact Nat.add_lt_add_left hstride.rank_lt _
  obtain ⟨hidle, hempty⟩ : w.worker = .idle ∧ w.shared.queue = [] := by
    simpa [not_or] using hbusy
  have hroom : w.shared.queue.length < w.shared.capacity := hempty ▸ h.room
  by_cases hsettled : w.IsSettled
  · -- Nothing is left but to offer failed heights again.
    obtain ⟨reoffer, hreoffer⟩ : ∃ reoffer, w.reoffer = reoffer := ⟨_, rfl⟩
    cases reoffer with
    | waiting => exact absurd ⟨hsettled, hdue, hreoffer, hempty, hidle⟩ hquiet
    | reading => exact absurd hreoffer hreading
    | offering height more =>
      have hgo : w.shared.go? (s.network o w.shared) [] Reoffer.turn w.reoffer =
          some ⟨w.shared.enqueue height, [.offered height], [.offeredAgain],
            Reoffer.offerAll more⟩ := by
        rw [hreoffer]
        exact (h.works.go?_offer rfl).trans (if_pos hroom)
      refine ⟨_, .single (.reoffer w _ hgo), rfl, hdue, Reoffer.offerAll_ne_reading _, ?_⟩
      show _ + 5 * (Reoffer.offerAll more).left.length +
        (4 * (w.shared.queue ++ [height]).length + _) < _
      rw [effort, hreoffer, Reoffer.left_offerAll, List.length_append]
      simp only [Reoffer.left, List.length_cons, List.length_nil]
      omega
    | ended =>
      exact absurd hreoffer (h.reoffer.elim (fun hwaiting => hwaiting ▸ nofun) And.right)
  by_cases hpoll : ∃ position, w.scan = .polling position
  · obtain ⟨position, hscan⟩ := hpoll
    obtain ⟨replies, polls, hpolls⟩ : ∃ replies polls, w.polls = replies :: polls :=
      List.exists_cons_of_ne_nil fun hnil => hsettled ⟨hnil, position, .inl hscan⟩
    have hgo : w.shared.go? (s.network o w.shared) replies s.turn w.scan = _ :=
      hscan ▸ Scanner.go?_polling h.works position replies
    refine ⟨_, .single (.poll w position replies polls _ hscan hpolls hgo), rfl, hdue,
      hreading, ?_⟩
    have hcourse := h.course
    rw [hpolls, hscan] at hcourse
    obtain ⟨-, htoDo⟩ :=
      hcourse.polled (h.heads replies (hpolls ▸ List.mem_cons_self)) store.unfinished
    have hrank : (Scan.polled position (s.told replies)).rank ≤ 1 := Scan.rank_polled_le _
    rw [effort, effort, hpolls, hscan, List.length_cons, htoDo]
    dsimp only
    omega
  · -- The worker has made room, and once time has passed the scan goes on.
    have hpoll' : ∀ position, w.scan ≠ .polling position := not_exists.1 hpoll
    have hready : Sound s store first top
        { w with shared := { w.shared with isRested := true } } :=
      { h with works := h.works.frame .. }
    obtain ⟨stride, hgo⟩ : ∃ stride, Surroundings.go? { w.shared with isRested := true }
        (s.network o w.shared) [] s.turn w.scan = some stride :=
      hready.course.ascends.exists_go? hroom rfl hpoll'
    have hstride := Scan.strides_of_go? hready.works hready.course hpoll' hgo
    have hscan := Step.scan { w with shared := { w.shared with isRested := true } } stride
      hpoll' hgo
    exact ⟨_, (Relation.ReflTransGen.single (.rested w)).tail hscan, rfl,
      hstride.isDue_eq.trans hdue, hreading, hready.effort_scan_lt hfirst hpoll' hgo⟩

/-- A watch in the middle of a round, whose failed heights have been read. -/
structure Within (s : Scanner) (store : Store) (first top : UInt64) (rounds : Nat) (w : Watch) :
    Prop where
  sound : w.Sound s store first top
  rounds : w.rounds = rounds
  isDue : w.shared.isDue = false
  reoffer : w.reoffer ≠ .reading

/-- From any state of a round, its end can be reached. -/
theorem Sound.quiets (h : w.Sound s store first top) (hs : store.Ordered)
    (hfirst : store.position.getD s.settings.startHeight = first)
    (hscope : ∀ height ∈ scope store first top, height ≤ Store.maxHeight)
    (hdue : w.shared.isDue = false) (hreading : w.reoffer ≠ .reading) :
    ∃ w', Relation.ReflTransGen (Step s o) w w' ∧ w'.rounds = w.rounds ∧ w'.IsQuiet := by
  have hless : ∀ w' : Watch, w'.Within s store first top w.rounds → ¬ w'.IsQuiet →
      ∃ w'', Relation.ReflTransGen (Step s o) w' w'' ∧ w''.Within s store first top w.rounds ∧
        w''.effort store first top < w'.effort store first top := by
    intro w' hw hquiet
    obtain ⟨w'', hsteps, hrounds, hdue, hreading, hlt⟩ :=
      hw.sound.exists_effort_lt (o := o) hfirst hscope hquiet hw.isDue hw.reoffer
    exact ⟨w'', hsteps, ⟨hw.sound.steps hs hfirst hscope hsteps, hrounds.trans hw.rounds, hdue,
      hreading⟩, hlt⟩
  obtain ⟨w', hsteps, hw, hquiet⟩ :=
    reaches_end (effort store first top) hless ⟨h, rfl, hdue, hreading⟩
  exact ⟨w', hsteps, hw.rounds, hquiet⟩

/-- Failed heights that are due can be read at once. -/
theorem Sound.reads (h : w.Sound s store first top) :
    ∃ w', Relation.ReflTransGen (Step s o) w w' ∧ w'.rounds = w.rounds ∧
      w'.shared.isDue = false ∧ w'.reoffer ≠ .reading := by
  have read : ∀ w : Watch, w.shared.Works → w.reoffer = .reading → w.shared.isDue = false →
      ∃ w', Step s o w w' ∧ w'.rounds = w.rounds ∧ w'.shared.isDue = false ∧
        w'.reoffer ≠ .reading := by
    intro w hworks hreading hdue
    have hgo : w.shared.go? (s.network o w.shared) [] Reoffer.turn w.reoffer =
        some ⟨w.shared.called .readFailed, [], [], Reoffer.offerAll w.shared.store.failed⟩ := by
      rw [hreading, hworks.go?_readFailed rfl]
    exact ⟨_, .reoffer w _ hgo, rfl, hdue, Reoffer.offerAll_ne_reading _⟩
  obtain hwaiting | ⟨hdue, -⟩ := h.reoffer
  · cases hdue : w.shared.isDue with
    | false => exact ⟨w, .refl, rfl, hdue, hwaiting ▸ nofun⟩
    | true =>
      have hgo : w.shared.go? (s.network o w.shared) [] Reoffer.turn w.reoffer =
          some ⟨{ w.shared with isDue := false }, [], [], .reading⟩ := by
        rw [hwaiting]
        exact (h.works.go?_awaitDue rfl).trans (if_pos hdue)
      obtain ⟨w', hstep, hrounds, hdue', hreading⟩ :=
        read { w with shared := { w.shared with isDue := false }, reoffer := .reading }
          (h.works.frame ..) rfl rfl
      exact ⟨w', (Relation.ReflTransGen.single (.reoffer w _ hgo)).tail hstep, hrounds, hdue',
        hreading⟩
  · by_cases hreading : w.reoffer = .reading
    · obtain ⟨w', hstep, hrest⟩ := read w h.works hreading hdue
      exact ⟨w', .single hstep, hrest⟩
    · exact ⟨w, .refl, rfl, hdue, hreading⟩

theorem Reachable.sound {capacity : Nat} {polls : List (List Http.Reply)}
    (h : Reachable s o store capacity polls w) (hs : store.Ordered)
    (hfirst : store.position.getD s.settings.startHeight = first)
    (hrows : ∀ row ∈ store.rows, row.1 ≤ first) (hcapacity : 0 < capacity)
    (hheads : ∀ replies ∈ polls, ∀ head, s.told replies = .ok head → head ≤ Store.maxHeight)
    (hscope : ∀ height ∈ scope store first (summit first (polls.map s.told)),
      height ≤ Store.maxHeight) :
    w.Sound s store first (summit first (polls.map s.told)) := by
  induction h with
  | start => exact sound_start hs hrows hcapacity hheads
  | step _ hstep ih => exact ih.step hs hfirst hscope hstep

/-- A round can always get on to its end. In the end each height that was left over, or
    that lies behind the first position and up to the highest head that was told, was
    handed on exactly once if it is marked as observed, and never if it is marked as
    failed; and the heights that were not handed on are those that would be offered
    again. -/
theorem exactly_once {capacity : Nat} {polls : List (List Http.Reply)} (hs : store.Ordered)
    (hfits : store.Fits) (hcapacity : 0 < capacity)
    (hrows : ∀ row ∈ store.rows, row.1 ≤ store.position.getD s.settings.startHeight)
    (hheads : ∀ replies ∈ polls, ∀ head, s.told replies = .ok head → head ≤ Store.maxHeight) :
    let first := store.position.getD s.settings.startHeight
    let top := summit first (polls.map s.told)
    ∀ w, Reachable s o store capacity polls w →
      (∃ w', Relation.ReflTransGen (Step s o) w w' ∧ w'.rounds = w.rounds ∧ w'.IsQuiet) ∧
        (w.IsQuiet → w.Accounted store first top) := by
  intro first top w hw
  have hscope : ∀ height ∈ scope store first top, height ≤ Store.maxHeight := by
    intro height hmem
    refine le_maxHeight_of_mem_scope hs hfits (fun head hhead => ?_) hmem
    obtain ⟨replies, hreplies, htold⟩ := List.mem_map.1 hhead
    exact hheads replies hreplies head htold
  have hsound : w.Sound s store first top := hw.sound hs rfl hrows hcapacity hheads hscope
  obtain ⟨w', hsteps, hrounds, hdue, hreading⟩ := hsound.reads (o := o)
  obtain ⟨w'', hsteps', hrounds', hquiet⟩ :=
    (hsound.steps hs rfl hscope hsteps).quiets (o := o) hs rfl hscope hdue hreading
  exact ⟨⟨w'', hsteps.trans hsteps', hrounds'.trans hrounds, hquiet⟩, hsound.quiet hs hrows⟩

/-! ## Moves -/

/-- Whether nothing is left to do until failed heights are due. -/
def isQuiet (w : Watch) : Bool :=
  (match w.scan with
    | .polling _ | .resting _ => w.polls.isEmpty
    | _ => false) &&
  decide (w.shared.isDue = false ∧ w.reoffer = .waiting ∧ w.shared.queue = [] ∧ w.worker = .idle)

theorem isQuiet_of (h : w.isQuiet) : w.IsQuiet := by
  obtain ⟨hscan, hrest⟩ := Bool.and_eq_true_iff.1 h
  obtain ⟨hdue, hreoffer, hqueue, hworker⟩ := of_decide_eq_true hrest
  refine ⟨?_, hdue, hreoffer, hqueue, hworker⟩
  split at hscan
  · exact ⟨List.isEmpty_iff.1 hscan, _, .inl ‹_›⟩
  · exact ⟨List.isEmpty_iff.1 hscan, _, .inr ‹_›⟩
  · cases hscan

/-- What may come next in a run. -/
inductive Move
  /-- The scan goes on by anything but a poll. -/
  | scan
  /-- The scan polls the chain head. -/
  | poll
  /-- The worker goes on, with the replies if it asks for a block. -/
  | work (replies : List Http.Reply)
  /-- The offering of failed heights goes on. -/
  | reoffer
  /-- Failed heights are due. -/
  | due

/-- How a run goes on by a move, if it can. -/
def move? (s : Scanner) (o : Observer) (w : Watch) : Move → Option Watch
  | .scan =>
    match w.scan with
    | .polling _ => none
    | _ => (w.shared.go? (s.network o w.shared) [] s.turn w.scan).map fun stride =>
      { w with shared := stride.surroundings, scan := stride.stage }
  | .poll =>
    match w.scan, w.polls with
    | .polling _, replies :: polls =>
      (w.shared.go? (s.network o w.shared) replies s.turn w.scan).map fun stride =>
        { w with shared := stride.surroundings, scan := stride.stage, polls := polls }
    | _, _ => none
  | .work replies =>
    (w.shared.go? (s.network o w.shared) replies Work.turn w.worker).map fun stride =>
      { w with shared := stride.surroundings, worker := stride.stage }
  | .reoffer =>
    (w.shared.go? (s.network o w.shared) [] Reoffer.turn w.reoffer).map fun stride =>
      { w with shared := stride.surroundings, reoffer := stride.stage }
  | .due =>
    if w.isQuiet then
      some { w with shared := { w.shared with isDue := true }, rounds := w.rounds + 1 }
    else none

theorem step_of_move? {move : Move} (h : w.move? s o move = some w') : Step s o w w' := by
  cases move with
  | scan =>
    rw [move?] at h
    split at h
    · cases h
    · next hscan =>
      obtain ⟨stride, hgo, rfl⟩ := Option.map_eq_some_iff.1 h
      exact .scan w stride hscan hgo
  | poll =>
    rw [move?] at h
    split at h
    · next hscan hpolls =>
      obtain ⟨stride, hgo, rfl⟩ := Option.map_eq_some_iff.1 h
      exact .poll w _ _ _ stride hscan hpolls hgo
    · cases h
  | work replies =>
    obtain ⟨stride, hgo, rfl⟩ := Option.map_eq_some_iff.1 h
    exact .work w replies stride hgo
  | reoffer =>
    obtain ⟨stride, hgo, rfl⟩ := Option.map_eq_some_iff.1 h
    exact .reoffer w stride hgo
  | due =>
    obtain ⟨hquiet, hnext⟩ := Option.ite_none_right_eq_some.1 h
    exact Option.some.inj hnext ▸ .due w (isQuiet_of hquiet)

/-- Where some moves lead, if they can be made. -/
def moves? (s : Scanner) (o : Observer) (moves : List Move) (w : Watch) : Option Watch :=
  moves.foldlM (move? s o) w

/-- What is checked of where moves lead holds in some run. -/
theorem exists_reachable_of_any {capacity : Nat} {polls : List (List Http.Reply)}
    {moves : List Move} {check : Watch → Bool}
    (h : (moves? s o moves (start store capacity polls)).any check) :
    ∃ w, Reachable s o store capacity polls w ∧ check w := by
  have reach : ∀ (moves : List Move) (w w' : Watch), Reachable s o store capacity polls w →
      moves? s o moves w = some w' → Reachable s o store capacity polls w' := by
    intro moves
    induction moves with
    | nil => intro w w' hw h; exact Option.some.inj h ▸ hw
    | cons move moves ih =>
      intro w w' hw h
      rw [moves?, List.foldlM_cons] at h
      obtain ⟨next, hnext, hrest⟩ := Option.bind_eq_some_iff.1 h
      exact ih next w' (hw.step (step_of_move? hnext)) hrest
  obtain ⟨w, hw, hcheck⟩ := (Option.any_eq_true _ _).1 h
  exact ⟨w, reach moves _ w .start hw, hcheck⟩

/-- The reply of a node with the block of a height, which may be its chain head. -/
def blockReply (height : String) : Http.Reply := .answered .ok <| Utf8.encode <|
  "\x7b\"result\":\x7b\"block\":\x7b\"header\":\x7b\"height\":\"" ++ height ++ "\"\x7d\x7d\x7d\x7d"

/-- A node whose chain has come to height 6 is polled once, at its second attempt. Of a run
    from height 4 on, in which 3 was observed before, the worker observes 5, and fails to
    observe 2 and 6. In the first round 2 is observed, and 6 fails again, as in the second. -/
theorem exactly_once_in_two_rounds :
    let s : Scanner := ⟨"http://node", ScanSettings.standard⟩
    let o : Observer :=
      ⟨"http://node", .tendermint, { ScanSettings.standard.policy with maxAttempts := 1 }, 1⟩
    let store : Store := ⟨some 4, [(2, .failed), (3, .observed)]⟩
    ∃ w, Reachable s o store 2 [[.lost, blockReply "6"]] w ∧ w.rounds = 2 ∧ w.IsQuiet ∧
      w.shared.blocks = [⟨5, []⟩, ⟨2, []⟩] ∧
      w.shared.store.rows = [(2, .observed), (3, .observed), (5, .observed), (6, .failed)] ∧
      w.Accounted store 4 6 := by
  intro s o store
  have hheads := s.told_le_of_all (by decide +kernel :
    [[.lost, blockReply "6"]].all fun replies =>
      (s.told replies).toOption.all (· ≤ Store.maxHeight))
  have hsummit : summit 4 ([[.lost, blockReply "6"]].map s.told) = 6 := by decide +kernel
  have hs : store.Ordered := by decide
  have hfits : store.Fits := by decide
  let fails : List Move := [.work [], .work [.lost], .work []]
  let succeeds (height : String) : List Move :=
    [.work [], .work [blockReply height], .work [], .work []]
  let moves : List Move := List.flatten [
    [.scan, .scan, .scan, .poll, .scan, .scan, .scan], fails, [.scan, .scan, .scan],
    succeeds "5", fails,
    [.due, .reoffer, .reoffer, .reoffer, .reoffer], succeeds "2", fails,
    [.due, .reoffer, .reoffer, .reoffer], fails]
  have hcheck : (moves? s o moves (start store 2 [[.lost, blockReply "6"]])).any fun w =>
      w.isQuiet && decide (w.rounds = 2 ∧ w.shared.blocks = [⟨5, []⟩, ⟨2, []⟩] ∧
        w.shared.store.rows = [(2, .observed), (3, .observed), (5, .observed), (6, .failed)]) := by
    decide +kernel
  obtain ⟨w, hw, hcheck⟩ := exists_reachable_of_any hcheck
  obtain ⟨hquiet, hend⟩ := Bool.and_eq_true_iff.1 hcheck
  obtain ⟨hrounds, hblocks, hrows⟩ := of_decide_eq_true hend
  have hquiet := isQuiet_of hquiet
  have haccounted := (exactly_once (s := s) (o := o) hs hfits Nat.zero_lt_two (by decide) hheads
    w hw).2 hquiet
  exact ⟨w, hw, hrounds, hquiet, hblocks, hrows, hsummit ▸ haccounted⟩

end ChainRelay.Watch
