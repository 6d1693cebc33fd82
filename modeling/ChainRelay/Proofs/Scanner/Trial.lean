import ChainRelay.Proofs.Scanner.Ascent
import ChainRelay.Proofs.Scanner.Sweep

/-!
# Trials

A trial is one run of the scan in which anything may go wrong: operations of the store
fail, heights are told that cannot be stored, and at any time all tasks are stopped or
the consumer goes away. Until then the consumer takes heights and notes of them what
it likes.

If a write fails, that is the end of the scan. The first write that is bound to fail
(`FirstFault`) says all of how a trial ends that is not cut off otherwise: up to which
height the scan offers and marks heights, the position that it leaves behind, and its
failure (`CutOff`). The invariant `Sound` speaks of the last stage at which the scan
stood before it ended; what is known of that stage is `Stands`.
-/

namespace ChainRelay

namespace Trial

/-- A run before its first step. -/
def start (fails : Act → Option Failure) (store : Store) (capacity : Nat)
    (polls : List (List Http.Reply)) : Sweep where
  shared := { Surroundings.start store capacity with fails := fails }
  scan := .starting
  polls := polls
  deeds := []

/-- What may happen in a run. -/
inductive Step (s : Scanner) (o : Observer) : Sweep → Sweep → Prop
  /-- The scan goes on by anything but a poll. -/
  | scan (w : Sweep) (stride : Stride Scan) :
      (w.shared.isStopped ∨ ∀ position, w.scan ≠ .polling position) →
      w.shared.go? (s.network o w.shared) [] s.turn w.scan = some stride → Step s o w (w.go stride)
  /-- The scan polls the chain head. -/
  | poll (w : Sweep) (position : UInt64) (replies : List Http.Reply)
      (polls : List (List Http.Reply)) (stride : Stride Scan) :
      w.shared.isStopped = false → w.scan = .polling position → w.polls = replies :: polls →
      w.shared.go? (s.network o w.shared) replies s.turn w.scan = some stride →
      Step s o w { w.go stride with polls := polls }
  /-- The scan has rested for long enough. -/
  | rested (w : Sweep) : Step s o w { w with shared := { w.shared with isRested := true } }
  /-- The consumer takes a height. -/
  | take (w : Sweep) (height : UInt64) (rest : List UInt64) : w.shared.queue = height :: rest →
      Step s o w { w with shared := { w.shared with queue := rest } }
  /-- The consumer notes what has become of a height. -/
  | report (w : Sweep) (height : UInt64) (status : BlockStatus) (store : Store) :
      .offered height ∈ w.deeds → status ≠ .handedOut →
      w.shared.store.setStatus height status = .ok store →
      Step s o w { w with
        shared := { w.shared with store := store }, deeds := w.deeds ++ [.noted height status] }
  /-- All tasks are stopped. -/
  | stop (w : Sweep) : Step s o w { w with shared := { w.shared with isStopped := true } }
  /-- The consumer goes away. -/
  | abandon (w : Sweep) : Step s o w { w with shared := { w.shared with isAbandoned := true } }

/-- What may become of a run that found some store. -/
inductive Reachable (s : Scanner) (o : Observer) (fails : Act → Option Failure) (store : Store)
    (capacity : Nat) (polls : List (List Http.Reply)) : Sweep → Prop
  | start : Reachable s o fails store capacity polls (start fails store capacity polls)
  | step {w w' : Sweep} : Reachable s o fails store capacity polls w → Step s o w w' →
      Reachable s o fails store capacity polls w'

/-! ## Invariant -/

/-- What is known when a scan from `first` to `top` has come to a stage, where `heads` are
    still to be told. -/
structure Stands (fails : Act → Option Failure) (store : Store) (first top : UInt64)
    (again : List UInt64) (heads : List (Outcome UInt64)) (last : Scan) (w : Sweep) : Prop where
  failing : w.shared.fails = fails
  early : last.IsEarly → w.shared.store = store ∧ w.deeds = []
  ascends : last.Ascends first top heads
  /-- What the scan has done and what it has yet to do are the same list at all times. -/
  deeds : w.deeds.filter Deed.isOfScan ++ last.toDo again first top =
    again.map .offered ++ Scan.handOuts first top
  status : ∀ height, w.shared.store.status? height =
    Deed.statusAfter w.deeds height (store.status? height)
  position : w.shared.store.position =
    if last.position first = first then store.position else some (last.position first)
  /-- No write so far has failed. -/
  kept : ∀ height (write : Scan.Write), write.act height ∈ last.calls first →
    (write.act height).fault? fails = none

/-- What holds throughout a trial. -/
inductive Sound (s : Scanner) (fails : Act → Option Failure) (store : Store) (first top : UInt64)
    (again : List UInt64) (w : Sweep) : Prop
  /-- The scan has not ended. -/
  | going : w.shared.calls = w.scan.calls first →
      Stands fails store first top again (w.polls.map s.told) w.scan w →
      Sound s fails store first top again w
  /-- The scan has given up where it had to wait. -/
  | left (last : Scan) (heads : List (Outcome UInt64)) : last.Waits →
      w.shared.isStopped ∨ w.shared.isAbandoned → w.scan = .ended (.ok ()) →
      w.shared.calls = last.calls first → Stands fails store first top again heads last w →
      Sound s fails store first top again w
  /-- A write has failed. -/
  | broken (last : Scan) (heads : List (Outcome UInt64)) (height : UInt64) (write : Scan.Write)
      (failure : Failure) : last.write? = some (height, write) →
      (write.act height).fault? fails = some failure → w.scan = Scan.unkept height failure →
      w.shared.calls = last.calls first ++ [write.act height] →
      Stands fails store first top again heads last w → Sound s fails store first top again w

variable {s : Scanner} {o : Observer} {fails : Act → Option Failure} {store : Store}
  {capacity : Nat} {polls : List (List Http.Reply)} {first top : UInt64} {again : List UInt64}
  {heads : List (Outcome UInt64)} {last : Scan} {w w' : Sweep}

theorem sound_start : Sound s fails store first (summit first (polls.map s.told)) again
    (start fails store capacity polls) :=
  .going rfl {
    failing := rfl
    early := fun _ => ⟨rfl, rfl⟩
    ascends := rfl
    deeds := rfl
    status := fun _ => rfl
    position := (if_pos rfl).symm
    kept := fun _ _ h => absurd h List.not_mem_nil }

/-- What is known is of the store and of what was done to heights. -/
theorem Stands.of_eq (h : Stands fails store first top again heads last w)
    (hfails : w'.shared.fails = w.shared.fails) (hstore : w'.shared.store = w.shared.store)
    (hdeeds : w'.deeds = w.deeds) : Stands fails store first top again heads last w' where
  failing := hfails.trans h.failing
  early := hstore ▸ hdeeds ▸ h.early
  ascends := h.ascends
  deeds := hdeeds ▸ h.deeds
  status := hstore ▸ hdeeds ▸ h.status
  position := hstore ▸ h.position
  kept := h.kept

/-- What the consumer notes is not for the scan to do. -/
theorem Stands.report (h : Stands fails store first top again heads last w) {height : UInt64}
    {status : BlockStatus} {after : Store} (hoffered : .offered height ∈ w.deeds)
    (hstatus : status ≠ .handedOut) (hset : w.shared.store.setStatus height status = .ok after) :
    Stands fails store first top again heads last { w with
      shared := { w.shared with store := after }, deeds := w.deeds ++ [.noted height status] } where
  failing := h.failing
  early he := by
    -- Nothing was offered yet, so there is nothing to note of.
    rw [(h.early he).2] at hoffered
    exact absurd hoffered List.not_mem_nil
  ascends := h.ascends
  deeds := by
    rw [Deed.filter_isOfScan_append_noted hstatus]
    exact h.deeds
  status other := by
    rw [Store.status?_eq_of_setStatus hset, h.status, Deed.statusAfter_append]
  position := (Store.position_setStatus hset).trans h.position
  kept := h.kept

/-- A step of the scan leads to the next stage. -/
theorem Stands.go (h : Stands fails store first top again heads last w) (stride : Stride Scan)
    {heads' : List (Outcome UInt64)}
    (hfails : stride.surroundings.fails = w.shared.fails)
    (hearly : stride.stage.IsEarly →
      last.IsEarly ∧ stride.surroundings.store = w.shared.store ∧ stride.deeds = [])
    (hascends : stride.stage.Ascends first top heads')
    (htoDo : last.toDo again first top = stride.deeds ++ stride.stage.toDo again first top)
    (hdeeds : ∀ deed ∈ stride.deeds, deed.isOfScan)
    (hstatus : ∀ height, stride.surroundings.store.status? height =
      Deed.statusAfter stride.deeds height (w.shared.store.status? height))
    (hposition : stride.surroundings.store.position =
      if stride.stage.position first = first then store.position
      else some (stride.stage.position first))
    {acts : List Act} (hcalls : stride.stage.calls first = last.calls first ++ acts)
    (hkept : ∀ height (write : Scan.Write), write.act height ∈ acts →
      (write.act height).fault? fails = none) :
    Stands fails store first top again heads' stride.stage (w.go stride) where
  failing := hfails.trans h.failing
  early he := by
    obtain ⟨hlast, hstore, hnone⟩ := hearly he
    obtain ⟨hbefore, hdone⟩ := h.early hlast
    exact ⟨hstore.trans hbefore, by rw [Sweep.go, hnone, hdone]; rfl⟩
  ascends := hascends
  deeds := by
    rw [← h.deeds, htoDo, Sweep.go, List.filter_append, List.append_assoc,
      List.filter_eq_self.2 hdeeds]
  status height := by
    rw [Sweep.go, hstatus, h.status, Deed.statusAfter_append]
  position := hposition
  kept height write hmem := by
    rw [hcalls] at hmem
    exact (List.mem_append.1 hmem).elim (h.kept height write) (hkept height write)

/-- Until it has read the store, a scan finds it as it was. -/
theorem Stands.origin_eq (h : Stands fails store first top again heads last w)
    {startHeight : UInt64} (hfirst : Scan.origin startHeight fails store = first)
    (hearly : last.IsEarly) :
    Scan.origin startHeight w.shared.fails w.shared.store = first := by
  rwa [h.failing, (h.early hearly).1]

theorem Stands.leftOver_eq (h : Stands fails store first top again heads last w)
    (hagain : Scan.leftOver fails store = again) (hearly : last.IsEarly) :
    Scan.leftOver w.shared.fails w.shared.store = again := by
  rwa [h.failing, (h.early hearly).1]

/-- A step that succeeds leads to the next stage. -/
theorem Stands.goes (h : Stands fails store first top again heads w.scan w)
    (hfirst : Scan.origin s.settings.startHeight fails store = first)
    (hagain : Scan.leftOver fails store = again) {stride : Stride Scan}
    (hstride : Scan.Strides s.settings.startHeight w.shared w.scan stride)
    (hkept : ∀ act, w.scan.operation? = some act → act.fault? w.shared.fails = none)
    (hstatus : ∀ height, stride.surroundings.store.status? height =
      Deed.statusAfter stride.deeds height (w.shared.store.status? height)) :
    Stands fails store first top again heads stride.stage (w.go stride) := by
  have hposition : w.scan = .starting →
      w.shared.store.position.getD s.settings.startHeight = first := by
    intro hscan
    rw [hscan] at hkept h
    exact Scan.getD_position_of_kept (h.origin_eq hfirst trivial) (hkept _ rfl)
  have hunfinished : ∀ position, w.scan = .resuming position →
      w.shared.store.unfinished = again := by
    intro position hscan
    rw [hscan] at hkept h
    exact Scan.unfinished_of_kept (h.leftOver_eq hagain trivial) (hkept _ rfl)
  obtain ⟨hascends, htoDo⟩ := hstride.ascends h.ascends hposition hunfinished
  refine h.go stride hstride.fails_eq hstride.early hascends htoDo hstride.isOfScan hstatus
    (hstride.position_of_ascends h.ascends hposition h.position) (hstride.calls_stage h.ascends) ?_
  intro height write hmem
  exact h.failing ▸ hkept _ (Option.mem_toList.1 hmem)

/-- A scan that cannot read its position begins where it is told to. -/
theorem Stands.unread (h : Stands fails store first top again heads .starting w)
    {startHeight : UInt64} (hfirst : Scan.origin startHeight fails store = first)
    {failure : Failure} (hfails : w.shared.fails .readPosition = some failure)
    (log : List Measurement) :
    Stands fails store first top again heads (.resuming startHeight)
      (w.go ⟨w.shared.called .readPosition, [], log, .resuming startHeight⟩) := by
  rw [h.failing] at hfails
  obtain rfl : startHeight = first := by
    rw [← hfirst, Scan.origin, hfails]
  refine h.go ⟨w.shared.called .readPosition, [], log, .resuming startHeight⟩ rfl
    (fun _ => ⟨trivial, rfl, rfl⟩) ⟨rfl, h.ascends⟩ rfl
    (fun _ hmem => absurd hmem List.not_mem_nil) (fun _ => rfl) h.position rfl ?_
  intro height write hmem
  cases write <;> simp [Scan.Write.act] at hmem

/-- A scan that cannot read what was left over does without. -/
theorem Stands.unresumed {position : UInt64}
    (h : Stands fails store first top again heads (.resuming position) w)
    (hagain : Scan.leftOver fails store = again) {failure : Failure}
    (hfails : w.shared.fails .readUnfinished = some failure) (log : List Measurement) :
    Stands fails store first top again heads (.polling position)
      (w.go ⟨w.shared.called .readUnfinished, [], log, .polling position⟩) := by
  rw [h.failing] at hfails
  obtain rfl : [] = again := by
    rw [← hagain, Scan.leftOver, hfails]
  obtain ⟨rfl, hsummit⟩ := h.ascends
  refine h.go ⟨w.shared.called .readUnfinished, [], log, .polling position⟩ rfl
    (fun he => he.elim) ⟨UInt64.le_refl _, hsummit⟩ rfl
    (fun _ hmem => absurd hmem List.not_mem_nil) (fun _ => rfl)
    h.position (Scan.callsTo_self position) ?_
  intro height write hmem
  cases write <;> simp [Scan.Write.act] at hmem

/-- The scan stays where it was when it polls and is told some head. -/
theorem Stands.polled {position : UInt64} {answer : Outcome UInt64}
    (h : Stands fails store first top again (answer :: heads) (.polling position) w)
    (log : List Measurement) :
    Stands fails store first top again heads (Scan.polled position answer)
      (w.go ⟨w.shared, [], log, Scan.polled position answer⟩) := by
  obtain ⟨hascends, htoDo⟩ := Scan.Ascends.polled h.ascends again
  refine h.go ⟨w.shared, [], log, Scan.polled position answer⟩ rfl
    (fun he => absurd he Scan.not_isEarly_polled) hascends htoDo.symm
    (fun _ hmem => absurd hmem List.not_mem_nil) (fun _ => rfl) ?_
    ((Scan.calls_polled answer).trans (List.append_nil _).symm)
    (fun _ _ hmem => absurd hmem List.not_mem_nil)
  exact (Scan.position_polled answer).symm ▸ h.position

/-- A scan that has not ended stands somewhere. -/
theorem Sound.stands (h : Sound s fails store first top again w)
    (hlive : ∀ result, w.scan ≠ .ended result) :
    w.shared.calls = w.scan.calls first ∧
      Stands fails store first top again (w.polls.map s.told) w.scan w := by
  cases h with
  | going hcalls hstands => exact ⟨hcalls, hstands⟩
  | left last heads hwaits hleave hscan => exact absurd hscan (hlive _)
  | broken last heads height write failure hwrite hfault hscan => exact absurd hscan (hlive _)

theorem Sound.scan (h : Sound s fails store first top again w)
    (hfirst : Scan.origin s.settings.startHeight fails store = first)
    (hagain : Scan.leftOver fails store = again) {stride : Stride Scan}
    (hpoll : w.shared.isStopped ∨ ∀ position, w.scan ≠ .polling position)
    (hgo : w.shared.go? (s.network o w.shared) [] s.turn w.scan = some stride) :
    Sound s fails store first top again (w.go stride) := by
  have hlive : ∀ result, w.scan ≠ .ended result := by
    intro result hscan
    rw [hscan] at hgo
    exact absurd hgo nofun
  obtain ⟨hcalls, hstands⟩ := h.stands hlive
  have hstatus := Surroundings.status?_of_go? hgo
  obtain ⟨scan, hscan⟩ : ∃ scan, w.scan = scan := ⟨_, rfl⟩
  have hmoves := Scan.moves_of_go? hpoll hgo
  rw [hscan] at hmoves
  cases hmoves with
  | goes hstride hkept =>
    rw [← hscan] at hstride hkept
    refine .going ?_ (hstands.goes hfirst hagain hstride hkept hstatus)
    show stride.surroundings.calls = stride.stage.calls first
    rw [hstride.calls_eq, hstride.calls_stage hstands.ascends, hcalls]
  | unread failure log hfails =>
    rw [hscan] at hstands hcalls
    exact .going (congrArg (· ++ [_]) hcalls) (hstands.unread hfirst hfails log)
  | unresumed position failure log hfails =>
    rw [hscan] at hstands hcalls
    refine .going ((congrArg (· ++ [_]) hcalls).trans ?_) (hstands.unresumed hagain hfails log)
    exact hstands.ascends.1 ▸ (Scan.callsTo_self _).symm
  | leaves hwaits hleave =>
    rw [hscan] at hstands hcalls
    exact .left scan _ hwaits hleave rfl hcalls (hstands.of_eq rfl rfl (List.append_nil _))
  | breaks height write failure log hwrite hfault =>
    rw [hscan] at hstands hcalls
    rw [hstands.failing] at hfault
    exact .broken scan _ height write failure hwrite hfault rfl (congrArg (· ++ [_]) hcalls)
      (hstands.of_eq rfl rfl (List.append_nil _))

theorem Sound.poll (h : Sound s fails store first top again w) {position : UInt64}
    (hstopped : w.shared.isStopped = false) (hscan : w.scan = .polling position)
    {replies : List Http.Reply} {polls : List (List Http.Reply)}
    (hpolls : w.polls = replies :: polls) {stride : Stride Scan}
    (hgo : w.shared.go? (s.network o w.shared) replies s.turn w.scan = some stride) :
    Sound s fails store first top again { w.go stride with polls := polls } := by
  obtain ⟨hcalls, hstands⟩ := h.stands (hscan ▸ nofun)
  rw [hscan, hpolls] at hstands
  rw [hscan] at hcalls hgo
  rw [Surroundings.go?_pollHead rfl, if_neg (by simp [hstopped]), Scanner.network, hstopped] at hgo
  obtain rfl := Option.some.inj hgo
  refine .going (hcalls.trans (Scan.calls_polled _).symm) ?_
  exact (hstands.polled _).of_eq rfl rfl rfl

/-- What tasks share may change as long as nothing is noted in the store. -/
theorem Sound.surround (h : Sound s fails store first top again w) {shared : Surroundings}
    (hfails : shared.fails = w.shared.fails) (hstore : shared.store = w.shared.store)
    (hcalls : shared.calls = w.shared.calls)
    (hleave : w.shared.isStopped ∨ w.shared.isAbandoned → shared.isStopped ∨ shared.isAbandoned) :
    Sound s fails store first top again { w with shared := shared } := by
  cases h with
  | going hcalls' hstands =>
    exact .going (hcalls.trans hcalls') (hstands.of_eq hfails hstore rfl)
  | left last heads hwaits hleft hscan hcalls' hstands =>
    exact .left last heads hwaits (hleave hleft) hscan (hcalls.trans hcalls')
      (hstands.of_eq hfails hstore rfl)
  | broken last heads height write failure hwrite hfault hscan hcalls' hstands =>
    exact .broken last heads height write failure hwrite hfault hscan (hcalls.trans hcalls')
      (hstands.of_eq hfails hstore rfl)

theorem Sound.report (h : Sound s fails store first top again w) {height : UInt64}
    {status : BlockStatus} {after : Store} (hoffered : .offered height ∈ w.deeds)
    (hstatus : status ≠ .handedOut) (hset : w.shared.store.setStatus height status = .ok after) :
    Sound s fails store first top again { w with
      shared := { w.shared with store := after }, deeds := w.deeds ++ [.noted height status] } := by
  cases h with
  | going hcalls hstands => exact .going hcalls (hstands.report hoffered hstatus hset)
  | left last heads hwaits hleft hscan hcalls hstands =>
    exact .left last heads hwaits hleft hscan hcalls (hstands.report hoffered hstatus hset)
  | broken last heads height write failure hwrite hfault hscan hcalls hstands =>
    exact .broken last heads height write failure hwrite hfault hscan hcalls
      (hstands.report hoffered hstatus hset)

theorem Sound.step (h : Sound s fails store first top again w)
    (hfirst : Scan.origin s.settings.startHeight fails store = first)
    (hagain : Scan.leftOver fails store = again) (hstep : Step s o w w') :
    Sound s fails store first top again w' := by
  cases hstep with
  | scan stride hpoll hgo => exact h.scan hfirst hagain hpoll hgo
  | poll position replies polls stride hstopped hscan hpolls hgo =>
    exact h.poll hstopped hscan hpolls hgo
  | rested => exact h.surround rfl rfl rfl id
  | take => exact h.surround rfl rfl rfl id
  | report height status after hoffered hstatus hset => exact h.report hoffered hstatus hset
  | stop => exact h.surround rfl rfl rfl fun _ => .inl rfl
  | abandon => exact h.surround rfl rfl rfl fun _ => .inr rfl

/-! ## Where a trial is cut off -/

/-- A trial was cut off at a height, by the last operations of the store `calls`. Besides
    what was left over, the heights up to `offeredTo` were offered and those up to `markedTo`
    marked. -/
structure CutOff (store : Store) (first : UInt64) (again : List UInt64)
    (height offeredTo markedTo : UInt64) (calls : List Act) (w : Sweep) : Prop where
  calls : w.shared.calls = Scan.callsTo first (height - 1) ++ calls
  offered : w.deeds.filterMap Deed.offered? = again ++ heights first offeredTo
  handedOut : w.deeds.filterMap Deed.handedOut? = heights first markedTo
  status : ∀ other, w.shared.store.status? other =
    Deed.statusAfter w.deeds other (store.status? other)
  /-- A height that was marked is still handed out if the consumer noted nothing of it. -/
  status_of_mem : ∀ other ∈ heights first markedTo,
    (∀ status, .noted other status ∈ w.deeds → status = .handedOut) →
      w.shared.store.status? other = some .handedOut
  /-- Any other height is as it was if the consumer noted nothing of it. -/
  status_of_not_mem : ∀ other ∉ heights first markedTo,
    (∀ status, .noted other status ∈ w.deeds → status = .handedOut) →
      w.shared.store.status? other = store.status? other
  position : w.shared.store.position =
    if height = first + 1 then store.position else some (height - 1)

/-- A scan that stands somewhere on its way has offered the heights that it has not yet to
    offer. -/
theorem Stands.offered (h : Stands fails store first top again heads last w) {offeredTo : UInt64}
    (hle : first ≤ offeredTo) (hle' : offeredTo ≤ top)
    (htoDo : (last.toDo again first top).filterMap Deed.offered? = heights offeredTo top) :
    w.deeds.filterMap Deed.offered? = again ++ heights first offeredTo := by
  have hall := congrArg (List.filterMap Deed.offered?) h.deeds
  rw [List.filterMap_append, Deed.filterMap_offered?_isOfScan, htoDo, Scan.offered_handOuts,
    ← heights_append hle hle', ← List.append_assoc] at hall
  exact List.append_cancel_right hall

theorem Stands.handedOut (h : Stands fails store first top again heads last w) {markedTo : UInt64}
    (hle : first ≤ markedTo) (hle' : markedTo ≤ top)
    (htoDo : (last.toDo again first top).filterMap Deed.handedOut? = heights markedTo top) :
    w.deeds.filterMap Deed.handedOut? = heights first markedTo := by
  have hall := congrArg (List.filterMap Deed.handedOut?) h.deeds
  rw [List.filterMap_append, Deed.filterMap_handedOut?_isOfScan, htoDo, Scan.handedOut_handOuts,
    ← heights_append hle hle'] at hall
  exact List.append_cancel_right hall

/-- What is known of a scan on its way from a position to the next. -/
theorem Stands.cutOff (h : Stands fails store first top again heads last w) {position : UInt64}
    (hposition : last.position first = position) {offeredTo markedTo : UInt64} {calls : List Act}
    (hcalls : w.shared.calls = Scan.callsTo first position ++ calls)
    (hoffered : w.deeds.filterMap Deed.offered? = again ++ heights first offeredTo)
    (hmarked : w.deeds.filterMap Deed.handedOut? = heights first markedTo) :
    CutOff store first again (position + 1) offeredTo markedTo calls w where
  calls := by rw [UInt64.add_sub_cancel, hcalls]
  offered := hoffered
  handedOut := hmarked
  status := h.status
  status_of_mem other hmem honly := by
    rw [h.status]
    exact Deed.statusAfter_of_handedOut (hmarked ▸ hmem) honly
  status_of_not_mem other hmem honly := by
    rw [h.status]
    exact Deed.statusAfter_of_not_handedOut (hmarked ▸ hmem) honly
  position := by
    rw [h.position, hposition, UInt64.add_sub_cancel]
    simp only [UInt64.add_left_inj]

variable {position head : UInt64} {calls : List Act}

theorem Stands.cutOff_marking
    (h : Stands fails store first top again heads (.marking position head) w)
    (hcalls : w.shared.calls = Scan.callsTo first position ++ calls) :
    CutOff store first again (position + 1) position position calls w := by
  have hle := UInt64.le_of_lt h.ascends.lt_top
  exact h.cutOff rfl hcalls (h.offered h.ascends.1 hle (Scan.offered_handOuts [] _ _))
    (h.handedOut h.ascends.1 hle (Scan.handedOut_handOuts [] _ _))

theorem Stands.cutOff_offering
    (h : Stands fails store first top again heads (.offering position head) w)
    (hcalls : w.shared.calls = Scan.callsTo first position ++ calls) :
    CutOff store first again (position + 1) position (position + 1) calls w := by
  have hclimbs : (Scan.marking position head).Ascends first top heads := h.ascends
  have hnext := UInt64.le_trans hclimbs.1 (UInt64.le_of_lt (lt_succ hclimbs.lt_top))
  refine h.cutOff rfl hcalls (h.offered hclimbs.1 (UInt64.le_of_lt hclimbs.lt_top) ?_)
    (h.handedOut hnext (succ_le hclimbs.lt_top) (Scan.handedOut_handOuts [] _ _))
  rw [heights_eq_cons hclimbs.lt_top]
  exact congrArg (_ :: ·) (Scan.offered_handOuts [] _ _)

theorem Stands.cutOff_advancing
    (h : Stands fails store first top again heads (.advancing position head) w)
    (hcalls : w.shared.calls = Scan.callsTo first position ++ calls) :
    CutOff store first again (position + 1) (position + 1) (position + 1) calls w := by
  have hclimbs : (Scan.marking position head).Ascends first top heads := h.ascends
  have hnext := UInt64.le_trans hclimbs.1 (UInt64.le_of_lt (lt_succ hclimbs.lt_top))
  exact h.cutOff rfl hcalls
    (h.offered hnext (succ_le hclimbs.lt_top) (Scan.offered_handOuts [] _ _))
    (h.handedOut hnext (succ_le hclimbs.lt_top) (Scan.handedOut_handOuts [] _ _))

/-! ## The first write to fail -/

/-- The write for a height is the first that is bound to fail behind `first`. -/
structure FirstFault (fails : Act → Option Failure) (first height : UInt64) (write : Scan.Write)
    (failure : Failure) : Prop where
  lt : first < height
  fault : (write.act height).fault? fails = some failure
  before : ∀ other : UInt64 × Scan.Write, first < other.1 →
    Scan.Write.Before other (height, write) → (other.2.act other.1).fault? fails = none

variable {height : UInt64} {write : Scan.Write} {failure : Failure}

/-- A scan that has come to a write that fails has come to the first that does. -/
theorem Stands.eq_of_fault (h : Stands fails store first top again heads last w)
    (hfirst : FirstFault fails first height write failure) {next : UInt64 × Scan.Write}
    (hnext : last.write? = some next) (hlt : first < next.1) {failure' : Failure}
    (hfault : (next.2.act next.1).fault? fails = some failure') :
    next = (height, write) ∧ failure' = failure := by
  rcases Scan.Write.before_trichotomy next (height, write) with hbefore | rfl | hbefore
  · exact absurd (hfault.symm.trans (hfirst.before next hlt hbefore)) nofun
  · exact ⟨rfl, Option.some.inj (hfault.symm.trans hfirst.fault)⟩
  · -- The scan would have made the first that fails before.
    have hkept := h.kept height write (h.ascends.mem_calls hnext hfirst.lt hbefore)
    exact absurd (hfirst.fault.symm.trans hkept) nofun

/-- A scan breaks off where the first write fails that is bound to. -/
theorem Sound.broken_at (h : Sound s fails store first top again w)
    (hfirst : FirstFault fails first height write failure) {e : Failure}
    (hscan : w.scan = .ended (.error e)) :
    e = failure.behindOf (.persistence height) ∧
      CutOff store first again height (write.reach height) (write.reach height)
        (write.upTo height) w := by
  cases h with
  | going hcalls hstands =>
    rw [hscan] at hstands
    exact hstands.ascends.elim
  | left last heads hwaits hleave hended => exact absurd (hscan.symm.trans hended) nofun
  | broken last heads next write' failure' hwrite hfault hended hcalls hstands =>
    obtain rfl : e = failure'.behindOf (.persistence next) :=
      Except.error.inj (Scan.ended.inj (hscan.symm.trans hended))
    cases last with
    | marking position head =>
      obtain ⟨rfl, rfl⟩ := Prod.mk.inj (Option.some.inj hwrite)
      obtain ⟨heq, rfl⟩ := hstands.eq_of_fault hfirst rfl
        (UInt64.lt_of_le_of_lt hstands.ascends.1 (lt_succ hstands.ascends.2.1)) hfault
      obtain ⟨rfl, rfl⟩ := Prod.mk.inj heq
      refine ⟨rfl, ?_⟩
      rw [Scan.Write.reach, UInt64.add_sub_cancel]
      exact hstands.cutOff_marking hcalls
    | advancing position head =>
      obtain ⟨rfl, rfl⟩ := Prod.mk.inj (Option.some.inj hwrite)
      obtain ⟨heq, rfl⟩ := hstands.eq_of_fault hfirst rfl
        (UInt64.lt_of_le_of_lt hstands.ascends.1 (lt_succ hstands.ascends.2.1)) hfault
      obtain ⟨rfl, rfl⟩ := Prod.mk.inj heq
      exact ⟨rfl, hstands.cutOff_advancing (hcalls.trans (List.append_assoc _ _ _))⟩
    | starting | resuming | reoffering | polling | resting | offering | ended =>
      exact absurd hwrite nofun

/-! ## Progress -/

/-- A trial that nobody has cut off, and that can get on. -/
structure Free (s : Scanner) (fails : Act → Option Failure) (store : Store) (first top : UInt64)
    (again : List UInt64) (w : Sweep) : Prop where
  sound : Sound s fails store first top again w
  isStopped : w.shared.isStopped = false
  isAbandoned : w.shared.isAbandoned = false
  room : 0 < w.shared.capacity

/-- The steps that are left to the scan, at most. -/
def work (first top : UInt64) (again : List UInt64) (w : Sweep) : Nat :=
  2 * (w.scan.toDo again first top).length + 2 * w.polls.length + w.scan.rank

/-- The scan has settled, or has broken off. -/
def IsOver (w : Sweep) : Prop := w.IsSettled ∨ ∃ e, w.scan = .ended (.error e)

theorem Free.not_left (h : Free s fails store first top again w) :
    ¬ (w.shared.isStopped ∨ w.shared.isAbandoned) := by
  rw [h.isStopped, h.isAbandoned]
  exact fun hleft => hleft.elim nofun nofun

/-- A free trial that is not over has not ended. -/
theorem Free.stands (h : Free s fails store first top again w) (hover : ¬ IsOver w) :
    Stands fails store first top again (w.polls.map s.told) w.scan w := by
  cases h.sound with
  | going hcalls hstands => exact hstands
  | left last heads hwaits hleave => exact absurd hleave h.not_left
  | broken last heads height write failure hwrite hfault hscan =>
    exact absurd (.inr ⟨_, hscan⟩) hover

/-- The consumer can take all that is in the queue. -/
theorem drain (w : Sweep) : Relation.ReflTransGen (Step s o) w
    { w with shared := { w.shared with queue := [] } } :=
  Sweep.drain_of (fun w height rest => .take w height rest) w

/-- A free trial that is not over can get on to one with less left to do. -/
theorem Free.exists_work_lt (h : Free s fails store first top again w)
    (hfirst : Scan.origin s.settings.startHeight fails store = first)
    (hagain : Scan.leftOver fails store = again) (hover : ¬ IsOver w) :
    ∃ w', Relation.ReflTransGen (Step s o) w w' ∧ Free s fails store first top again w' ∧
      work first top again w' < work first top again w := by
  have hstands := h.stands hover
  by_cases hpoll : ∃ position, w.scan = .polling position
  · obtain ⟨position, hscan⟩ := hpoll
    obtain ⟨replies, polls, hpolls⟩ : ∃ replies polls, w.polls = replies :: polls :=
      List.exists_cons_of_ne_nil fun hnil => hover (.inl ⟨hnil, position, .inl hscan⟩)
    obtain ⟨log, hgo⟩ : ∃ log, w.shared.go? (s.network o w.shared) replies s.turn w.scan =
        some ⟨w.shared, [], log, Scan.polled position (s.told replies)⟩ := by
      rw [hscan, Surroundings.go?_pollHead rfl, if_neg (by simp [h.isStopped]), Scanner.network,
        h.isStopped]
      exact ⟨_, rfl⟩
    have hstep : Step s o w _ := .poll w position replies polls _ h.isStopped hscan hpolls hgo
    refine ⟨_, .single hstep, ⟨h.sound.step hfirst hagain hstep, h.isStopped, h.isAbandoned,
      h.room⟩, ?_⟩
    rw [hscan, hpolls] at hstands
    have htoDo := (Scan.Ascends.polled hstands.ascends again).2
    have hrank : (Scan.polled position (s.told replies)).rank ≤ 1 := Scan.rank_polled_le _
    show 2 * ((Scan.polled position (s.told replies)).toDo again first top).length +
      2 * polls.length + (Scan.polled position (s.told replies)).rank < _
    rw [htoDo, work, hscan, hpolls, List.length_cons]
    omega
  · -- The consumer makes room and time passes, then the scan goes on.
    have hpoll' := not_exists.1 hpoll
    let ready : Sweep := { w with shared := { w.shared with queue := [], isRested := true } }
    have hready : Relation.ReflTransGen (Step s o) w ready := (drain w).tail (.rested _)
    obtain ⟨stride, hgo⟩ : ∃ stride, ready.shared.go? (s.network o ready.shared) [] s.turn
        ready.scan = some stride := hstands.ascends.exists_go? h.room rfl hpoll'
    have hmoves := Scan.moves_of_go? (.inr hpoll') hgo
    obtain ⟨hstopped, habandoned, hcapacity⟩ := hmoves.isStopped_eq
    have hstep : Step s o ready (ready.go stride) := .scan ready stride (.inr hpoll') hgo
    have hsound : Sound s fails store first top again ready := h.sound.surround rfl rfl rfl id
    refine ⟨_, hready.tail hstep, ⟨hsound.step hfirst hagain hstep, hstopped.trans h.isStopped,
      habandoned.trans h.isAbandoned, hcapacity ▸ h.room⟩, ?_⟩
    have hlt := hmoves.toDo_lt hstands.ascends h.not_left fun he =>
      ⟨hstands.origin_eq hfirst he, hstands.leftOver_eq hagain he⟩
    show 2 * (stride.stage.toDo again first top).length + 2 * w.polls.length +
      stride.stage.rank < _
    rw [work]
    omega

/-- A free trial can always get on until it is over. -/
theorem Free.exists_over (h : Free s fails store first top again w)
    (hfirst : Scan.origin s.settings.startHeight fails store = first)
    (hagain : Scan.leftOver fails store = again) :
    ∃ w', Relation.ReflTransGen (Step s o) w w' ∧ Free s fails store first top again w' ∧
      IsOver w' :=
  reaches_end (work first top again) (fun _ hw => hw.exists_work_lt hfirst hagain) h

/-- A scan that settles at the top has made all writes on the way, so none of them fails. -/
theorem Sound.not_settled (h : Sound s fails store first top again w)
    (hfirst : FirstFault fails first height write failure) (hle : height ≤ top) :
    ¬ w.IsSettled := by
  rintro ⟨hpolls, position, hscan⟩
  obtain ⟨-, hstands⟩ := h.stands (by rcases hscan with hscan | hscan <;> exact hscan ▸ nofun)
  rw [hpolls] at hstands
  have hkept : (write.act height).fault? fails = none := by
    refine hstands.kept height write ?_
    rcases hscan with hscan | hscan
    all_goals
      rw [hscan] at hstands ⊢
      obtain rfl : position = top := hstands.ascends.2
      exact (Scan.mem_callsTo _ _).2 (mem_heights.2 ⟨hfirst.lt, hle⟩)
  exact absurd (hfirst.fault.symm.trans hkept) nofun

/-! ## The end of a trial -/

/-- A scan that has ended does nothing further. -/
theorem Step.ended (h : Step s o w w') {result : Outcome Unit} (hscan : w.scan = .ended result) :
    w'.scan = .ended result ∧ w'.shared.calls = w.shared.calls ∧
      w'.deeds.filter Deed.isOfScan = w.deeds.filter Deed.isOfScan ∧
      w'.shared.store.position = w.shared.store.position := by
  cases h with
  | scan stride hpoll hgo =>
    rw [hscan] at hgo
    exact absurd hgo nofun
  | poll position replies polls stride hstopped hpolling =>
    exact absurd (hscan.symm.trans hpolling) nofun
  | rested | take | stop | abandon => exact ⟨hscan, rfl, rfl, rfl⟩
  | report height status after hoffered hstatus hset =>
    exact ⟨hscan, rfl, Deed.filter_isOfScan_append_noted hstatus, Store.position_setStatus hset⟩

/-- A scan that was cut off while it offered a height has marked that height, and has not
    gone on to it. -/
theorem Sound.left_at (h : Sound s fails store first top again w) (hscan : w.scan = .ended (.ok ()))
    (hmarked : .setStatus height .handedOut ∈ w.shared.calls)
    (hmoved : .setPosition height ∉ w.shared.calls) :
    CutOff store first again height (height - 1) height (Scan.Write.status.upTo height) w := by
  cases h with
  | going hcalls hstands =>
    rw [hscan] at hstands
    exact hstands.ascends.elim
  | broken last heads next write failure hwrite hfault hended =>
    exact absurd (hscan.symm.trans hended) nofun
  | left last heads hwaits hleave hended hcalls hstands =>
    -- The heights up to the position were moved to, so the one in question is the next.
    have hnext : ∀ position, (∀ act ∈ Scan.callsTo first position, act ∈ w.shared.calls) →
        .setStatus height .handedOut ∉ Scan.callsTo first position := by
      intro position hsub hmem
      exact hmoved (hsub _ ((Scan.mem_callsTo height .position).2
        ((Scan.mem_callsTo height .status).1 hmem)))
    cases last with
    | reoffering position | polling position | resting position =>
      have hcalls' : w.shared.calls = Scan.callsTo first position := hcalls
      exact absurd (hcalls' ▸ hmarked) (hnext position fun act hact => hcalls' ▸ hact)
    | offering position head =>
      rw [hcalls] at hmarked
      rcases List.mem_append.1 hmarked with hmem | hmem
      · exact absurd hmem (hnext position fun act hact => hcalls ▸ List.mem_append_left _ hact)
      · obtain rfl : height = position + 1 := by
          simpa [Scan.Write.upTo] using hmem
        rw [UInt64.add_sub_cancel]
        exact hstands.cutOff_offering hcalls
    | starting | resuming | marking | advancing | ended => exact hwaits.elim

/-- What becomes of a trial from `first` to `top`. -/
structure Atomic (s : Scanner) (o : Observer) (fails : Act → Option Failure) (store : Store)
    (first top : UInt64) (again : List UInt64) (w : Sweep) : Prop where
  /-- If the scan has ended by a failure, then by that of the first write that is bound to
      fail, and has got on as far as that. -/
  broken : ∀ height write failure e, FirstFault fails first height write failure →
    w.scan = .ended (.error e) → e = failure.behindOf (.persistence height) ∧
      CutOff store first again height (write.reach height) (write.reach height)
        (write.upTo height) w
  /-- Unless it is cut off, the scan can get on to that end. -/
  breaks : ∀ height write failure, FirstFault fails first height write failure →
    height ≤ top → ¬ (w.shared.isStopped ∨ w.shared.isAbandoned) →
      ∃ w' e, Relation.ReflTransGen (Step s o) w w' ∧ w'.scan = .ended (.error e)
  /-- While the scan offers a height, it has marked the height and is still at the position
      before. If the scan is cut off there, it ends at once, and not by a failure. -/
  offering : ∀ position head, w.scan = .offering position head →
    CutOff store first again (position + 1) position (position + 1)
      (Scan.Write.status.upTo (position + 1)) w ∧
    (w.shared.isStopped ∨ w.shared.isAbandoned →
      w.shared.go? (s.network o w.shared) [] s.turn w.scan =
        some ⟨w.shared, [], [], .ended (.ok ())⟩)
  /-- If the scan has ended otherwise, it was cut off. If it has marked a height and not
      gone on to it, that was while it offered the height. -/
  left : w.scan = .ended (.ok ()) → (w.shared.isStopped ∨ w.shared.isAbandoned) ∧
    ∀ height, .setStatus height .handedOut ∈ w.shared.calls →
      .setPosition height ∉ w.shared.calls →
        CutOff store first again height (height - 1) height (Scan.Write.status.upTo height) w
  /-- Behind its end the scan does nothing further. -/
  ended : ∀ result w', w.scan = .ended result → Relation.ReflTransGen (Step s o) w w' →
    w'.scan = .ended result ∧ w'.shared.calls = w.shared.calls ∧
      w'.deeds.filter Deed.isOfScan = w.deeds.filter Deed.isOfScan ∧
      w'.shared.store.position = w.shared.store.position

theorem Reachable.sound (h : Reachable s o fails store capacity polls w) :
    Sound s fails store (Scan.origin s.settings.startHeight fails store)
      (summit (Scan.origin s.settings.startHeight fails store) (polls.map s.told))
      (Scan.leftOver fails store) w := by
  induction h with
  | start => exact sound_start
  | step _ hstep ih => exact ih.step rfl rfl hstep

/-- The queue keeps its capacity. -/
theorem Reachable.capacity_eq (h : Reachable s o fails store capacity polls w) :
    w.shared.capacity = capacity := by
  induction h with
  | start => rfl
  | step hreach hstep ih =>
    cases hstep with
    | scan stride hpoll hgo => exact (Scan.moves_of_go? hpoll hgo).isStopped_eq.2.2.trans ih
    | poll position replies polls stride hstopped hscan hpolls hgo =>
      rw [hscan, Surroundings.go?_pollHead rfl, if_neg (by simp [hstopped])] at hgo
      obtain rfl := Option.some.inj hgo
      exact ih
    | rested | take | report | stop | abandon => exact ih

/-- Whatever goes wrong, a trial is cut off between two steps of the scan for one height,
    and what was done up to there is all that was done. -/
theorem atomic (hcapacity : 0 < capacity) :
    let first := Scan.origin s.settings.startHeight fails store
    ∀ w, Reachable s o fails store capacity polls w →
      Atomic s o fails store first (summit first (polls.map s.told))
        (Scan.leftOver fails store) w := by
  intro first w hreach
  have hsound := hreach.sound
  exact {
    broken := fun height write failure e hfirst hscan => hsound.broken_at hfirst hscan
    breaks := fun height write failure hfirst hle hleave => by
      rw [not_or, Bool.not_eq_true, Bool.not_eq_true] at hleave
      obtain ⟨w', hrun, hfree, hover⟩ := Free.exists_over (o := o)
        ⟨hsound, hleave.1, hleave.2, hreach.capacity_eq ▸ hcapacity⟩ rfl rfl
      obtain ⟨e, hscan⟩ := hover.resolve_left (hfree.sound.not_settled hfirst hle)
      exact ⟨w', e, hrun, hscan⟩
    offering := fun position head hscan => by
      obtain ⟨hcalls, hstands⟩ := hsound.stands (hscan ▸ nofun)
      rw [hscan] at hcalls hstands ⊢
      refine ⟨hstands.cutOff_offering hcalls, fun hleave => ?_⟩
      exact (Surroundings.go?_offer rfl).trans (if_pos (Bool.or_eq_true_iff.2 hleave))
    left := fun hscan => by
      refine ⟨?_, fun height => hsound.left_at hscan⟩
      cases hsound with
      | going hcalls hstands =>
        rw [hscan] at hstands
        exact hstands.ascends.elim
      | broken last heads height write failure hwrite hfault hended =>
        exact absurd (hscan.symm.trans hended) nofun
      | left last heads hwaits hleave => exact hleave
    ended := fun result w' hscan hrun => by
      induction hrun with
      | refl => exact ⟨hscan, rfl, rfl, rfl⟩
      | tail _ hstep ih =>
        obtain ⟨hscan', hcalls, hdeeds, hposition⟩ := ih
        obtain ⟨hscan'', hcalls', hdeeds', hposition'⟩ := hstep.ended hscan'
        exact ⟨hscan'', hcalls'.trans hcalls, hdeeds'.trans hdeeds, hposition'.trans hposition⟩ }

theorem Reachable.steps (h : Reachable s o fails store capacity polls w)
    (hsteps : Relation.ReflTransGen (Step s o) w w') :
    Reachable s o fails store capacity polls w' :=
  keeps_run (fun _ _ hw hstep => hw.step hstep) h hsteps

/-- A scan from height 4 on is told of height 7, and cannot keep 6 as its position. It
    offers 2, which was left over, and 5 and 6, and ends by a failure at 6. -/
theorem atomic_where_position_is_lost :
    let s : Scanner := ⟨"http://node", ScanSettings.standard⟩
    let o : Observer := ⟨"http://node", .tendermint, ScanSettings.standard.policy, 1⟩
    let store : Store := ⟨some 4, [(2, .failed)]⟩
    let lost : Failure := .message "no room is left"
    let fails : Act → Option Failure := fun act => if act = .setPosition 6 then some lost else none
    let body := "\x7b\"result\":\x7b\"block\":\x7b\"header\":\x7b\"height\":\"7\"\x7d\x7d\x7d\x7d"
    ∃ w, Reachable s o fails store 2 [[.answered .ok (Utf8.encode body)]] w ∧
      w.scan = .ended (.error (lost.behindOf (.persistence 6))) ∧
      w.deeds.filterMap Deed.offered? = [2, 5, 6] ∧ w.shared.store.position = some 5 := by
  intro s o store lost fails body
  have hsummit : summit 4 ([[.answered .ok (Utf8.encode body)]].map s.told) = 7 := by
    decide +kernel
  have hrun : ∀ w, Reachable s o fails store 2 [[.answered .ok (Utf8.encode body)]] w →
      Atomic s o fails store 4 7 [2] w := hsummit ▸ atomic Nat.zero_lt_two
  have hfirst : FirstFault fails 4 6 .position lost := {
    lt := by decide
    fault := rfl
    before := by
      rintro ⟨other, write⟩ - hbefore
      -- Only one write is bound to fail, and all other heights up to there can be stored.
      have hle : other ≤ 6 := by
        rcases hbefore with hlt | ⟨heq, -⟩
        · exact UInt64.le_of_lt hlt
        · exact UInt64.le_of_eq heq
      have hrefusal : Store.refusal? other = none :=
        if_pos (UInt64.le_trans hle (by decide))
      cases write with
      | status => exact hrefusal
      | position =>
        have hne : other ≠ 6 := by
          rcases hbefore with hlt | ⟨-, hwrite, -⟩
          · exact UInt64.ne_of_lt hlt
          · exact absurd hwrite nofun
        show (fails (.setPosition other)).or (Store.refusal? other) = none
        rw [hrefusal]
        simp [fails, hne] }
  obtain ⟨w, e, hsteps, hscan⟩ :=
    (hrun _ .start).breaks 6 .position lost hfirst (by decide) (by decide)
  have hw := Reachable.start.steps hsteps
  obtain ⟨rfl, hcut⟩ := (hrun w hw).broken 6 .position lost e hfirst hscan
  refine ⟨w, hw, hscan, hcut.offered.trans (by decide), hcut.position.trans (by decide)⟩

end Trial

end ChainRelay
