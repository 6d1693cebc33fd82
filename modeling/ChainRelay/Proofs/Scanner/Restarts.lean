import ChainRelay.Proofs.Scanner.Ascent
import ChainRelay.Proofs.Store.Text
import ChainRelay.Scanner.Reoffer

/-!
# No height is lost

A scanner is run over and over on one store. Each run may be cut off between any two
steps (`Career.Step.restart`), and around the steps of its tasks anything may happen
but a change of the store (`Career.Step.surround`): operations of the store fail, the
tasks are stopped, nobody is left to take heights. Chain heads are whatever the node
tells. Whoever takes a height may note at any later time that it was observed or
that it failed, once or more often (`Career.Step.report`).

Still, behind the position that is remembered no height is lost
(`Career.offered_and_kept`): it has a status, it was offered, and unless it was noted
as observed since it was last handed out, the next run offers it again.

The order of the steps of the scan carries this: a height is marked before it is
offered, and becomes the position only after that. So wherever the scan stands, all
heights behind its position were marked and offered (`Scan.Traced`), also when its
position has fallen back to the start because the remembered one could not be read.
-/

namespace ChainRelay

variable {startHeight position head height : UInt64} {deeds more : List Deed}

/-! ## Traces of the scan -/

/-- Every height behind the start and up to a position was marked and offered. -/
def HandedOut (startHeight : UInt64) (deeds : List Deed) (position : UInt64) : Prop :=
  ∀ height, startHeight < height → height ≤ position →
    .noted height .handedOut ∈ deeds ∧ .offered height ∈ deeds

theorem HandedOut.at_start : HandedOut startHeight deeds startHeight :=
  fun _ hlo hhi => absurd hlo (UInt64.not_lt.2 hhi)

theorem HandedOut.mono (h : HandedOut startHeight deeds position) :
    HandedOut startHeight (deeds ++ more) position := fun height hlo hhi =>
  (h height hlo hhi).imp (List.mem_append_left _) (List.mem_append_left _)

/-- All is handed out behind the origin of a scan, if it is behind the position that is
    remembered. -/
theorem HandedOut.origin {fails : Act → Option Failure} {store : Store}
    (h : ∀ p, store.position = some p → HandedOut startHeight deeds p) :
    HandedOut startHeight deeds (Scan.origin startHeight fails store) := by
  rw [Scan.origin]
  -- A scan that falls back to its start has nothing to hand out behind that.
  cases fails .readPosition with
  | some failure => exact .at_start
  | none =>
    cases hp : store.position with
    | none => exact .at_start
    | some p => exact h p hp

/-- A height that was marked and offered may become the position. -/
theorem HandedOut.succ (h : HandedOut startHeight deeds position) (hlt : position < head)
    (hmarked : .noted (position + 1) .handedOut ∈ deeds)
    (hoffered : .offered (position + 1) ∈ deeds) : HandedOut startHeight deeds (position + 1) := by
  intro height hlo hhi
  rcases (le_succ_iff hlt).1 hhi with hhi | rfl
  · exact h height hlo hhi
  · exact ⟨hmarked, hoffered⟩

/-- What a scan has left behind at a stage. -/
def Scan.Traced (startHeight : UInt64) (deeds : List Deed) : Scan → Prop
  | starting | ended _ => True
  | resuming position | reoffering position _ _ | polling position | resting position =>
    HandedOut startHeight deeds position
  | marking position head => HandedOut startHeight deeds position ∧ position < head
  | offering position head => HandedOut startHeight deeds position ∧ position < head ∧
      .noted (position + 1) .handedOut ∈ deeds
  | advancing position head => HandedOut startHeight deeds position ∧ position < head ∧
      .noted (position + 1) .handedOut ∈ deeds ∧ .offered (position + 1) ∈ deeds

namespace Scan

theorem Traced.mono {scan : Scan} (h : scan.Traced startHeight deeds) :
    scan.Traced startHeight (deeds ++ more) := by
  cases scan with
  | starting | ended => trivial
  | resuming | reoffering | polling | resting => exact HandedOut.mono h
  | marking => exact ⟨h.1.mono, h.2⟩
  | offering => exact ⟨h.1.mono, h.2.1, List.mem_append_left _ h.2.2⟩
  | advancing =>
    exact ⟨h.1.mono, h.2.1, List.mem_append_left _ h.2.2.1, List.mem_append_left _ h.2.2.2⟩

/-- A scan hands out the height that is to become its position. -/
theorem Traced.handedOut_succ (h : (advancing position head).Traced startHeight deeds) :
    HandedOut startHeight deeds (position + 1) :=
  h.1.succ h.2.1 h.2.2.1 h.2.2.2

theorem Traced.reoffer (h : HandedOut startHeight deeds position) (heights : List UInt64) :
    (reoffer position heights).Traced startHeight deeds := by
  cases heights <;> exact h

theorem Traced.polled (h : HandedOut startHeight deeds position) (answer : Outcome UInt64) :
    (polled position answer).Traced startHeight deeds := by
  unfold Scan.polled
  split
  · split_ifs with hlt
    · exact ⟨h, hlt⟩
    · exact h
  · exact h

theorem Traced.approach (h : HandedOut startHeight deeds position) :
    (approach position head).Traced startHeight deeds := by
  unfold Scan.approach
  split_ifs with hlt
  · exact ⟨h, hlt⟩
  · exact h

variable {s : Surroundings} {n : Network} {replies : List Http.Reply} {scan : Scan}
  {stride : Stride Scan} {first : UInt64}

/-- A scan that goes on leaves its traces at the next stage as well, if there is nothing
    to hand out behind its origin. -/
theorem Traced.go (h : scan.Traced first deeds)
    (hstart : scan = starting → HandedOut first deeds (origin startHeight s.fails s.store))
    (hgo : s.go? n replies (turn startHeight) scan = some stride) :
    stride.stage.Traced first (deeds ++ stride.deeds) := by
  cases scan with
  | starting =>
    rw [stage_of_start hgo]
    exact (hstart rfl).mono
  | resuming position =>
    obtain ⟨answer, -, -, hstage⟩ := Surroundings.exists_answer_of_go? rfl hgo
    rw [hstage]
    match answer with
    | .ok heights => exact Traced.reoffer h.mono heights
    | .error _ => exact h.mono
  | reoffering position height heights =>
    obtain ⟨answer, -, -, hstage⟩ := Surroundings.exists_answer_of_go? rfl hgo
    rw [hstage]
    match answer with
    | true => exact Traced.reoffer h.mono heights
    | false => trivial
  | polling position =>
    obtain ⟨answer, -, -, hstage⟩ := Surroundings.exists_answer_of_go? rfl hgo
    rw [hstage]
    match answer with
    | some answer => exact Traced.polled h.mono answer
    | none => trivial
  | resting position =>
    obtain ⟨answer, -, -, hstage⟩ := Surroundings.exists_answer_of_go? rfl hgo
    rw [hstage]
    match answer with
    | true => exact h.mono
    | false => trivial
  | marking position head =>
    obtain ⟨answer, -, hdeeds, hstage⟩ := Surroundings.exists_answer_of_go? rfl hgo
    rw [hdeeds, hstage]
    match answer with
    | .ok () => exact ⟨h.1.mono, h.2, List.mem_append_right _ List.mem_cons_self⟩
    | .error _ => trivial
  | offering position head =>
    obtain ⟨answer, -, hdeeds, hstage⟩ := Surroundings.exists_answer_of_go? rfl hgo
    rw [hdeeds, hstage]
    match answer with
    | true => exact ⟨h.1.mono, h.2.1, List.mem_append_left _ h.2.2,
        List.mem_append_right _ List.mem_cons_self⟩
    | false => trivial
  | advancing position head =>
    obtain ⟨answer, -, -, hstage⟩ := Surroundings.exists_answer_of_go? rfl hgo
    rw [hstage]
    match answer with
    | .ok () => exact Traced.approach h.handedOut_succ.mono
    | .error _ => trivial
  | ended => exact absurd hgo nofun

/-- Only a scan that goes on to the next height changes the position that is remembered. -/
theorem position_of_go? (hgo : s.go? n replies (turn startHeight) scan = some stride) :
    stride.surroundings.store.position = s.store.position ∨
      ∃ position head, scan = advancing position head ∧
        stride.surroundings.store.position = some (position + 1) := by
  cases scan with
  | advancing position head =>
    obtain ⟨answer, ha, -, -⟩ := Surroundings.exists_answer_of_go? rfl hgo
    match answer with
    | .ok () => exact .inr ⟨position, head, rfl, ha.position_eq⟩
    | .error _ => exact .inl ha.position_eq
  | ended => exact absurd hgo nofun
  | starting | resuming | reoffering | polling | resting | marking | offering =>
    -- No act of these stages is about the position.
    obtain ⟨answer, ha, -, -⟩ := Surroundings.exists_answer_of_go? rfl hgo
    exact .inl ha.position_eq

/-- The position that is remembered only ever becomes one behind which all is handed
    out. -/
theorem Traced.position_handedOut (h : scan.Traced first deeds)
    (hs : ∀ p, s.store.position = some p → HandedOut first deeds p)
    (hgo : s.go? n replies (turn startHeight) scan = some stride) {p : UInt64}
    (hp : stride.surroundings.store.position = some p) :
    HandedOut first (deeds ++ stride.deeds) p := by
  rcases position_of_go? hgo with heq | ⟨position, head, rfl, heq⟩
  · exact (hs p (heq ▸ hp)).mono
  · exact Option.some.inj (heq.symm.trans hp) ▸ h.handedOut_succ.mono

end Scan

/-- Offering failed heights again leaves the store as it is. -/
theorem Reoffer.store_of_go? {s : Surroundings} {n : Network} {replies : List Http.Reply}
    {reoffer : Reoffer} {stride : Stride Reoffer}
    (hgo : s.go? n replies turn reoffer = some stride) :
    stride.surroundings.store = s.store := by
  cases reoffer with
  | ended => exact absurd hgo nofun
  | waiting | reading | offering =>
    obtain ⟨answer, ha, -, -⟩ := Surroundings.exists_answer_of_go? rfl hgo
    exact ha.store_eq

/-! ## Careers -/

/-- A scanner over all its runs on one store. -/
structure Career where
  /-- What its tasks share. -/
  shared : Surroundings
  /-- Where the scan of the present run stands. -/
  scan : Scan
  /-- Where the offering of failed heights stands. -/
  reoffer : Reoffer
  /-- All that was done to heights, in any run. -/
  deeds : List Deed

namespace Career

/-- A scanner in its first run, with nothing in the store. -/
def first (capacity : Nat) : Career := ⟨.start .empty capacity, .starting, .waiting, []⟩

/-- A scanner at the beginning of the next run, with the store that is left. -/
def restart (c : Career) : Career where
  shared := { c.shared with store := c.shared.store.reopen .file }
  scan := .starting
  reoffer := .waiting
  deeds := c.deeds

/-- What may happen to a scanner that starts at some height. -/
inductive Step (startHeight : UInt64) : Career → Career → Prop
  /-- The scan goes on. -/
  | scan (c : Career) (n : Network) (replies : List Http.Reply) (stride : Stride Scan) :
      c.shared.go? n replies (Scan.turn startHeight) c.scan = some stride →
      Step startHeight c { c with
        shared := stride.surroundings, scan := stride.stage, deeds := c.deeds ++ stride.deeds }
  /-- The offering of failed heights goes on. -/
  | reoffer (c : Career) (n : Network) (replies : List Http.Reply) (stride : Stride Reoffer) :
      c.shared.go? n replies Reoffer.turn c.reoffer = some stride →
      Step startHeight c { c with
        shared := stride.surroundings, reoffer := stride.stage, deeds := c.deeds ++ stride.deeds }
  /-- A height that was offered is noted as observed or failed. -/
  | report (c : Career) (height : UInt64) (status : BlockStatus) (store : Store) :
      .offered height ∈ c.deeds → status ≠ .handedOut →
      c.shared.store.setStatus height status = .ok store →
      Step startHeight c { c with
        shared := { c.shared with store := store }, deeds := c.deeds ++ [.noted height status] }
  /-- Anything else changes in the surroundings of the tasks. -/
  | surround (c : Career) (shared : Surroundings) :
      shared.store = c.shared.store → Step startHeight c { c with shared := shared }
  /-- The run is cut off, and another one begins. -/
  | restart (c : Career) : Step startHeight c c.restart

/-- What may become of a scanner. -/
inductive Reachable (startHeight : UInt64) : Career → Prop
  | first (capacity : Nat) : Reachable startHeight (first capacity)
  | step {c c' : Career} : Reachable startHeight c → Step startHeight c c' →
      Reachable startHeight c'

/-- What holds throughout the runs of a scanner. -/
structure Sound (startHeight : UInt64) (c : Career) : Prop where
  ordered : c.shared.store.Ordered
  /-- The store tells what the deeds have left behind. -/
  table : ∀ height, c.shared.store.status? height = Deed.statusAfter c.deeds height none
  /-- All is handed out behind the position that is remembered. -/
  position : ∀ p, c.shared.store.position = some p → HandedOut startHeight c.deeds p
  traced : c.scan.Traced startHeight c.deeds

variable {c c' : Career}

theorem sound_first (capacity : Nat) : (first capacity).Sound startHeight where
  ordered := Store.ordered_empty
  table _ := rfl
  position _ hp := absurd hp nofun
  traced := trivial

/-- The store is found again as it was left. -/
theorem restart_eq (h : c.shared.store.Ordered) :
    c.restart = { c with scan := .starting, reoffer := .waiting } := by
  rw [restart, h.reopen_file]

/-- Nothing that may happen to a scanner breaks what holds throughout its runs. -/
theorem Sound.step (hc : c.Sound startHeight) (h : Step startHeight c c') :
    c'.Sound startHeight := by
  cases h with
  | scan n replies stride hgo =>
    exact {
      ordered := Surroundings.ordered_of_go? hgo hc.ordered
      table := fun height => by
        rw [Surroundings.status?_of_go? hgo, hc.table, Deed.statusAfter_append]
      position := fun p hp => hc.traced.position_handedOut hc.position hgo hp
      traced := hc.traced.go (fun _ => .origin hc.position) hgo }
  | reoffer n replies stride hgo =>
    exact {
      ordered := Surroundings.ordered_of_go? hgo hc.ordered
      table := fun height => by
        rw [Surroundings.status?_of_go? hgo, hc.table, Deed.statusAfter_append]
      position := fun p hp => (hc.position p (Reoffer.store_of_go? hgo ▸ hp)).mono
      traced := hc.traced.mono }
  | report height status store hoffered hstatus hset =>
    exact {
      ordered := hc.ordered.setStatus hset
      table := fun other => by
        rw [Store.status?_eq_of_setStatus hset, hc.table, Deed.statusAfter_append]
      position := fun p hp => (hc.position p (Store.position_setStatus hset ▸ hp)).mono
      traced := hc.traced.mono }
  | surround shared hstore =>
    exact {
      ordered := hstore ▸ hc.ordered
      table := hstore ▸ hc.table
      position := hstore ▸ hc.position
      traced := hc.traced }
  | restart =>
    -- The next run begins without traces of its own, but the store keeps all that it held.
    rw [restart_eq hc.ordered]
    exact { ordered := hc.ordered, table := hc.table, position := hc.position, traced := trivial }

theorem Reachable.sound (h : Reachable startHeight c) : c.Sound startHeight := by
  induction h with
  | first capacity => exact sound_first capacity
  | step _ hstep ih => exact ih.step hstep

/-- A height was noted as observed, and has not been handed out since. -/
def ObservedSince (deeds : List Deed) (height : UInt64) : Prop :=
  ∃ before after, deeds = before ++ .noted height .observed :: after ∧
    .noted height .handedOut ∉ after

/-- Behind the position that a scanner remembers, no height is lost, in whatever way
    its runs were cut off: each has a status, was offered, and was noted as observed
    since it was last handed out, or is offered again by the next run. -/
theorem offered_and_kept (h : Reachable startHeight c)
    (hposition : c.shared.store.position = some position)
    (hlo : startHeight < height) (hhi : height ≤ position) :
    (c.shared.store.status? height).isSome ∧ .offered height ∈ c.deeds ∧
      (ObservedSince c.deeds height ∨ height ∈ c.shared.store.unfinished) := by
  have hc := h.sound
  obtain ⟨hmarked, hoffered⟩ := hc.position position hposition height hlo hhi
  have hsome : c.shared.store.status? height ≠ none := by
    rw [hc.table]
    exact Deed.statusAfter_ne_none hmarked (by simp [Deed.status?])
  obtain ⟨status, hstatus⟩ := Option.ne_none_iff_exists'.1 hsome
  refine ⟨Option.isSome_iff_ne_none.2 hsome, hoffered, ?_⟩
  by_cases hobserved : status = .observed
  · -- The last deed that gave the height a status is the note that it was observed.
    left
    rw [hc.table, hobserved] at hstatus
    obtain ⟨hnone, -⟩ | ⟨before, deed, after, hdeeds, hdeed, hafter⟩ :=
      Deed.statusAfter_eq_some hstatus
    · cases hnone
    · rw [Deed.status?_eq_some.1 hdeed] at hdeeds
      refine ⟨before, after, hdeeds, fun hmem => ?_⟩
      exact absurd (hafter _ hmem) (by simp [Deed.status?])
  · -- Any other status is one for which the next run offers the height again.
    exact .inr (hc.ordered.mem_unfinished.2 ⟨status, hstatus, hobserved⟩)

/-- A scanner whose scan has gone on by some steps, or until it has to wait. -/
def scanOn (startHeight : UInt64) (n : Network) : Nat → Career → Career
  | 0, c => c
  | k + 1, c =>
    match c.shared.go? n [] (Scan.turn startHeight) c.scan with
    | none => c
    | some stride => scanOn startHeight n k { c with
        shared := stride.surroundings, scan := stride.stage, deeds := c.deeds ++ stride.deeds }

theorem Reachable.scanOn (h : Reachable startHeight c) (n : Network) (k : Nat) :
    Reachable startHeight (c.scanOn startHeight n k) := by
  induction k generalizing c with
  | zero => exact h
  | succ k ih =>
    rw [Career.scanOn]
    split
    · exact h
    · next stride hgo => exact ih (h.step (.scan c n [] stride hgo))

/-- A run that starts at height 5 is cut off after it has marked height 7. -/
theorem offered_and_kept_of_cut_off :
    let cut := (first 2).scanOn 5 ⟨.done ([], .ok 7), fun _ => .done (.error (.message ""))⟩ 7
    cut.scan = .offering 6 7 ∧ cut.restart.shared.store.position = some 6 ∧
      (cut.restart.shared.store.status? 6).isSome ∧ .offered 6 ∈ cut.restart.deeds ∧
        (ObservedSince cut.restart.deeds 6 ∨ 6 ∈ cut.restart.shared.store.unfinished) := by
  intro cut
  have hcut : Reachable 5 cut := (Reachable.first 2).scanOn _ 7
  have hposition : cut.restart.shared.store.position = some 6 := by
    rw [restart_eq hcut.sound.ordered]
    rfl
  exact ⟨rfl, hposition,
    offered_and_kept (hcut.step (.restart _)) hposition (by decide) (by decide)⟩

end Career

end ChainRelay
