import ChainRelay.Proofs.Runs
import ChainRelay.Proofs.Scanner.Restarts

/-!
# What a run may skip

A run of a scanner goes on from the position that the store remembers. If that cannot be
read, it falls back to its start height, which may be anywhere. Whatever else happens in
the run, it remembers a new position only after it has offered every height between the
old one and the new one, but for one gap (`Career.offered_or_skipped`): if the old
position could not be read, heights up to the start height are skipped that were not
left over.

A scan leaves all heights between its origin and its position handed out
(`Scan.Traced`), and the position is no other than before until the heights that were
left over have all been offered (`Scan.Owes`).
-/

namespace ChainRelay

open Relation (ReflTransGen)

namespace Scan

variable {startHeight position : UInt64} {again left unfinished unfinished' : List UInt64}
  {deeds deeds' : List Deed} {s : Surroundings} {n : Network} {replies : List Http.Reply}
  {scan : Scan} {stride : Stride Scan}

/-! ## Steps of any run -/

/-- A scan that goes on takes one of its steps, or is told of a head. -/
theorem moves_or_polled (hgo : s.go? n replies (turn startHeight) scan = some stride) :
    Moves startHeight s scan stride ∨ ∃ position answer, scan = polling position ∧
      stride.surroundings = s ∧ stride.deeds = [] ∧ stride.stage = polled position answer := by
  by_cases hpoll : s.isStopped ∨ ∀ position, scan ≠ polling position
  · exact .inl (moves_of_go? hpoll hgo)
  · rw [not_or, not_forall] at hpoll
    obtain ⟨hstopped, position, hscan⟩ := hpoll
    obtain rfl := not_not.1 hscan
    rw [Surroundings.go?_pollHead rfl, if_neg hstopped] at hgo
    obtain rfl := Option.some.inj hgo
    exact .inr ⟨position, _, rfl, rfl, rfl, rfl⟩

/-- A scan that goes on does not begin again. -/
theorem stage_ne_starting (hgo : s.go? n replies (turn startHeight) scan = some stride) :
    stride.stage ≠ starting := by
  have hlater {scan : Scan} (h : ¬ scan.IsEarly) : scan ≠ starting := fun heq => h (heq ▸ trivial)
  rcases moves_or_polled hgo with hmoves | ⟨position, answer, -, -, -, hstage⟩
  · cases hmoves with
    | goes hstride =>
      cases hstride with
      | start | rest | mark | offer => exact nofun
      | resume | reoffer => exact hlater (not_isEarly_reoffer _)
      | advance => exact hlater not_isEarly_approach
    | unread | unresumed | leaves | breaks => exact nofun
  · exact hstage ▸ hlater not_isEarly_polled

/-- Which operations of the store fail is not up to the scan. -/
theorem fails_of_go? (hgo : s.go? n replies (turn startHeight) scan = some stride) :
    stride.surroundings.fails = s.fails := by
  rcases moves_or_polled hgo with hmoves | ⟨_, _, -, hs, -, -⟩
  · cases hmoves with
    | goes hstride => exact hstride.fails_eq
    | unread | unresumed | leaves | breaks => rfl
  · rw [hs]

/-! ## Heights that are left over -/

/-- Every height that was left over is still to be offered, or was offered, unless the
    scan has ended. -/
def Owes (again unfinished : List UInt64) (deeds : List Deed) : Scan → Prop
  | ended _ => True
  | scan => ∀ height ∈ again, height ∈ scan.left unfinished ∨ .offered height ∈ deeds

/-- Nothing is owed once all is offered. -/
theorem Owes.of_offered (h : ∀ height ∈ again, .offered height ∈ deeds) :
    scan.Owes again unfinished deeds := by
  cases scan with
  | ended => trivial
  | _ => exact fun height hmem => .inr (h height hmem)

theorem Owes.reoffer (h : ∀ height ∈ again, height ∈ left ∨ .offered height ∈ deeds) :
    (reoffer position left).Owes again unfinished deeds := by
  cases left <;> exact h

/-- Others may finish a height once it was offered. -/
theorem Owes.mono (h : scan.Owes again unfinished deeds) (hdeeds : deeds ⊆ deeds')
    (hunfinished : ∀ height ∈ unfinished, height ∈ unfinished' ∨ .offered height ∈ deeds') :
    scan.Owes again unfinished' deeds' := by
  cases scan with
  | ended => trivial
  | starting | resuming =>
    exact fun height hmem => (h height hmem).elim (hunfinished height) fun hd => .inr (hdeeds hd)
  | _ => exact fun height hmem => (h height hmem).imp_right fun hd => hdeeds hd

/-- A scan that is behind what was left over has offered it. -/
theorem Owes.offered (h : scan.Owes again unfinished deeds)
    (hended : ∀ result, scan ≠ ended result) (hleft : scan.left unfinished = []) :
    ∀ height ∈ again, .offered height ∈ deeds := by
  cases scan with
  | ended result => exact absurd rfl (hended result)
  | _ => exact fun height hmem => (h height hmem).resolve_left (hleft ▸ List.not_mem_nil)

/-- A scan that goes on owes no more than before, and offers what it no longer has to. -/
theorem Owes.go (h : scan.Owes again s.store.unfinished deeds)
    (hread : s.fails .readUnfinished ≠ none → again = [])
    (hgo : s.go? n replies (turn startHeight) scan = some stride) :
    stride.stage.Owes again stride.surroundings.store.unfinished (deeds ++ stride.deeds) := by
  rcases moves_or_polled hgo with hmoves | ⟨position, answer, rfl, -, -, -⟩
  · cases hmoves with
    | goes hstride =>
      cases hstride with
      | start => exact fun height hmem => (h height hmem).imp_right (List.mem_append_left _)
      | resume =>
        exact .reoffer fun height hmem => (h height hmem).imp_right (List.mem_append_left _)
      | reoffer position height more =>
        refine .reoffer fun other hmem => ?_
        -- What is owed is the height that is offered now, or one of those behind it.
        rcases h other hmem with hmem | hmem
        · rcases List.mem_cons.1 hmem with rfl | hmem
          · exact .inr (List.mem_append_right _ List.mem_cons_self)
          · exact .inl hmem
        · exact .inr (List.mem_append_left _ hmem)
      | rest | mark | offer | advance =>
        exact of_offered fun height hmem => List.mem_append_left _ (h.offered nofun rfl height hmem)
    | unread => exact fun height hmem => (h height hmem).imp_right (List.mem_append_left _)
    | unresumed position failure log hfails =>
      -- What cannot be read is not owed.
      rw [hread (hfails ▸ nofun)]
      exact of_offered nofun
    | leaves | breaks => trivial
  · exact of_offered fun height hmem => List.mem_append_left _ (h.offered nofun rfl height hmem)

end Scan

/-! ## Runs -/

namespace Career

/-- A scanner at the beginning of a run. -/
def opening (shared : Surroundings) : Career := ⟨shared, .starting, .waiting, []⟩

/-- What may happen within a run, which is not cut off. Whether the scan can read what
    the store holds is the same all the time. -/
structure Within (startHeight : UInt64) (c c' : Career) : Prop where
  step : Step startHeight c c'
  uncut : c' ≠ c.restart
  readPosition : c'.shared.fails .readPosition = c.shared.fails .readPosition
  readUnfinished : c'.shared.fails .readUnfinished = c.shared.fails .readUnfinished

/-- What holds throughout a run that has begun in some surroundings. -/
structure Follows (startHeight : UInt64) (shared : Surroundings) (c : Career) : Prop where
  readPosition : c.shared.fails .readPosition = shared.fails .readPosition
  readUnfinished : c.shared.fails .readUnfinished = shared.fails .readUnfinished
  ordered : c.shared.store.Ordered
  early : c.scan = .starting → c.shared.store.position = shared.store.position
  traced : c.scan.Traced (Scan.origin startHeight shared.fails shared.store) c.deeds
  owes : c.scan.Owes (Scan.leftOver shared.fails shared.store) c.shared.store.unfinished c.deeds
  /-- The position is as it was, or all is handed out up to it, and all is offered that
      was left over. -/
  position : c.shared.store.position = shared.store.position ∨
    (∀ p, c.shared.store.position = some p →
      HandedOut (Scan.origin startHeight shared.fails shared.store) c.deeds p) ∧
      ∀ height ∈ Scan.leftOver shared.fails shared.store, .offered height ∈ c.deeds

variable {startHeight last next height : UInt64} {shared : Surroundings} {c c' now : Career}

theorem follows_opening (hs : shared.store.Ordered) :
    Follows startHeight shared (opening shared) where
  readPosition := rfl
  readUnfinished := rfl
  ordered := hs
  early _ := rfl
  traced := trivial
  owes height hmem := by
    rw [Scan.leftOver] at hmem
    cases hfails : shared.fails .readUnfinished with
    | some failure =>
      rw [hfails] at hmem
      exact absurd hmem List.not_mem_nil
    | none =>
      rw [hfails] at hmem
      exact .inl hmem
  position := .inl rfl

theorem Follows.origin_eq (h : Follows startHeight shared c) (hstart : c.scan = .starting) :
    Scan.origin startHeight c.shared.fails c.shared.store =
      Scan.origin startHeight shared.fails shared.store := by
  rw [Scan.origin, Scan.origin, h.readPosition, h.early hstart]

theorem Follows.leftOver_eq_nil (h : Follows startHeight shared c)
    (hfails : c.shared.fails .readUnfinished ≠ none) :
    Scan.leftOver shared.fails shared.store = [] := by
  rw [h.readUnfinished] at hfails
  obtain ⟨failure, hfailure⟩ := Option.ne_none_iff_exists'.1 hfails
  rw [Scan.leftOver, hfailure]

/-- What is handed out stays handed out as long as the position stays. -/
theorem Follows.position_mono (h : Follows startHeight shared c) {store : Store}
    (hposition : store.position = c.shared.store.position) (more : List Deed) :
    store.position = shared.store.position ∨
      (∀ p, store.position = some p →
        HandedOut (Scan.origin startHeight shared.fails shared.store) (c.deeds ++ more) p) ∧
        ∀ height ∈ Scan.leftOver shared.fails shared.store, .offered height ∈ c.deeds ++ more := by
  rw [hposition]
  exact h.position.imp_right fun ⟨hout, hoffered⟩ =>
    ⟨fun p hp => (hout p hp).mono, fun height hmem => List.mem_append_left _ (hoffered height hmem)⟩

/-- A height that is reported was offered, so that it is no longer owed. -/
theorem Follows.owes_report (h : Follows startHeight shared c) {status : BlockStatus}
    {store : Store} (hoffered : .offered height ∈ c.deeds)
    (hset : c.shared.store.setStatus height status = .ok store) :
    c.scan.Owes (Scan.leftOver shared.fails shared.store) store.unfinished
      (c.deeds ++ [.noted height status]) := by
  refine h.owes.mono (List.subset_append_left _ _) fun other hother => ?_
  by_cases heq : other = height
  · exact .inr (List.mem_append_left _ (heq ▸ hoffered))
  · rw [h.ordered.mem_unfinished] at hother
    rw [(h.ordered.setStatus hset).mem_unfinished, Store.status?_setStatus hset, if_neg heq]
    exact .inl hother

/-- Nothing that may happen within a run breaks what holds throughout. -/
theorem Follows.step (h : Follows startHeight shared c) (hwithin : Within startHeight c c') :
    Follows startHeight shared c' := by
  obtain ⟨hstep, huncut, hposition, hunfinished⟩ := hwithin
  have hreads := And.intro (hposition.trans h.readPosition) (hunfinished.trans h.readUnfinished)
  cases hstep with
  | scan n replies stride hgo =>
    refine ⟨hreads.1, hreads.2, Surroundings.ordered_of_go? hgo h.ordered,
      fun hstart => absurd hstart (Scan.stage_ne_starting hgo),
      h.traced.go (fun hstart => h.origin_eq hstart ▸ .at_start) hgo,
      h.owes.go h.leftOver_eq_nil hgo, ?_⟩
    rcases Scan.position_of_go? hgo with heq | ⟨position, head, hscan, heq⟩
    · exact h.position_mono heq _
    · -- The scan goes on to the next height, having offered what was left over long before.
      have htraced := h.traced
      have howes := h.owes
      rw [hscan] at htraced howes
      refine .inr ⟨fun p hp => ?_, fun height hmem => ?_⟩
      · exact Option.some.inj (heq.symm.trans hp) ▸ htraced.handedOut_succ.mono
      · exact List.mem_append_left _ (howes.offered nofun rfl height hmem)
  | reoffer n replies stride hgo =>
    have hstore := Reoffer.store_of_go? hgo
    exact {
      readPosition := hreads.1
      readUnfinished := hreads.2
      ordered := hstore ▸ h.ordered
      early := hstore ▸ h.early
      traced := h.traced.mono
      owes := h.owes.mono (List.subset_append_left _ _) fun _ hmem => .inl (hstore ▸ hmem)
      position := h.position_mono (congrArg Store.position hstore) _ }
  | report height status store hoffered hstatus hset =>
    exact {
      readPosition := hreads.1
      readUnfinished := hreads.2
      ordered := h.ordered.setStatus hset
      early := fun hstart => (Store.position_setStatus hset).trans (h.early hstart)
      traced := h.traced.mono
      owes := h.owes_report hoffered hset
      position := h.position_mono (Store.position_setStatus hset) _ }
  | surround shared' hstore =>
    exact {
      readPosition := hreads.1
      readUnfinished := hreads.2
      ordered := hstore ▸ h.ordered
      early := hstore ▸ h.early
      traced := h.traced
      owes := hstore ▸ h.owes
      position := hstore ▸ h.position }
  | restart => exact absurd rfl huncut

/-- A run that remembers a new position has offered every height between the old one and
    the new one, except that a run which could not read the old one skips heights up to its
    start that were not left over. -/
theorem offered_or_skipped (hs : shared.store.Ordered)
    (hlast : shared.store.position = some last)
    (hrun : ReflTransGen (Within startHeight) (opening shared) now)
    (hnext : now.shared.store.position = some next) (hlo : last < height) (hhi : height ≤ next) :
    .offered height ∈ now.deeds ∨ (shared.fails .readPosition ≠ none ∧ height ≤ startHeight ∧
      height ∉ Scan.leftOver shared.fails shared.store) := by
  have h := keeps_run (fun _ _ hc hstep => hc.step hstep) (follows_opening hs) hrun
  rcases h.position with heq | ⟨hout, hoffered⟩
  · -- No new position was remembered.
    obtain rfl := Option.some.inj (hlast.symm.trans (heq.symm.trans hnext))
    exact absurd (UInt64.lt_of_lt_of_le hlo hhi) (UInt64.lt_irrefl _)
  · have hout := hout next hnext height
    rw [Scan.origin] at hout
    cases hfails : shared.fails .readPosition with
    | none =>
      rw [hfails, hlast] at hout
      exact .inl (hout hlo hhi).2
    | some failure =>
      -- The run has begun at the start height, behind which all is handed out.
      rw [hfails] at hout
      by_cases hstart : startHeight < height
      · exact .inl (hout hstart hhi).2
      · by_cases hleft : height ∈ Scan.leftOver shared.fails shared.store
        · exact .inl (hoffered height hleft)
        · exact .inr ⟨Option.some_ne_none failure, UInt64.not_lt.1 hstart, hleft⟩

/-- The steps of a scan are those of a run. -/
theorem run_scanOn (n : Network) (k : Nat) (c : Career) :
    ReflTransGen (Within startHeight) c (c.scanOn startHeight n k) := by
  induction k generalizing c with
  | zero => exact .refl
  | succ k ih =>
    rw [scanOn]
    split
    · exact .refl
    · next stride hgo =>
      have hfails := Scan.fails_of_go? hgo
      refine .head ?_ (ih _)
      exact {
        step := .scan c n [] stride hgo
        uncut := fun heq => Scan.stage_ne_starting hgo (congrArg Career.scan heq)
        readPosition := congrFun hfails _
        readUnfinished := congrFun hfails _ }

/-- A position is remembered, but it cannot be read. One height was left over. -/
def unreadable : Surroundings :=
  { Surroundings.start ⟨some 2, [(5, .failed)]⟩ 2 with
    fails := fun act => if act = .readPosition then some (.message "disk full") else none }

/-- A run that starts at height 10 then, and is told of the head 11. -/
def fallen : Career :=
  (opening unreadable).scanOn 10 ⟨.done ([], .ok 11), fun _ => .done (.error (.message ""))⟩ 7

/-- What was left over is offered, and what comes behind the start. -/
theorem offered_or_skipped_fallen : fallen.shared.store.position = some 11 ∧
    .offered 5 ∈ fallen.deeds ∧ .offered 11 ∈ fallen.deeds := by
  have hrun : ReflTransGen (Within 10) (opening unreadable) fallen := run_scanOn _ _ _
  have hposition : fallen.shared.store.position = some 11 := rfl
  refine ⟨hposition, ?_, ?_⟩
  · exact (offered_or_skipped (by decide) rfl hrun hposition (by decide) (by decide)).resolve_right
      fun hskipped => hskipped.2.2 (by decide)
  · exact (offered_or_skipped (by decide) rfl hrun hposition (by decide) (by decide)).resolve_right
      fun hskipped => absurd hskipped.2.1 (by decide)

/-- A run may come from height 2 to height 11 without having offered height 7, although
    every write succeeds. -/
theorem not_offered_of_unreadable :
    unreadable.store.Ordered ∧ unreadable.store.position = some 2 ∧
      (∀ height status, unreadable.fails (.setStatus height status) = none) ∧
      (∀ height, unreadable.fails (.setPosition height) = none) ∧
      ReflTransGen (Within 10) (opening unreadable) fallen ∧
      fallen.shared.store.position = some 11 ∧ .offered 7 ∉ fallen.deeds := by
  have hdeeds : fallen.deeds = [.offered 5, .noted 11 .handedOut, .offered 11] := rfl
  refine ⟨by decide, rfl, by simp [unreadable], by simp [unreadable], run_scanOn _ _ _, rfl, ?_⟩
  rw [hdeeds]
  decide

end Career

end ChainRelay
