import ChainRelay.Proofs.Scanner.Steps
import ChainRelay.Proofs.Task.Working

/-!
# The course of a scan

In surroundings that work, a scan knows its course: it goes on to the top and does all
that it has to do, as long as no head is told that is too large to be stored
(`Scan.OnCourse`). So it never breaks off, and all its steps are strides
(`strides_of_go?`).
-/

namespace ChainRelay

/-- A scan that polls goes on with what the node tells. -/
theorem Scanner.go?_polling {s : Scanner} {shared : Surroundings} (hw : shared.Works) {o : Observer}
    (position : UInt64) (replies : List Http.Reply) :
    shared.go? (s.network o shared) replies s.turn (.polling position) =
      some ⟨shared, [], ((s.pollHead false).run Http.scripted replies).1.1 ++ [],
        Scan.polled position (s.told replies)⟩ := by
  rw [hw.go?_pollHead rfl, network, hw.isStopped]
  rfl

namespace Scan

variable {startHeight first top position head p : UInt64} {heads : List (Outcome UInt64)}
  {s : Surroundings} {n : Network} {replies : List Http.Reply} {scan : Scan} {stride : Stride Scan}

/-- A scan on its way from a position to a head. -/
structure Climbs (first top : UInt64) (heads : List (Outcome UInt64)) (position head : UInt64) :
    Prop where
  first_le : first ≤ position
  lt_head : position < head
  head_le : head ≤ Store.maxHeight
  summit_eq : summit head heads = top

theorem Climbs.succ_le (h : Climbs first top heads position head) :
    position + 1 ≤ Store.maxHeight :=
  UInt64.le_trans (ChainRelay.succ_le h.lt_head) h.head_le

theorem Climbs.lt_top (h : Climbs first top heads position head) : position < top :=
  UInt64.lt_of_lt_of_le h.lt_head (h.summit_eq ▸ le_summit)

/-- A scan from `first` to `top` is at a stage where `heads` are still to be told. -/
def OnCourse (first top : UInt64) (heads : List (Outcome UInt64)) : Scan → Prop
  | starting => summit first heads = top
  | resuming position | reoffering position _ _ => position = first ∧ summit position heads = top
  | polling position | resting position => first ≤ position ∧ summit position heads = top
  | marking position head | offering position head | advancing position head =>
    Climbs first top heads position head
  | ended _ => False

/-- Whether the head that a scan goes on to can be stored. -/
def IsStorable : Scan → Prop
  | marking _ head | offering _ head | advancing _ head => head ≤ Store.maxHeight
  | _ => True

/-- A scan is on its course if it is on its way to the top and can store the heights on
    it. -/
theorem onCourse_iff : scan.OnCourse first top heads ↔
    scan.Ascends first top heads ∧ scan.IsStorable := by
  have hclimbs : ∀ position head, Climbs first top heads position head ↔
      (first ≤ position ∧ position < head ∧ summit head heads = top) ∧ head ≤ Store.maxHeight :=
    fun _ _ => ⟨fun h => ⟨⟨h.first_le, h.lt_head, h.summit_eq⟩, h.head_le⟩,
      fun h => ⟨h.1.1, h.1.2.1, h.2, h.1.2.2⟩⟩
  cases scan with
  | marking | offering | advancing => exact hclimbs _ _
  | starting | resuming | reoffering | polling | resting | ended =>
    exact (iff_of_eq (and_true _)).symm

theorem OnCourse.ascends (h : scan.OnCourse first top heads) : scan.Ascends first top heads :=
  (onCourse_iff.1 h).1

theorem isStorable_reoffer (left : List UInt64) : (Scan.reoffer position left).IsStorable := by
  cases left <;> exact trivial

theorem isStorable_approach (h : head ≤ Store.maxHeight) :
    (approach position head).IsStorable := by
  rcases approach_eq position head with heq | heq <;> rw [heq]
  · exact h
  · exact trivial

theorem isStorable_polled {answer : Outcome UInt64}
    (h : ∀ head, answer = .ok head → head ≤ Store.maxHeight) :
    (polled position answer).IsStorable := by
  match answer with
  | .error _ => exact trivial
  | .ok head =>
    rw [Scan.polled]
    split_ifs
    · exact h head rfl
    · exact trivial

theorem Strides.isStorable (h : Strides startHeight s scan stride) (hc : scan.IsStorable) :
    stride.stage.IsStorable := by
  cases h with
  | start | rest => exact trivial
  | resume | reoffer => exact isStorable_reoffer _
  | mark | offer => exact hc
  | advance => exact isStorable_approach hc

/-- What a poll tells moves a scan up, or not at all. -/
theorem OnCourse.polled {answer : Outcome UInt64}
    (h : (polling position).OnCourse first top (answer :: heads))
    (hanswer : ∀ head, answer = .ok head → head ≤ Store.maxHeight) (again : List UInt64) :
    (polled position answer).OnCourse first top heads ∧
      (polled position answer).toDo again first top = (polling position).toDo again first top := by
  obtain ⟨hascends, htoDo⟩ := h.ascends.polled again
  exact ⟨onCourse_iff.2 ⟨hascends, isStorable_polled hanswer⟩, htoDo⟩

/-- A step of a scan keeps it on its course, and does the first of what it has yet to
    do, or nothing. -/
theorem Strides.toDo (h : Strides startHeight s scan stride) (hc : scan.OnCourse first top heads)
    {again : List UInt64} (hs : scan.IsEarly →
      s.store.position.getD startHeight = first ∧ s.store.unfinished = again) :
    stride.stage.OnCourse first top heads ∧
      scan.toDo again first top = stride.deeds ++ stride.stage.toDo again first top := by
  obtain ⟨hascends, htoDo⟩ := h.ascends hc.ascends (fun hstarting => (hs (hstarting ▸ trivial)).1)
    fun _ hresuming => (hs (hresuming ▸ trivial)).2
  exact ⟨onCourse_iff.2 ⟨hascends, h.isStorable (onCourse_iff.1 hc).2⟩, htoDo⟩

/-- No write of a scan on its course fails. -/
theorem OnCourse.fault?_eq_none (hc : scan.OnCourse first top heads) (hw : s.Works)
    {height : UInt64} {write : Write} (hwrite : scan.write? = some (height, write)) :
    (write.act height).fault? s.fails = none := by
  cases scan with
  | marking position head =>
    cases hwrite
    exact hw.fault?_setStatus (Climbs.succ_le hc)
  | advancing position head =>
    cases hwrite
    exact hw.fault?_setPosition (Climbs.succ_le hc)
  | starting | resuming | reoffering | polling | resting | offering | ended =>
    exact absurd hwrite nofun

/-- A scan on its course that goes on, but not by a poll, takes one of these steps. -/
theorem strides_of_go? (hw : s.Works) (hc : scan.OnCourse first top heads)
    (hpoll : ∀ position, scan ≠ polling position)
    (hgo : s.go? n replies (turn startHeight) scan = some stride) :
    Strides startHeight s scan stride := by
  cases moves_of_go? (.inr hpoll) hgo with
  | goes hstride => exact hstride
  | unread failure log hfails => exact absurd hfails (by simp [hw.fails])
  | unresumed position failure log hfails => exact absurd hfails (by simp [hw.fails])
  | leaves hwaits hleave => exact absurd hleave (by simp [hw.isStopped, hw.isAbandoned])
  | breaks height write failure log hwrite hfault =>
    exact absurd (hc.fault?_eq_none hw hwrite) (by simp [hfault])

/-- A scan whose last poll is behind it and that waits to poll has come to the top. -/
theorem OnCourse.atRest (h : scan.OnCourse first top [])
    (hscan : scan = polling p ∨ scan = resting p) (again : List UInt64) :
    scan.position first = top ∧ scan.toDo again first top = [] ∧ scan.left again = [] := by
  rcases hscan with rfl | rfl
  · obtain rfl : p = top := h.2
    exact ⟨rfl, handOuts_self _, rfl⟩
  · obtain rfl : p = top := h.2
    exact ⟨rfl, handOuts_self _, rfl⟩

theorem Strides.works (h : Strides startHeight s scan stride) (hw : s.Works) :
    stride.surroundings.Works := by
  cases h <;> exact hw.frame ..

/-- The position that is remembered is that of the scan, once that has moved. -/
theorem Strides.position_eq (h : Strides startHeight s scan stride)
    (hc : scan.OnCourse first top heads)
    (hs : scan.IsEarly → s.store.position.getD startHeight = first)
    {before : Option UInt64} (hp : s.store.position =
      if scan.position first = first then before else some (scan.position first)) :
    stride.surroundings.store.position = if stride.stage.position first = first then before
      else some (stride.stage.position first) :=
  h.position_of_ascends hc.ascends (fun hstarting => hs (hstarting ▸ trivial)) hp

/-- Each move of a scan is counted. -/
theorem Strides.scanned (h : Strides startHeight s scan stride)
    (hc : scan.OnCourse first top heads)
    (hs : scan.IsEarly → s.store.position.getD startHeight = first) :
    stride.log.count .scanned + (scan.position first).toNat =
      (stride.stage.position first).toNat := by
  cases h with
  | start p hfirst =>
    obtain rfl : p = first := hfirst.symm.trans (hs trivial)
    simp [position]
  | resume | reoffer => rw [position_reoffer]; simp [position]
  | rest | mark | offer => simp [position]
  | advance p head =>
    rw [position_approach, toNat_succ hc.lt_head]
    simp [position, Nat.add_comm]

end Scan

end ChainRelay
