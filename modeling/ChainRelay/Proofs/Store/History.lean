import ChainRelay.Proofs.Store.Text

/-!
# What a store remembers

Whatever is done to a store, it remembers what was done last (`History.faithful`): its
position is the one that was set last, and it lists the heights whose status, as it was
put last, is to be offered again. Only a height that is too large makes an operation
fail, and such an operation changes nothing.

Each operation that succeeds adds itself to what the store has to remember
(`Remembers.next`), so by induction over the operations a store remembers all of them.
A store may also be opened again in between, which leaves it as it is
(`Ordered.reopen_file`).
-/

namespace ChainRelay

namespace Store

variable {s s' : Store} {height : UInt64}

/-! ## What is done to a store -/

/-- What can be done to a store. -/
inductive Op
  /-- To remember how far the scan has come. -/
  | setPosition (height : UInt64)
  /-- To remember what has become of a height. -/
  | setStatus (height : UInt64) (status : BlockStatus)
  /-- To open its file again. -/
  | reopen
deriving DecidableEq

namespace Op

/-- What an operation makes of a store. -/
def apply (s : Store) : Op → Outcome Store
  | setPosition height => s.setPosition height
  | setStatus height status => s.setStatus height status
  | reopen => .ok (s.reopen .file)

/-- The height that is to be stored. -/
def height? : Op → Option UInt64
  | setPosition height => some height
  | setStatus height _ => some height
  | reopen => none

/-- The position that is set. -/
def position? : Op → Option UInt64
  | setPosition height => some height
  | _ => none

/-- The status that is put for a height. -/
def status? (height : UInt64) : Op → Option BlockStatus
  | setStatus other status => if other = height then some status else none
  | _ => none

end Op

theorem Ordered.apply_reopen (hs : s.Ordered) : Op.reopen.apply s = .ok s := by
  rw [Op.apply, hs.reopen_file]

theorem maxHeight_lt_iff : maxHeight < height ↔ 2 ^ 63 - 1 < height.toNat :=
  UInt64.lt_iff_toNat_lt

/-- Only heights that are too large make an operation fail. -/
theorem Ordered.fails_iff (hs : s.Ordered) (op : Op) :
    (∃ failure, op.apply s = .error failure) ↔
      ∃ height ∈ op.height?, 2 ^ 63 - 1 < height.toNat := by
  simp only [← maxHeight_lt_iff]
  cases op with
  | setPosition height =>
    rw [Op.apply, Store.setPosition]
    split_ifs with hle <;> simp [Op.height?, ← UInt64.not_le, hle]
  | setStatus height status =>
    rw [Op.apply, Store.setStatus]
    split_ifs with hle <;> simp [Op.height?, ← UInt64.not_le, hle]
  | reopen => simp [hs.apply_reopen, Op.height?]

/-- A store with what was done to it, the latest last. Only what succeeded counts. -/
structure History where
  /-- The store now. -/
  store : Store
  /-- The operations that succeeded. -/
  done : List Op

namespace History

/-- Tries an operation. If it fails, the store stays as it is. -/
def next (h : History) (op : Op) : History :=
  match op.apply h.store with
  | .ok s => ⟨s, h.done ++ [op]⟩
  | .error _ => h

/-- What becomes of a new store. -/
def of (ops : List Op) : History := ops.foldl next ⟨.empty, []⟩

/-- The position that was set last, if any. -/
def lastPosition (h : History) : Option UInt64 := (h.done.filterMap Op.position?).getLast?

/-- The status that was put last for a height, if any. -/
def lastStatus (h : History) (height : UInt64) : Option BlockStatus :=
  (h.done.filterMap (Op.status? height)).getLast?

variable {h : History}

theorem getLast?_filterMap_concat {α : Type} (f : Op → Option α) (ops : List Op) (op : Op) :
    ((ops ++ [op]).filterMap f).getLast? = (f op).or (ops.filterMap f).getLast? := by
  rw [List.filterMap_append, List.getLast?_append]
  cases hop : f op <;> simp [hop]

/-- The store remembers all that was done to it. -/
structure Remembers (h : History) : Prop where
  ordered : h.store.Ordered
  position : h.store.position = h.lastPosition
  status (height : UInt64) : h.store.status? height = h.lastStatus height

/-- An operation adds to what is remembered, if it succeeds. -/
theorem Remembers.next (hh : h.Remembers) (op : Op) : (h.next op).Remembers := by
  rw [History.next]
  split
  · next s hs =>
    cases op with
    | setPosition height =>
      have hordered := hh.ordered.setPosition hs
      obtain ⟨-, rfl⟩ := setPosition_eq_ok_iff.1 hs
      refine ⟨hordered, ?_, fun other => ?_⟩
      · rw [lastPosition, getLast?_filterMap_concat]
        rfl
      · rw [lastStatus, getLast?_filterMap_concat]
        exact hh.status other
    | setStatus height status =>
      refine ⟨hh.ordered.setStatus hs, ?_, fun other => ?_⟩
      · rw [lastPosition, getLast?_filterMap_concat]
        exact (position_setStatus hs).trans hh.position
      · rw [lastStatus, getLast?_filterMap_concat, status?_setStatus hs, Op.status?]
        -- Only the height itself has got another status.
        split_ifs with heq hne hne
        · rfl
        · exact absurd heq.symm hne
        · exact absurd hne.symm heq
        · exact hh.status other
    | reopen =>
      cases hh.ordered.apply_reopen.symm.trans hs
      refine ⟨hh.ordered, ?_, fun other => ?_⟩
      · rw [lastPosition, getLast?_filterMap_concat]
        exact hh.position
      · rw [lastStatus, getLast?_filterMap_concat]
        exact hh.status other
  · exact hh

theorem remembers_of (ops : List Op) : (of ops).Remembers :=
  List.foldlRecOn ops next ⟨ordered_empty, rfl, fun _ => rfl⟩ fun _ hh op _ => hh.next op

/-- What the answers of a store are, after a history. -/
structure Faithful (h : History) : Prop where
  /-- Exactly the heights beyond sixty-three bits make an operation fail. -/
  fails_iff (op : Op) : (∃ failure, op.apply h.store = .error failure) ↔
    ∃ height ∈ op.height?, 2 ^ 63 - 1 < height.toNat
  /-- An operation that fails changes nothing. -/
  unchanged {op : Op} {failure : Failure} :
    op.apply h.store = .error failure → h.next op = h
  /-- The position is the one that was set last. -/
  position : h.store.position = h.lastPosition
  /-- The failed heights are listed in ascending order, -/
  pairwise_failed : h.store.failed.Pairwise (· < ·)
  /-- and they are those whose last status says that they have failed. -/
  mem_failed (height : UInt64) :
    height ∈ h.store.failed ↔ h.lastStatus height = some .failed
  /-- So are the unfinished heights, -/
  pairwise_unfinished : h.store.unfinished.Pairwise (· < ·)
  /-- which have been handed out, or have failed, at last. -/
  mem_unfinished (height : UInt64) : height ∈ h.store.unfinished ↔
    h.lastStatus height = some .handedOut ∨ h.lastStatus height = some .failed
  /-- A position leaves the statuses alone. -/
  setPosition {height : UInt64} {s : Store} : h.store.setPosition height = .ok s →
    s.failed = h.store.failed ∧ s.unfinished = h.store.unfinished
  /-- A status leaves the position alone. -/
  setStatus {height : UInt64} {status : BlockStatus} {s : Store} :
    h.store.setStatus height status = .ok s → s.position = h.store.position
  /-- Opening the file again changes nothing. -/
  reopen : Op.reopen.apply h.store = .ok h.store ∧ h.store.reopen .file = h.store

/-- After any operations, a store answers as if it kept a position and a map from heights
    to statuses. -/
theorem faithful (ops : List Op) : (of ops).Faithful := by
  have hh := remembers_of ops
  exact {
    fails_iff := hh.ordered.fails_iff
    unchanged := fun hfail => by rw [next, hfail]
    position := hh.position
    pairwise_failed := hh.ordered.pairwise_failed
    mem_failed := fun height => by rw [hh.ordered.mem_failed, hh.status]
    pairwise_unfinished := hh.ordered.pairwise_unfinished
    mem_unfinished := fun height => by
      rw [hh.ordered.mem_unfinished, hh.status]
      cases (of ops).lastStatus height with
      | none => simp
      | some status => cases status <;> simp
    setPosition := fun hs => by
      obtain ⟨-, rfl⟩ := setPosition_eq_ok_iff.1 hs
      exact ⟨rfl, rfl⟩
    setStatus := position_setStatus
    reopen := ⟨hh.ordered.apply_reopen, hh.ordered.reopen_file⟩ }

/-- The statuses come in another order than the heights, one position is too large, and the
    file is opened again before the last two operations. -/
theorem faithful_across_reopening :
    let h := of [.setStatus 4 .failed, .setPosition 42, .setStatus 2 .handedOut,
      .setPosition 9223372036854775808, .reopen, .setStatus 3 .observed, .setStatus 2 .failed]
    h.store.position = some 42 ∧ 2 ∈ h.store.failed ∧ 4 ∈ h.store.failed ∧
      3 ∉ h.store.unfinished ∧ 42 ∉ h.store.unfinished ∧
      (∃ failure, (Op.setPosition 9223372036854775808).apply h.store = .error failure) ∧
      h.store.reopen .file = h.store := by
  intro h
  have hh := faithful [.setStatus 4 .failed, .setPosition 42, .setStatus 2 .handedOut,
    .setPosition 9223372036854775808, .reopen, .setStatus 3 .observed, .setStatus 2 .failed]
  refine ⟨hh.position.trans (by decide +kernel), (hh.mem_failed 2).2 (by decide +kernel),
    (hh.mem_failed 4).2 (by decide +kernel), fun hmem => ?_, fun hmem => ?_,
    (hh.fails_iff _).2 ⟨_, rfl, by decide⟩, hh.reopen.2⟩
  · exact absurd ((hh.mem_unfinished 3).1 hmem) (by decide +kernel)
  · exact absurd ((hh.mem_unfinished 42).1 hmem) (by decide +kernel)

end History

end Store

end ChainRelay
