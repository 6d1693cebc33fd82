import ChainRelay.Proofs.Scanner.Steps

/-!
# Scans whose writes may fail

For each height behind its position a scan makes two writes, `Scan.Write.status`
before the height is offered and `Scan.Write.position` behind that. Which operations
of the store it has made at a stage is known (`Scan.calls`), and so are those that come
before a write (`Ascends.mem_calls`). Unless it is stopped or abandoned, a scan comes
closer to its end by each step but polls, also where operations fail
(`Moves.toDo_lt`).
-/

namespace ChainRelay.Scan

/-- The writes for a height, up to one of them. -/
def Write.upTo (height : UInt64) : Write → List Act
  | .status => [.setStatus height .handedOut]
  | .position => [.setStatus height .handedOut, .setPosition height]

/-- The height up to which a scan gets on that breaks off by a write. -/
def Write.reach (height : UInt64) : Write → UInt64
  | .status => height - 1
  | .position => height

/-- The operations of the store by which a scan goes from `first` to a position. -/
def callsTo (first position : UInt64) : List Act :=
  .readPosition :: .readUnfinished :: (heights first position).flatMap fun height =>
    Write.position.upTo height

/-- The operations of the store that a scan has made when it comes to a stage. -/
def calls (first : UInt64) : Scan → List Act
  | starting | ended _ => []
  | resuming _ => [.readPosition]
  | reoffering position _ _ | polling position | resting position | marking position _ =>
    callsTo first position
  | offering position _ | advancing position _ =>
    callsTo first position ++ Write.status.upTo (position + 1)

/-- Where a scan begins that may fail to read its position. -/
def origin (startHeight : UInt64) (fails : Act → Option Failure) (store : Store) : UInt64 :=
  match fails .readPosition with
  | some _ => startHeight
  | none => store.position.getD startHeight

/-- The heights left over that a scan finds which may fail to read them. -/
def leftOver (fails : Act → Option Failure) (store : Store) : List UInt64 :=
  match fails .readUnfinished with
  | some _ => []
  | none => store.unfinished

variable {startHeight first top position head : UInt64} {again : List UInt64}
  {heads : List (Outcome UInt64)} {s : Surroundings} {scan : Scan} {stride : Stride Scan}

/-! ## Operations of the store -/

theorem calls_reoffer (left : List UInt64) :
    (Scan.reoffer position left).calls first = callsTo first position := by
  cases left <;> rfl

theorem calls_approach : (Scan.approach position head).calls first = callsTo first position := by
  rcases approach_eq position head with h | h <;> rw [h] <;> rfl

theorem calls_polled (answer : Outcome UInt64) :
    (Scan.polled position answer).calls first = callsTo first position := by
  rcases polled_eq position answer with h | ⟨head, h⟩ <;> rw [h] <;> rfl

theorem callsTo_self (first : UInt64) : callsTo first first = [.readPosition, .readUnfinished] := by
  rw [callsTo, heights_eq_nil (UInt64.le_refl _)]
  rfl

theorem callsTo_succ (hle : first ≤ position) (h : position < head) :
    callsTo first (position + 1) =
      callsTo first position ++ Write.position.upTo (position + 1) := by
  rw [callsTo, heights_succ hle h, List.flatMap_append, List.flatMap_singleton]
  rfl

/-- A step that succeeds makes the operation of the store that is due, and no other. -/
theorem Strides.calls_eq (h : Strides startHeight s scan stride) :
    stride.surroundings.calls = s.calls ++ scan.operation?.toList := by
  cases h with
  | start | resume | mark | advance => rfl
  | reoffer | rest | offer => exact (List.append_nil _).symm

/-- By the operation that is due, a scan comes to have made those of the next stage. -/
theorem Strides.calls_stage (h : Strides startHeight s scan stride)
    (hc : scan.Ascends first top heads) :
    stride.stage.calls first = scan.calls first ++ scan.operation?.toList := by
  cases h with
  | start | mark => rfl
  | resume position =>
    rw [calls_reoffer, hc.1, callsTo_self]
    rfl
  | reoffer position height more =>
    rw [calls_reoffer]
    exact (List.append_nil _).symm
  | rest | offer => exact (List.append_nil _).symm
  | advance position head =>
    rw [calls_approach, callsTo_succ hc.1 hc.2.1]
    exact (List.append_assoc _ (Write.status.upTo (position + 1)) [_]).symm

/-- A scan reads its position and what was left over, unless that fails. -/
theorem getD_position_of_kept (h : origin startHeight s.fails s.store = first)
    (hkept : s.fails .readPosition = none) : s.store.position.getD startHeight = first := by
  rwa [origin, hkept] at h

theorem unfinished_of_kept (h : leftOver s.fails s.store = again)
    (hkept : s.fails .readUnfinished = none) : s.store.unfinished = again := by
  rwa [leftOver, hkept] at h

/-- A scan begins at its origin. -/
theorem stage_of_start {n : Network} {replies : List Http.Reply}
    (hgo : s.go? n replies (turn startHeight) starting = some stride) :
    stride.stage = resuming (origin startHeight s.fails s.store) := by
  rw [Surroundings.go?_readPosition rfl] at hgo
  rw [← Option.some.inj hgo, origin]
  cases s.fails .readPosition with
  | some failure => rfl
  | none => cases s.store.position <;> rfl

/-! ## Steps that are left -/

/-- A scan that is neither stopped nor abandoned comes closer to its end by each step
    but polls. -/
theorem Moves.toDo_lt (h : Moves startHeight s scan stride) (hc : scan.Ascends first top heads)
    (hleave : ¬ (s.isStopped ∨ s.isAbandoned))
    (hearly : scan.IsEarly → origin startHeight s.fails s.store = first ∧
      leftOver s.fails s.store = again) :
    2 * (stride.stage.toDo again first top).length + stride.stage.rank <
      2 * (scan.toDo again first top).length + scan.rank := by
  cases h with
  | goes hstride hkept =>
    have hposition : scan = starting → s.store.position.getD startHeight = first := by
      rintro rfl
      exact getD_position_of_kept (hearly trivial).1 (hkept _ rfl)
    have hagain : ∀ position, scan = resuming position → s.store.unfinished = again := by
      rintro position rfl
      exact unfinished_of_kept (hearly trivial).2 (hkept _ rfl)
    obtain ⟨-, htoDo⟩ := hstride.ascends hc hposition hagain
    have hrank := hstride.rank_lt
    rw [htoDo, List.length_append]
    omega
  | unread failure log hfails =>
    exact Nat.add_lt_add_left (Nat.lt_succ_self 1) _
  | unresumed position failure log hfails =>
    obtain ⟨rfl, -⟩ := hc
    obtain rfl : [] = again := by
      rw [← (hearly trivial).2, leftOver, hfails]
    exact Nat.lt_succ_self _
  | leaves hwaits hleft => exact absurd hleft hleave
  | breaks height write failure log hwrite hfault =>
    cases scan with
    | marking position head =>
      -- A scan that marks a height has yet to hand it out.
      rw [show (marking position head).toDo again first top = handOuts position top from rfl,
        handOuts_of_lt hc.lt_top]
      exact Nat.zero_lt_succ _
    | advancing => exact Nat.zero_lt_succ _
    | starting | resuming | reoffering | polling | resting | offering | ended =>
      exact absurd hwrite nofun

/-! ## The order of writes -/

/-- A scan comes to a write for some height before it comes to another. -/
def Write.Before (earlier later : UInt64 × Write) : Prop :=
  earlier.1 < later.1 ∨ earlier.1 = later.1 ∧ earlier.2 = .status ∧ later.2 = .position

theorem Write.before_trichotomy (a b : UInt64 × Write) : Before a b ∨ a = b ∨ Before b a := by
  obtain ⟨height, write⟩ := a
  obtain ⟨height', write'⟩ := b
  rcases Nat.lt_trichotomy height.toNat height'.toNat with h | h | h
  · exact .inl (.inl (UInt64.lt_iff_toNat_lt.2 h))
  · obtain rfl := UInt64.toNat_inj.1 h
    cases write <;> cases write' <;> simp [Before]
  · exact .inr (.inr (.inl (UInt64.lt_iff_toNat_lt.2 h)))

/-- On the way to a position a scan makes the writes of the heights on the way. -/
theorem mem_callsTo (height : UInt64) (write : Write) :
    write.act height ∈ callsTo first position ↔ height ∈ heights first position := by
  have hread : write.act height ≠ .readPosition ∧ write.act height ≠ .readUnfinished := by
    cases write <;> exact ⟨nofun, nofun⟩
  rw [callsTo, List.mem_cons, List.mem_cons, List.mem_flatMap, or_iff_right hread.1,
    or_iff_right hread.2]
  constructor
  · rintro ⟨other, hother, hmem⟩
    obtain rfl : height = other := by
      cases write <;> simpa [Write.upTo, Write.act] using hmem
    exact hother
  · intro h
    exact ⟨height, h, by cases write <;> simp [Write.upTo, Write.act]⟩

/-- A scan that is about to make a write has made all that come before it. -/
theorem Ascends.mem_calls (hc : scan.Ascends first top heads) {next other : UInt64 × Write}
    (hnext : scan.write? = some next) (hlt : first < other.1) (hbefore : Write.Before other next) :
    other.2.act other.1 ∈ scan.calls first := by
  have below : ∀ {position head : UInt64}, position < head → other.1 < position + 1 →
      other.2.act other.1 ∈ callsTo first position := by
    intro position head hhead hother
    refine (mem_callsTo _ _).2 (mem_heights.2 ⟨hlt, ?_⟩)
    rcases (le_succ_iff hhead).1 (UInt64.le_of_lt hother) with hle | heq
    · exact hle
    · exact absurd (heq ▸ hother) (UInt64.lt_irrefl _)
  cases scan with
  | marking position head =>
    obtain rfl := Option.some.inj hnext
    rcases hbefore with hother | ⟨-, -, hwrite⟩
    · exact below hc.2.1 hother
    · exact absurd hwrite nofun
  | advancing position head =>
    obtain rfl := Option.some.inj hnext
    rcases hbefore with hother | ⟨hheight, hwrite, -⟩
    · exact List.mem_append_left _ (below hc.2.1 hother)
    · rw [hheight, hwrite]
      exact List.mem_append_right _ List.mem_cons_self
  | starting | resuming | reoffering | polling | resting | offering | ended =>
    exact absurd hnext nofun

end ChainRelay.Scan
