import ChainRelay.Proofs.Http.Exchange
import ChainRelay.Proofs.Store.Rows
import ChainRelay.Task.Surroundings
import Mathlib.Data.List.Induction

/-!
# What tasks do to heights

A task goes on by an act and its answer. `Surroundings.go?` is such a step from
stage to stage: what a task does at a stage by `Surroundings.step?`, with the
exchange that it starts, if it starts one, carried out to its end against the
replies of the node. `Surroundings.Answers` says which answers an act may get:
that of the surroundings, or anything if it concerns the node (`go?_eq_some`).

Of what a task does, `Deed` keeps what concerns heights: that the status of one was
noted, that one was offered, or that a block was handed on. Deeds are all that
changes the rows of a store: what has become of a height is what the last deed about
it says (`Answers.status?_eq`).
-/

namespace ChainRelay

/-- Something that is done about a height. -/
inductive Deed
  /-- What has become of it was noted in the store. -/
  | noted (height : UInt64) (status : BlockStatus)
  /-- It was put into the queue. -/
  | offered (height : UInt64)
  /-- Its block was handed on. -/
  | forwarded (block : Block)
deriving DecidableEq, Repr

/-- What is done by an act with some answer. -/
def Act.deeds : (act : Act) → act.Answer → List Deed
  | .setStatus height status, .ok () => [.noted height status]
  | .offer height, true => [.offered height]
  | .forward block, true => [.forwarded block]
  | _, _ => []

namespace Deed

/-- The status of a height that a deed leaves behind, if it is about that. -/
def status? (height : UInt64) : Deed → Option BlockStatus
  | noted h status => if h = height then some status else none
  | offered _ | forwarded _ => none

theorem status?_eq_some {deed : Deed} {height : UInt64} {status : BlockStatus} :
    deed.status? height = some status ↔ deed = .noted height status := by
  cases deed with
  | noted h s =>
    rw [status?, noted.injEq]
    split_ifs with heq <;> simp [heq]
  | offered | forwarded => simp [status?]

/-- What has become of a height after some deeds. -/
def statusAfter (deeds : List Deed) (height : UInt64) (before : Option BlockStatus) :
    Option BlockStatus :=
  deeds.foldl (fun status deed => (deed.status? height).or status) before

variable {deeds : List Deed} {height : UInt64} {before : Option BlockStatus}

@[simp] theorem statusAfter_nil : statusAfter [] height before = before := rfl

@[simp] theorem statusAfter_cons (deed : Deed) :
    statusAfter (deed :: deeds) height before =
      statusAfter deeds height ((deed.status? height).or before) := rfl

theorem statusAfter_append (more : List Deed) :
    statusAfter (deeds ++ more) height before =
      statusAfter more height (statusAfter deeds height before) :=
  List.foldl_append

/-- Deeds that are not about the status of a height leave it as it was. -/
theorem statusAfter_eq_self (h : ∀ deed ∈ deeds, deed.status? height = none) :
    statusAfter deeds height before = before := by
  induction deeds with
  | nil => rfl
  | cons deed deeds ih =>
    rw [statusAfter_cons, h deed List.mem_cons_self, Option.none_or]
    exact ih fun d hd => h d (List.mem_cons_of_mem _ hd)

/-- A height that had a status has one from then on. -/
theorem statusAfter_ne_none_of_ne (h : before ≠ none) :
    statusAfter deeds height before ≠ none := by
  induction deeds generalizing before with
  | nil => exact h
  | cons deed deeds ih =>
    rw [statusAfter_cons]
    exact ih fun hnone => h (Option.or_eq_none_iff.1 hnone).2

/-- A height that some deed gave a status has one from then on. -/
theorem statusAfter_ne_none {deed : Deed} (hmem : deed ∈ deeds)
    (hdeed : deed.status? height ≠ none) : statusAfter deeds height before ≠ none := by
  -- From the last deed backwards, since that one decides if it is about the height.
  induction deeds using List.reverseRecOn with
  | nil => exact absurd hmem List.not_mem_nil
  | append_singleton deeds last ih =>
    rw [statusAfter_append, statusAfter_cons, statusAfter_nil]
    cases hlast : last.status? height with
    | some status => exact Option.some_ne_none _
    | none =>
      rw [Option.none_or]
      rcases List.mem_append.1 hmem with hmem | hmem
      · exact ih hmem
      · exact absurd hlast (List.mem_singleton.1 hmem ▸ hdeed)

/-- A status that a height has after some deeds is the one that it had before, or
    some deed left it and none after that one has changed it. -/
theorem statusAfter_eq_some {status : BlockStatus}
    (h : statusAfter deeds height before = some status) :
    (before = some status ∧ ∀ deed ∈ deeds, deed.status? height = none) ∨
      ∃ done deed rest, deeds = done ++ deed :: rest ∧ deed.status? height = some status ∧
        ∀ later ∈ rest, later.status? height = none := by
  induction deeds using List.reverseRecOn generalizing status with
  | nil => exact .inl ⟨h, fun _ hd => absurd hd List.not_mem_nil⟩
  | append_singleton deeds last ih =>
    rw [statusAfter_append, statusAfter_cons, statusAfter_nil] at h
    cases hlast : last.status? height with
    | some told =>
      rw [hlast, Option.some_or] at h
      exact .inr ⟨deeds, last, [], rfl, hlast.trans h, fun _ hd => absurd hd List.not_mem_nil⟩
    | none =>
      rw [hlast, Option.none_or] at h
      rcases ih h with ⟨hbefore, hnone⟩ | ⟨done, deed, rest, rfl, hdeed, hrest⟩
      · refine .inl ⟨hbefore, fun deed hd => ?_⟩
        rcases List.mem_append.1 hd with hd | hd
        · exact hnone deed hd
        · exact List.mem_singleton.1 hd ▸ hlast
      · refine .inr ⟨done, deed, rest ++ [last], by simp, hdeed, fun later hd => ?_⟩
        rcases List.mem_append.1 hd with hd | hd
        · exact hrest later hd
        · exact List.mem_singleton.1 hd ▸ hlast

/-! ## Deeds of scans -/

/-- The height that is put into the queue, if one is. -/
def offered? : Deed → Option UInt64
  | offered height => some height
  | _ => none

/-- The height that is marked as handed out, if one is. -/
def handedOut? : Deed → Option UInt64
  | noted height .handedOut => some height
  | _ => none

/-- Whether scans do such things, and not those that observe. -/
def isOfScan (deed : Deed) : Bool := deed.offered?.isSome || deed.handedOut?.isSome

theorem handedOut?_eq_some {deed : Deed} {height : UInt64} :
    deed.handedOut? = some height ↔ deed = .noted height .handedOut := by
  cases deed with
  | noted h status => cases status <;> simp [handedOut?]
  | offered | forwarded => simp [handedOut?]

/-- What is read only off the deeds of scans is the same without all others. -/
theorem filterMap_isOfScan {α : Type} {look : Deed → Option α}
    (h : ∀ deed, (look deed).isSome → deed.isOfScan) (deeds : List Deed) :
    (deeds.filter isOfScan).filterMap look = deeds.filterMap look := by
  rw [List.filterMap_filter]
  congr 1
  funext deed
  split_ifs with hdeed
  · rfl
  · -- A deed that is not of a scan shows nothing.
    cases hlook : look deed with
    | none => rfl
    | some x => exact absurd (h deed (hlook ▸ rfl)) hdeed

theorem filterMap_offered?_isOfScan (deeds : List Deed) :
    (deeds.filter isOfScan).filterMap offered? = deeds.filterMap offered? :=
  filterMap_isOfScan (fun _ h => by rw [isOfScan, h, Bool.true_or]) deeds

theorem filterMap_handedOut?_isOfScan (deeds : List Deed) :
    (deeds.filter isOfScan).filterMap handedOut? = deeds.filterMap handedOut? :=
  filterMap_isOfScan (fun _ h => by rw [isOfScan, h, Bool.or_true]) deeds

/-- What those that observe note is not a deed of a scan. -/
theorem filter_isOfScan_append_noted {status : BlockStatus} (hstatus : status ≠ .handedOut) :
    (deeds ++ [noted height status]).filter isOfScan = deeds.filter isOfScan := by
  have hnot : ¬ (noted height status).isOfScan := by
    cases status with
    | handedOut => exact absurd rfl hstatus
    | observed | failed => exact nofun
  rw [List.filter_append, List.filter_cons_of_neg hnot, List.filter_nil, List.append_nil]

/-- A height that scans marked and of which nothing else was noted is handed out. -/
theorem statusAfter_of_handedOut (hmem : height ∈ deeds.filterMap handedOut?)
    (honly : ∀ status, noted height status ∈ deeds → status = .handedOut) :
    statusAfter deeds height before = some .handedOut := by
  obtain ⟨deed, hdeed, heq⟩ := List.mem_filterMap.1 hmem
  obtain rfl := handedOut?_eq_some.1 heq
  -- The mark of the scan left some status, and the last deed that left one is a mark.
  have hsome : statusAfter deeds height before ≠ none :=
    statusAfter_ne_none hdeed (by simp [status?])
  obtain ⟨status, hstatus⟩ := Option.ne_none_iff_exists'.1 hsome
  obtain ⟨-, hnone⟩ | ⟨done, last, rest, hsplit, hlast, -⟩ := statusAfter_eq_some hstatus
  · exact absurd (hnone _ hdeed) (by simp [status?])
  · rw [status?_eq_some.1 hlast] at hsplit
    rw [hstatus, honly status (hsplit ▸ by simp)]

/-- A height that scans did not mark and of which nothing else was noted is as it was. -/
theorem statusAfter_of_not_handedOut (hmem : height ∉ deeds.filterMap handedOut?)
    (honly : ∀ status, noted height status ∈ deeds → status = .handedOut) :
    statusAfter deeds height before = before := by
  refine statusAfter_eq_self fun deed hdeed => ?_
  cases hstatus : deed.status? height with
  | none => rfl
  | some status =>
    -- A deed about the height would be a mark.
    obtain rfl := status?_eq_some.1 hstatus
    rw [honly status hdeed] at hdeed
    exact absurd (List.mem_filterMap.2 ⟨_, hdeed, handedOut?_eq_some.2 rfl⟩) hmem

end Deed

/-- A status that is kept changes what has become of its height only. -/
theorem Store.status?_eq_of_setStatus {store store' : Store} {height : UInt64}
    {status : BlockStatus} (h : store.setStatus height status = .ok store') (other : UInt64) :
    store'.status? other = Deed.statusAfter [.noted height status] other (store.status? other) := by
  rw [status?_setStatus h]
  simp only [Deed.statusAfter_cons, Deed.statusAfter_nil, Deed.status?, eq_comm]
  split_ifs <;> rfl

namespace Surroundings

variable {s s' : Surroundings} {act : Act} {answer : act.Answer}

/-! ## Answers -/

/-- The answers that an act may get, with the surroundings behind it: an answer of
    the surroundings, or whatever the node is found to say. -/
inductive Answers (s : Surroundings) : (act : Act) → act.Answer → Surroundings → Prop
  | served {act : Act} {answer : act.Answer} {s' : Surroundings} :
      s.serveLocal act = some (s', answer) → Answers s act answer s'
  | head (head : Outcome UInt64) : Answers s .pollHead (some head) s
  | block (height : UInt64) (block : Outcome Block) : Answers s (.observe height) block s

/-- A write is done as a whole or not at all. -/
theorem write_cases {change : Store → Outcome Store} {result : Outcome Unit}
    (h : s.write act change = (s', result)) :
    (result = .ok () ∧ change s.store = .ok s'.store) ∨
      (∃ failure, result = .error failure) ∧ s'.store = s.store := by
  unfold write at h
  cases hf : s.fails act with
  | some failure =>
    simp only [hf, Prod.mk.injEq] at h
    exact .inr ⟨⟨failure, h.2.symm⟩, h.1 ▸ rfl⟩
  | none =>
    cases hc : change s.store with
    | ok store =>
      simp only [hf, hc, Prod.mk.injEq] at h
      exact .inl ⟨h.2.symm, h.1 ▸ rfl⟩
    | error failure =>
      simp only [hf, hc, Prod.mk.injEq] at h
      exact .inr ⟨⟨failure, h.2.symm⟩, h.1 ▸ rfl⟩

end Surroundings

/-- What an act with some answer does to the store. -/
def Act.change : (act : Act) → act.Answer → Store → Store
  | .setStatus height status, .ok () => fun store =>
    { store with rows := StatusRows.put height status store.rows }
  | .setPosition height, .ok () => fun store => { store with position := some height }
  | _, _ => id

/-- The position that an act with some answer leaves behind, if it is about that. -/
def Act.position? : (act : Act) → act.Answer → Option UInt64
  | .setPosition height, .ok () => some height
  | _, _ => none

namespace Surroundings

variable {s s' : Surroundings} {act : Act} {answer : act.Answer}

/-- Nothing but a write that succeeds changes the store. -/
theorem Answers.store_eq (h : s.Answers act answer s') : s'.store = act.change answer s.store := by
  cases h with
  | head | block => rfl
  | served h =>
    cases act with
    | setStatus height status =>
      obtain ⟨rfl, hc⟩ | ⟨⟨failure, rfl⟩, hs⟩ := write_cases (Option.some.inj h)
      · exact (Store.setStatus_eq_ok_iff.1 hc).2
      · exact hs
    | setPosition height =>
      obtain ⟨rfl, hc⟩ | ⟨⟨failure, rfl⟩, hs⟩ := write_cases (Option.some.inj h)
      · exact (Store.setPosition_eq_ok_iff.1 hc).2
      · exact hs
    | readPosition | readUnfinished | readFailed =>
      exact congrArg (fun x => x.1.store) (Option.some.inj h).symm
    | observe => exact absurd h nofun
    | pollHead | rest | awaitDue | offer | take | forward =>
      -- These are answered from the queues and the clock alone.
      show s'.store = s.store
      simp only [serveLocal] at h
      grind

/-- What has become of a height is what the last deed about it says. -/
theorem Answers.status?_eq (h : s.Answers act answer s') (height : UInt64) :
    s'.store.status? height =
      Deed.statusAfter (act.deeds answer) height (s.store.status? height) := by
  rw [h.store_eq]
  cases act with
  | setStatus noted status => match answer with
    | .error _ => rfl
    | .ok () =>
      show (StatusRows.put noted status s.store.rows).lookup height =
        (if noted = height then some status else none).or (s.store.rows.lookup height)
      split_ifs with heq
      · exact heq ▸ StatusRows.lookup_put_self _ _ _
      · exact StatusRows.lookup_put_of_ne _ _ (Ne.symm heq)
  | setPosition => match answer with
    | .ok () | .error _ => rfl
  | offer | forward => match answer with
    | true | false => rfl
  | _ => rfl

/-- Nothing but a position that is kept changes the position. -/
theorem Answers.position_eq (h : s.Answers act answer s') :
    s'.store.position = (act.position? answer).or s.store.position := by
  rw [h.store_eq]
  cases act with
  | setStatus | setPosition => match answer with
    | .ok () | .error _ => rfl
  | _ => rfl

/-- The rows of the store keep ascending. -/
theorem Answers.ordered (h : s.Answers act answer s') (hs : s.store.Ordered) :
    s'.store.Ordered := by
  rw [h.store_eq]
  cases act with
  | setStatus => match answer with
    | .ok () => exact StatusRows.Ascending.put hs
    | .error _ => exact hs
  | setPosition => match answer with
    | .ok () | .error _ => exact hs
  | _ => exact hs

end Surroundings

/-! ## Going on -/

/-- How a task has gone on from a stage to the next. -/
structure Stride (σ : Type) where
  /-- The surroundings behind it. -/
  surroundings : Surroundings
  /-- What it has done to heights. -/
  deeds : List Deed
  /-- What it has measured. -/
  log : List Measurement
  /-- The stage it has come to. -/
  stage : σ

namespace Surroundings

variable {σ : Type} {s s' : Surroundings} {act : Act} {answer : act.Answer} {n : Network}
  {replies : List Http.Reply} {turn : σ → Turn σ} {stage : σ}

/-- Answers an act with the exchange that it takes carried out, unless its task has
    to wait. -/
def answer? (s : Surroundings) (n : Network) (replies : List Http.Reply) (act : Act) :
    Option (Surroundings × List Measurement × act.Answer) :=
  (s.serve n act).map fun (s, answering) => (s, (answering.run Http.scripted replies).1)

/-- How a task goes on from a stage to the next, unless it has ended or has to wait. -/
def go? (s : Surroundings) (n : Network) (replies : List Http.Reply) (turn : σ → Turn σ)
    (stage : σ) : Option (Stride σ) :=
  match turn stage with
  | .ended _ => none
  | .ask act next => (s.answer? n replies act).map fun (s, before, answer) =>
      ⟨s, act.deeds answer, before ++ (next answer).1, (next answer).2⟩

/-- To go on is to take the step from the stage and to carry out what it starts. -/
theorem go?_eq_step? :
    (s.go? n replies turn stage).map
      (fun stride => (stride.surroundings, stride.log, stride.stage)) =
      (s.step? n turn (.atStage stage)).map fun (s, activity) =>
        (s, (activity.run Http.scripted replies).1) := by
  rw [go?, Activity.atStage, step?]
  cases turn stage with
  | ended => rfl
  | ask act next =>
    cases hserve : s.serve n act with
    | none => simp [answer?, hserve]
    | some served =>
      simp only [answer?, hserve, Option.map_some, Http.Exchange.run_bind, Http.Exchange.run]

/-- What answers an act may get. -/
theorem answers_of_answer? {log : List Measurement}
    (h : s.answer? n replies act = some (s', log, answer)) : s.Answers act answer s' := by
  unfold answer? serve at h
  cases hserve : s.serveLocal act with
  | some served =>
    simp only [hserve, Option.map_some, Act.answered, Http.Exchange.run, Option.some.injEq,
      Prod.mk.injEq] at h
    obtain ⟨rfl, -, rfl⟩ := h
    exact .served hserve
  | none =>
    cases act with
    | pollHead =>
      simp only [hserve, Option.map_some, Http.Exchange.run_bind, Http.Exchange.run,
        Option.some.injEq, Prod.mk.injEq] at h
      obtain ⟨rfl, -, rfl⟩ := h
      exact .head _
    | observe height =>
      simp only [hserve, Option.map_some, Http.Exchange.run_bind, Http.Exchange.run,
        Option.some.injEq, Prod.mk.injEq] at h
      obtain ⟨rfl, -, rfl⟩ := h
      exact .block _ _
    | _ => simp [hserve] at h

/-- A task that has gone on has asked for something, and went on with the answer. -/
theorem exists_answer_of_go? {next : act.Answer → List Measurement × σ} {stride : Stride σ}
    (hturn : turn stage = .ask act next) (h : s.go? n replies turn stage = some stride) :
    ∃ answer, s.Answers act answer stride.surroundings ∧ stride.deeds = act.deeds answer ∧
      stride.stage = (next answer).2 := by
  rw [go?, hturn, Option.map_eq_some_iff] at h
  obtain ⟨⟨s', before, answer⟩, hanswer, rfl⟩ := h
  exact ⟨answer, answers_of_answer? hanswer, rfl, rfl⟩

/-- The steps of any task change what has become of heights by their deeds alone. -/
theorem status?_of_go? {stride : Stride σ} (h : s.go? n replies turn stage = some stride)
    (height : UInt64) : stride.surroundings.store.status? height =
      Deed.statusAfter stride.deeds height (s.store.status? height) := by
  cases hturn : turn stage with
  | ended => simp [go?, hturn] at h
  | ask act next =>
    obtain ⟨answer, ha, hdeeds, -⟩ := exists_answer_of_go? hturn h
    rw [hdeeds]
    exact ha.status?_eq height

/-- The steps of any task keep the rows of the store ascending. -/
theorem ordered_of_go? {stride : Stride σ} (h : s.go? n replies turn stage = some stride)
    (hs : s.store.Ordered) : stride.surroundings.store.Ordered := by
  cases hturn : turn stage with
  | ended => simp [go?, hturn] at h
  | ask act next =>
    obtain ⟨answer, ha, -, -⟩ := exists_answer_of_go? hturn h
    exact ha.ordered hs

/-- A task whose act the surroundings answer goes on with that answer. -/
theorem go?_of_served {next : act.Answer → List Measurement × σ}
    (hturn : turn stage = .ask act next) (h : s.serveLocal act = some (s', answer)) :
    s.go? n replies turn stage =
      some ⟨s', act.deeds answer, (next answer).1, (next answer).2⟩ := by
  simp only [go?, hturn, answer?, serve, h, Option.map_some, Act.answered, Http.Exchange.run,
    List.nil_append]

/-! ### Single steps -/

theorem step?_of_served {next : act.Answer → List Measurement × σ}
    (hturn : turn stage = .ask act next) (h : s.serveLocal act = some (s', answer)) :
    s.step? n turn (.atStage stage) = some (s', .done (next answer)) := by
  simp only [step?, Activity.atStage, hturn, serve, h, Act.answered, Http.Exchange.bind,
    List.nil_append]

/-- A task that asks for a block begins an exchange. -/
theorem step?_observe {height : UInt64} {next : Outcome Block → List Measurement × σ}
    (hturn : turn stage = .ask (.observe height) next) :
    s.step? n turn (.atStage stage) =
      some (s, (n.observe height).bind fun block => .done (next block)) := by
  simp only [step?, Activity.atStage, hturn, serve, serveLocal, Http.Exchange.bind_assoc]
  rfl

/-- A task that has to wait takes no step. -/
theorem step?_eq_none {next : act.Answer → List Measurement × σ}
    (hturn : turn stage = .ask act next) (h : s.serve n act = none) :
    s.step? n turn (.atStage stage) = none := by
  simp only [step?, Activity.atStage, hturn, h]

end Surroundings

end ChainRelay
