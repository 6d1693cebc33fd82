import ChainRelay.Proofs.Observer.Strides
import ChainRelay.Proofs.Runs
import Mathlib.Logic.Function.Basic

/-!
# Crews

A crew is the workers of one observer, in surroundings of which nothing is asked:
the store may fail, the node answers whatever it likes, all tasks may be stopped, and
whoever takes the blocks may go away. Other tasks change what is shared at any time,
but observe no heights (`Surroundings.Tends`). A run may be cut off after any step.

A worker notes a height as observed before it hands the block on. So the last height
that a worker notes may be one whose block nobody gets (`Crew.observed_but_lost`); the
blocks of all that it noted before were handed on (`Crew.hands_on`).
-/

namespace ChainRelay

/-! ## Heights that were noted -/

/-- Right after a height was noted as observed, its block was handed on, unless that is
    owed for it to this day. -/
def Deed.HandOn (isOwed : UInt64 → Prop) (deeds : List Deed) : Prop :=
  ∀ before after height, deeds = before ++ .noted height .observed :: after →
    (∃ block rest, after = .forwarded block :: rest ∧ block.height = height) ∨
      after = [] ∧ isOwed height

namespace Deed.HandOn

variable {deeds : List Deed} {isOwed isOwed' : UInt64 → Prop}

theorem nil : HandOn isOwed [] := by
  intro before after height h
  exact absurd h.symm (by simp)

theorem mono (h : HandOn isOwed deeds) (hle : ∀ height, isOwed height → isOwed' height) :
    HandOn isOwed' deeds :=
  fun before after height heq => (h before after height heq).imp_right (And.imp_right (hle height))

/-- Whatever is done next settles what was owed, and owes what it notes as observed. -/
theorem append_singleton (h : HandOn isOwed deeds) {deed : Deed}
    (hpaid : ∀ height, isOwed height → ∃ block, deed = .forwarded block ∧ block.height = height)
    (howed : ∀ height, deed = .noted height .observed → isOwed' height) :
    HandOn isOwed' (deeds ++ [deed]) := by
  intro before after height heq
  rcases List.eq_nil_or_concat after with rfl | ⟨more, last, hlast⟩
  · exact .inr ⟨rfl, howed height (List.singleton_inj.1 (List.append_inj_right' heq rfl))⟩
  · rw [List.concat_eq_append] at hlast
    subst hlast
    rw [← List.cons_append, ← List.append_assoc] at heq
    obtain ⟨hdeeds, hlast⟩ := List.append_inj' heq rfl
    obtain rfl := List.singleton_inj.1 hlast
    rcases h before more height hdeeds with ⟨block, rest, rfl, hheight⟩ | ⟨rfl, hisOwed⟩
    · exact .inl ⟨block, rest ++ [deed], rfl, hheight⟩
    · obtain ⟨block, rfl, hheight⟩ := hpaid height hisOwed
      exact .inl ⟨block, [], rfl, hheight⟩

end Deed.HandOn

/-! ## Steps of workers -/

namespace Surroundings

variable {s s' : Surroundings}

/-- What other tasks may have done in the meantime. -/
structure Tends (s s' : Surroundings) : Prop where
  isUnread : s.isUnread → s'.isUnread
  ordered : s.store.Ordered → s'.store.Ordered
  /-- No row is dropped. -/
  row : ∀ height, s.store.status? height ≠ none → s'.store.status? height ≠ none
  /-- No height is noted as observed. -/
  observed : ∀ height, s'.store.status? height = some .observed →
    s.store.status? height = some .observed

/-- No act of a task makes those who take the blocks go away. -/
theorem Answers.isUnread_eq {act : Act} {answer : act.Answer} (h : s.Answers act answer s') :
    s'.isUnread = s.isUnread := by
  have write : ∀ {act : Act} {change : Store → Outcome Store} {result : Outcome Unit},
      s.write act change = (s', result) → s'.isUnread = s.isUnread := by
    intro act change result h
    unfold Surroundings.write at h
    grind
  cases h with
  | head | block => rfl
  | served h =>
    cases act with
    | setStatus | setPosition => exact write (Option.some.inj h)
    | observe => exact absurd h nofun
    | readPosition | readUnfinished | readFailed =>
      exact congrArg (fun x => x.1.isUnread) (Option.some.inj h).symm
    | pollHead | rest | awaitDue | offer | take | forward =>
      simp only [serveLocal] at h
      grind

/-- The steps of any task leave those who take the blocks where they are. -/
theorem isUnread_of_go? {σ : Type} {n : Network} {replies : List Http.Reply} {turn : σ → Turn σ}
    {stage : σ} {stride : Stride σ} (h : s.go? n replies turn stage = some stride) :
    stride.surroundings.isUnread = s.isUnread := by
  cases hturn : turn stage with
  | ended => simp [go?, hturn] at h
  | ask act next =>
    obtain ⟨answer, ha, -, -⟩ := exists_answer_of_go? hturn h
    exact ha.isUnread_eq

end Surroundings

namespace Work

/-- Whether a worker with nobody or somebody to take blocks has a height noted as
    observed, but has not handed its block on. -/
def IsOwed (isUnread : Bool) (height : UInt64) : Work → Prop
  | forwarding block => block.height = height
  | ended => isUnread
  | idle | observing _ | marking _ _ => False

theorem IsOwed.imp {work : Work} {isUnread isUnread' : Bool} {height : UInt64}
    (h : work.IsOwed isUnread height) (himp : isUnread → isUnread') :
    work.IsOwed isUnread' height := by
  cases work with
  | ended => exact himp h
  | idle | observing | marking | forwarding => exact h

/-- A worker that marks a height has no other block than that of it. -/
def Agrees : Work → Prop
  | marking height (some block) => block.height = height
  | _ => True

/-- The steps of a worker in any surroundings. -/
inductive Moves (isUnread : Bool) : Work → List Deed → Work → Prop
  | take (height : UInt64) : Moves isUnread idle [] (observing height)
  | leave : Moves isUnread idle [] ended
  | observed (block : Block) :
      Moves isUnread (observing block.height) [] (marking block.height (some block))
  | unobserved (height : UInt64) : Moves isUnread (observing height) [] (marking height none)
  | mark (block : Block) : Moves isUnread (marking block.height (some block))
      [.noted block.height .observed] (forwarding block)
  | unmarked (block : Block) :
      Moves isUnread (marking block.height (some block)) [] (forwarding block)
  | fail (height : UInt64) : Moves isUnread (marking height none) [.noted height .failed] idle
  | unfailed (height : UInt64) : Moves isUnread (marking height none) [] idle
  | forward (block : Block) : Moves isUnread (forwarding block) [.forwarded block] idle
  | lose (block : Block) : isUnread → Moves isUnread (forwarding block) [] ended

variable {s : Surroundings} {work next : Work} {n : Network} {replies : List Http.Reply}
  {stride : Stride Work} {isUnread : Bool} {deeds : List Deed}

theorem Moves.agrees (h : Moves isUnread work deeds next) : next.Agrees := by
  cases h <;> first | exact trivial | exact rfl

/-- A worker that goes on takes one of these steps. -/
theorem moves_of_go? {o : Observer} {isStopped : Bool} (hn : n.observe = o.observe isStopped)
    (hagrees : work.Agrees) (hgo : s.go? n replies turn work = some stride) :
    Moves s.isUnread work stride.deeds stride.stage := by
  obtain ⟨s', deeds, log, stage⟩ := stride
  cases work with
  | idle =>
    obtain ⟨height | height, -, rfl, rfl⟩ := Surroundings.exists_answer_of_go? rfl hgo
    · exact .leave
    · exact .take height
  | observing height =>
    rw [Surroundings.go?_observe rfl, hn] at hgo
    cases hanswer : ((o.observe isStopped height).run Http.scripted replies).1 with
    | ok block =>
      obtain rfl := Observer.height_of_observe hanswer
      rw [hanswer] at hgo
      cases hgo
      exact .observed block
    | error failure =>
      rw [hanswer] at hgo
      cases hgo
      exact .unobserved height
  | marking height block =>
    cases block with
    | none =>
      obtain ⟨failure | _, -, rfl, rfl⟩ := Surroundings.exists_answer_of_go? rfl hgo
      · exact .unfailed height
      · exact .fail height
    | some block =>
      obtain rfl : block.height = height := hagrees
      obtain ⟨failure | _, -, rfl, rfl⟩ := Surroundings.exists_answer_of_go? rfl hgo
      · exact .unmarked block
      · exact .mark block
  | forwarding block =>
    obtain ⟨isTaken, hanswer, rfl, rfl⟩ := Surroundings.exists_answer_of_go? rfl hgo
    cases isTaken with
    | true => exact .forward block
    | false =>
      -- A block is turned down only when nobody is left to take it.
      cases hanswer with
      | served hserved =>
        simp only [Surroundings.serveLocal] at hserved
        split_ifs at hserved with hunread
        · exact .lose block hunread
        · exact Bool.noConfusion (Prod.mk.inj (Option.some.inj hserved)).2
  | ended => cases hgo

/-- A worker keeps handing on what it notes as observed. -/
theorem Moves.handOn {before : List Deed} (h : Moves isUnread work deeds next)
    (hbefore : Deed.HandOn (work.IsOwed isUnread) before) :
    Deed.HandOn (next.IsOwed isUnread) (before ++ deeds) := by
  cases h with
  | take | leave | observed | unobserved | unmarked | unfailed =>
    rw [List.append_nil]
    exact hbefore.mono fun height howed => howed.elim
  | mark block =>
    exact hbefore.append_singleton (fun height howed => howed.elim) fun height heq =>
      (Deed.noted.inj heq).1
  | fail =>
    exact hbefore.append_singleton (fun height howed => howed.elim) fun height heq => by
      simp at heq
  | forward block =>
    exact hbefore.append_singleton (fun height howed => ⟨block, rfl, howed⟩) nofun
  | lose block hunread =>
    rw [List.append_nil]
    exact hbefore.mono fun height _ => hunread

end Work

/-! ## Runs of crews -/

/-- A run of the workers of an observer. -/
structure Crew where
  /-- What they share with all other tasks. -/
  shared : Surroundings
  /-- Where each worker stands. -/
  workers : Nat → Work
  /-- What each worker has done to heights. -/
  deeds : Nat → List Deed

namespace Crew

/-- A run before its first step. -/
def start (shared : Surroundings) : Crew := ⟨shared, fun _ => .idle, fun _ => []⟩

/-- How a run goes on by one of the workers, unless that has ended or has to wait. -/
def go? (w : Crew) (n : Network) (worker : Nat) (replies : List Http.Reply) : Option Crew :=
  (w.shared.go? n replies Work.turn (w.workers worker)).map fun stride => {
    shared := stride.surroundings
    workers := Function.update w.workers worker stride.stage
    deeds := Function.update w.deeds worker (w.deeds worker ++ stride.deeds) }

/-- What may happen in a run. -/
inductive Step (o : Observer) : Crew → Crew → Prop
  /-- A worker goes on, and if it asks for a block, the node replies. -/
  | work {w w' : Crew} {n : Network} {isStopped : Bool} {worker : Nat}
      {replies : List Http.Reply} : n.observe = o.observe isStopped →
      w.go? n worker replies = some w' → Step o w w'
  /-- Other tasks go on. -/
  | others {w : Crew} {s : Surroundings} : w.shared.Tends s → Step o w { w with shared := s }

/-- What holds throughout a run that found some surroundings. -/
structure Sound (s : Surroundings) (w : Crew) : Prop where
  agrees : ∀ worker, (w.workers worker).Agrees
  handOn : ∀ worker,
    Deed.HandOn ((w.workers worker).IsOwed w.shared.isUnread) (w.deeds worker)
  ordered : w.shared.store.Ordered
  row : ∀ height, s.store.status? height ≠ none → w.shared.store.status? height ≠ none
  /-- Heights that have come to be observed were noted as such by a worker. -/
  observed : ∀ height, w.shared.store.status? height = some .observed →
    s.store.status? height = some .observed ∨
      ∃ worker, .noted height .observed ∈ w.deeds worker

variable {o : Observer} {s : Surroundings} {w w' : Crew}

theorem sound_start (hs : s.store.Ordered) : (start s).Sound s where
  agrees _ := trivial
  handOn _ := .nil
  ordered := hs
  row _ h := h
  observed _ h := .inl h

theorem Sound.work (h : w.Sound s) {n : Network} {isStopped : Bool} {worker : Nat}
    {replies : List Http.Reply} (hn : n.observe = o.observe isStopped)
    (hgo : w.go? n worker replies = some w') : w'.Sound s := by
  obtain ⟨stride, hstride, rfl⟩ := Option.map_eq_some_iff.1 hgo
  have hmoves := Work.moves_of_go? hn (h.agrees worker) hstride
  have hstatus := Surroundings.status?_of_go? hstride
  have hunread := Surroundings.isUnread_of_go? hstride
  exact {
    agrees := fun other => by
      by_cases hother : other = worker
      · subst hother
        simpa using hmoves.agrees
      · simpa [hother] using h.agrees other
    handOn := fun other => by
      by_cases hother : other = worker
      · subst hother
        simpa [hunread] using hmoves.handOn (h.handOn other)
      · simpa [hother, hunread] using h.handOn other
    ordered := Surroundings.ordered_of_go? hstride h.ordered
    row := fun height hrow => by
      rw [hstatus height]
      exact Deed.statusAfter_ne_none_of_ne (h.row height hrow)
    observed := fun height hobserved => by
      have hmem : ∀ other deed, deed ∈ w.deeds other ∨ other = worker ∧ deed ∈ stride.deeds →
          deed ∈ Function.update w.deeds worker (w.deeds worker ++ stride.deeds) other := by
        intro other deed hdeed
        by_cases hother : other = worker
        · subst hother
          simpa using hdeed
        · simpa [hother] using hdeed
      rw [hstatus height] at hobserved
      rcases Deed.statusAfter_eq_some hobserved with
        ⟨hbefore, -⟩ | ⟨done, deed, rest, hdeeds, hdeed, -⟩
      · refine (h.observed height hbefore).imp_right ?_
        rintro ⟨other, hother⟩
        exact ⟨other, hmem _ _ (.inl hother)⟩
      · rw [Deed.status?_eq_some.1 hdeed] at hdeeds
        exact .inr ⟨worker, hmem _ _ (.inr ⟨rfl, hdeeds ▸ by simp⟩)⟩ }

theorem Sound.others (h : w.Sound s) {s' : Surroundings} (htends : w.shared.Tends s') :
    Sound s { w with shared := s' } where
  agrees := h.agrees
  handOn worker := (h.handOn worker).mono fun _ howed => howed.imp htends.isUnread
  ordered := htends.ordered h.ordered
  row height hrow := htends.row height (h.row height hrow)
  observed height hobserved := h.observed height (htends.observed height hobserved)

theorem Sound.step (h : w.Sound s) (hstep : Step o w w') : w'.Sound s := by
  cases hstep with
  | work hn hgo => exact h.work hn hgo
  | others htends => exact h.others htends

/-- In every state that a run may end in, the block of each height that a worker noted as
    observed was handed on right afterwards, unless that was the last thing that the
    worker did, and it is about to hand the block on or nobody is left to take it. What
    was left unfinished and no longer is has been noted so by a worker. -/
theorem hands_on (hs : s.store.Ordered) (hrun : Relation.ReflTransGen (Step o) (start s) w) :
    (∀ worker before after height,
      w.deeds worker = before ++ .noted height .observed :: after →
        (∃ block rest, after = .forwarded block :: rest ∧ block.height = height) ∨
          after = [] ∧ (w.workers worker).IsOwed w.shared.isUnread height) ∧
      ∀ height ∈ s.store.unfinished, height ∉ w.shared.store.unfinished →
        ∃ worker, .noted height .observed ∈ w.deeds worker := by
  have hsound : w.Sound s := keeps_run (fun _ _ h hstep => h.step hstep) (sound_start hs) hrun
  refine ⟨hsound.handOn, fun height hmem hgone => ?_⟩
  obtain ⟨status, hstatus, hne⟩ := hs.mem_unfinished.1 hmem
  obtain ⟨now, hnow⟩ :=
    Option.ne_none_iff_exists'.1 (hsound.row height (hstatus ▸ Option.some_ne_none status))
  -- The height still has a row, and that can only say that it was observed.
  by_cases hobserved : now = .observed
  · refine (hsound.observed height (hobserved ▸ hnow)).resolve_left fun hbefore => ?_
    exact hne (Option.some.inj (hstatus.symm.trans hbefore))
  · exact absurd (hsound.ordered.mem_unfinished.2 ⟨now, hnow, hobserved⟩) hgone

/-! ### A worker that is alone -/

/-- How a run goes on by the first worker alone, with the replies to each of its steps. -/
def alone? (o : Observer) : List (List Http.Reply) → Crew → Option Crew
  | [], w => some w
  | replies :: script, w =>
    -- Workers do not ask for the chain head.
    (w.go? ⟨.done ([], .ok 0), o.observe w.shared.isStopped⟩ 0 replies).bind (alone? o script)

theorem run_of_alone? {script : List (List Http.Reply)} (h : w.alone? o script = some w') :
    Relation.ReflTransGen (Step o) w w' := by
  induction script generalizing w with
  | nil => exact Option.some.inj h ▸ .refl
  | cons replies script ih =>
    obtain ⟨next, hnext, hrest⟩ := Option.bind_eq_some_iff.1 h
    exact .head (.work rfl hnext) (ih hrest)

/-- What is checked of where a worker gets to alone holds at the end of a run. -/
theorem exists_run_of_any {script : List (List Http.Reply)} {check : Crew → Bool}
    (h : (w.alone? o script).any check) :
    ∃ w', Relation.ReflTransGen (Step o) w w' ∧ check w' := by
  obtain ⟨w', hw', hcheck⟩ := (Option.any_eq_true _ _).1 h
  exact ⟨w', run_of_alone? hw', hcheck⟩

/-- An observer that makes one attempt for each block. -/
def hasty : Observer :=
  ⟨"http://node", .tendermint, { ScanSettings.standard.policy with maxAttempts := 1 }, 1⟩

/-- The answer of a node with the block of height 1. -/
def firstBlock : Http.Reply := .answered .ok (Utf8.encode
  "\x7b\"result\":\x7b\"block\":\x7b\"header\":\x7b\"height\":\"1\"\x7d\x7d\x7d\x7d")

/-- Height 1 was left unfinished, and somebody takes its block. -/
theorem hands_on_first_block :
    let s : Surroundings := { Surroundings.start ⟨none, [(1, .handedOut)]⟩ 2 with queue := [1] }
    ∃ w, Relation.ReflTransGen (Step hasty) (start s) w ∧
      w.deeds 0 = [.noted 1 .observed, .forwarded ⟨1, []⟩] ∧
      ∃ worker, .noted 1 .observed ∈ w.deeds worker := by
  intro s
  have hcheck : ((start s).alone? hasty [[], [firstBlock], [], []]).any fun w =>
      decide (w.deeds 0 = [.noted 1 .observed, .forwarded ⟨1, []⟩] ∧
        1 ∉ w.shared.store.unfinished) := by
    decide +kernel
  obtain ⟨w, hrun, hw⟩ := exists_run_of_any hcheck
  obtain ⟨hdeeds, hgone⟩ := of_decide_eq_true hw
  exact ⟨w, hrun, hdeeds, (hands_on (by decide) hrun).2 1 (by decide) hgone⟩

/-- Nobody takes blocks. Height 1 is offered twice, first while the node fails. After
    that it is left unfinished; but once its block was observed it no longer is, although
    nobody got the block. -/
theorem observed_but_lost :
    let s : Surroundings := { Surroundings.start .empty 2 with queue := [1, 1], isUnread := true }
    ∃ w w', Relation.ReflTransGen (Step hasty) (start s) w ∧
      Relation.ReflTransGen (Step hasty) w w' ∧
      w.shared.store.unfinished = [1] ∧ w'.shared.store.unfinished = [] ∧
      w'.deeds 0 = [.noted 1 .failed, .noted 1 .observed] ∧ w'.shared.blocks = [] ∧
      w'.workers 0 = .ended := by
  intro s
  have hcheck : ((start s).alone? hasty [[], [.answered .internalServerError []], []]).any fun w =>
      decide (w.shared.store.unfinished = [1]) &&
        (w.alone? hasty [[], [firstBlock], [], []]).any fun w' =>
          decide (w'.shared.store.unfinished = [] ∧
            w'.deeds 0 = [.noted 1 .failed, .noted 1 .observed] ∧ w'.shared.blocks = [] ∧
            w'.workers 0 = .ended) := by
    decide +kernel
  obtain ⟨w, hrun, hw⟩ := exists_run_of_any hcheck
  obtain ⟨hleft, hrest⟩ := Bool.and_eq_true_iff.1 hw
  obtain ⟨w', hrun', hw'⟩ := exists_run_of_any hrest
  exact ⟨w, w', hrun, hrun', of_decide_eq_true hleft, of_decide_eq_true hw'⟩

end Crew

end ChainRelay
