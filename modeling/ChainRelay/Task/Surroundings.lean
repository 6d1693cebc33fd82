import ChainRelay.Http.Exchange
import ChainRelay.Task.Basic

/-!
# The surroundings of tasks

What tasks share: the store, and the queue of heights between those that offer
them and those that take them. `Surroundings.serve` answers an act, or makes its
task wait. The store may fail at any operation, as `fails` says, and whoever stands
at the other end of a queue may be gone.

`step?` takes a task one step on. A node is reached through exchanges, so a task may
also be in the middle of one, and then nothing but a reply moves it.
-/

namespace ChainRelay

/-- What tasks share. -/
structure Surroundings where
  /-- What is remembered. -/
  store : Store
  /-- Why an operation of the store fails, if it does. -/
  fails : Act → Option Failure
  /-- The operations of the store so far. -/
  calls : List Act
  /-- The heights that wait to be observed. -/
  queue : List UInt64
  /-- How many heights may wait. -/
  capacity : Nat
  /-- Whether nobody is left to take heights. -/
  isAbandoned : Bool
  /-- Whether nobody is left to offer heights. -/
  isClosed : Bool
  /-- The blocks that were handed on. -/
  blocks : List Block
  /-- Whether nobody is left to take blocks. -/
  isUnread : Bool
  /-- Whether a task has waited long enough to ask for the chain head again. -/
  isRested : Bool
  /-- Whether failed heights are due. -/
  isDue : Bool
  /-- Whether all tasks are to end. -/
  isStopped : Bool
  /-- What was counted. -/
  log : List Measurement

/-- How tasks reach the node. -/
structure Network where
  /-- Asks for the chain head. -/
  pollHead : Http.Exchange (List Measurement × Outcome UInt64)
  /-- Asks for the block of a height. -/
  observe : UInt64 → Http.Exchange (Outcome Block)

/-- What a task is doing: it is at a stage, or in the middle of an exchange that
    leads to one. The measurements on the way are still to be counted. -/
abbrev Activity (σ : Type) := Http.Exchange (List Measurement × σ)

namespace Activity

variable {σ : Type}

/-- A task that is at a stage. -/
def atStage (stage : σ) : Activity σ := .done ([], stage)

/-- What a task waits for a reply to. -/
def request? : Activity σ → Option Http.Request
  | .done _ => none
  | .send request _ => some request

/-- What a task is doing once it has got a reply. -/
def reply (reply : Http.Reply) : Activity σ → Activity σ
  | .done x => .done x
  | .send _ next => next reply

/-- How a task has ended, if it has. -/
def result? (turn : σ → Turn σ) : Activity σ → Option (Outcome Unit)
  | .send _ _ => none
  | .done (_, stage) =>
    match turn stage with
    | .ended result => some result
    | .ask _ _ => none

end Activity

/-- An answer that takes no exchange. -/
def Act.answered (act : Act) (answer : act.Answer) : Activity act.Answer := .done ([], answer)

namespace Surroundings

/-- Surroundings in which nothing has happened yet, and nothing fails. -/
def start (store : Store) (capacity : Nat) : Surroundings where
  store := store
  fails _ := none
  calls := []
  queue := []
  capacity := capacity
  isAbandoned := false
  isClosed := false
  blocks := []
  isUnread := false
  isRested := false
  isDue := false
  isStopped := false
  log := []

/-- Reads from the store, unless that fails. -/
def read {α : Type} (s : Surroundings) (act : Act) (look : Store → α) : Surroundings × Outcome α :=
  ({ s with calls := s.calls ++ [act] },
    match s.fails act with
    | some failure => .error failure
    | none => .ok (look s.store))

/-- Changes the store, unless that fails. -/
def write (s : Surroundings) (act : Act) (change : Store → Outcome Store) :
    Surroundings × Outcome Unit :=
  let called := { s with calls := s.calls ++ [act] }
  match s.fails act with
  | some failure => (called, .error failure)
  | none =>
    match change s.store with
    | .ok store => ({ called with store := store }, .ok ())
    | .error failure => (called, .error failure)

/-- Answers an act that does not concern the node, unless its task has to wait. -/
def serveLocal (s : Surroundings) : (act : Act) → Option (Surroundings × act.Answer)
  | .readPosition => some (s.read .readPosition Store.position)
  | .readUnfinished => some (s.read .readUnfinished Store.unfinished)
  | .readFailed => some (s.read .readFailed Store.failed)
  | .setStatus height status =>
    some (s.write (.setStatus height status) (·.setStatus height status))
  | .setPosition height => some (s.write (.setPosition height) (·.setPosition height))
  | .pollHead => if s.isStopped then some (s, none) else none
  | .rest =>
    if s.isStopped then some (s, false)
    else if s.isRested then some ({ s with isRested := false }, true)
    else none
  | .awaitDue =>
    if s.isStopped then some (s, false)
    else if s.isDue then some ({ s with isDue := false }, true)
    else none
  | .offer height =>
    if s.isStopped || s.isAbandoned then some (s, false)
    else if s.queue.length < s.capacity then
      some ({ s with queue := s.queue ++ [height] }, true)
    else none
  | .take =>
    if s.isStopped then some (s, none)
    else
      match s.queue with
      | height :: rest => some ({ s with queue := rest }, some height)
      | [] => if s.isClosed then some (s, none) else none
  | .observe _ => none
  | .forward block =>
    if s.isUnread then some (s, false) else some ({ s with blocks := s.blocks ++ [block] }, true)

/-- Answers an act, by an exchange if need be, unless its task has to wait. -/
def serve (s : Surroundings) (n : Network) (act : Act) :
    Option (Surroundings × Activity act.Answer) :=
  match s.serveLocal act with
  | some (s, answer) => some (s, act.answered answer)
  | none =>
    match act with
    | .pollHead => some (s, n.pollHead.bind fun (log, head) => .done (log, some head))
    | .observe height => some (s, (n.observe height).bind fun block => .done ([], block))
    | _ => none

/-- One step of a task, unless it has ended, has to wait, or needs a reply. -/
def step? {σ : Type} (s : Surroundings) (n : Network) (turn : σ → Turn σ) :
    Activity σ → Option (Surroundings × Activity σ)
  | .send _ _ => none
  | .done (m :: log, stage) => some ({ s with log := s.log ++ m :: log }, .atStage stage)
  | .done ([], stage) =>
    match turn stage with
    | .ended _ => none
    | .ask act next =>
      match s.serve n act with
      | none => none
      | some (s, answering) => some (s, answering.bind fun (before, answer) =>
          let (after, stage) := next answer
          .done (before ++ after, stage))

end Surroundings

end ChainRelay
