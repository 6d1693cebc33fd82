import ChainRelay.Observer.Basic
import ChainRelay.Observer.Work
import ChainRelay.Scanner.Head
import ChainRelay.Scanner.Lifecycle
import ChainRelay.Scanner.Reoffer
import ChainRelay.Scanner.Scan
import ChainRelay.Task.Surroundings

/-!
# Running tasks side by side

A run is the tasks of a relay in their surroundings. `Run.step?` lets one of them
take one step, if it need not wait; in which order tasks take their steps is left
open. Replies to requests, and the end of a wait, come from outside.
-/

namespace ChainRelay

/-- The tasks of a relay. -/
inductive Seat
  /-- The one that scans. -/
  | scan
  /-- The one that offers failed heights again. -/
  | reoffer
  /-- One of those that observe blocks. -/
  | worker (index : Nat)
deriving DecidableEq, Repr

/-- Tasks that run side by side. -/
structure Run where
  /-- Who asks for the chain head. -/
  scanner : Scanner
  /-- Who asks for blocks. -/
  observer : Observer
  /-- What the tasks share. -/
  shared : Surroundings
  /-- What the scan is doing. -/
  scan : Activity Scan
  /-- What the task that offers failed heights again is doing. -/
  reoffer : Activity Reoffer
  /-- What the workers are doing. -/
  workers : List (Activity Work)

namespace Run

/-- The tasks for some settings that are started at some moment, before their first steps. -/
def start (settings : ScanSettings) (store : Store) (now : Moment) : Ending Run := do
  let scanner ← Scanner.create settings
  let observer ← Ending.ofOutcome (Observer.create settings settings.nodeKind)
  -- Blocks are handed on through a queue of the same size.
  settings.makeQueue
  if let some fault := settings.startFault? now then .error fault.failure
  return {
    scanner := scanner
    observer := observer
    shared := .start store settings.processors.toNat
    scan := .atStage .starting
    reoffer := .atStage .waiting
    workers := List.replicate observer.workers (.atStage .idle) }

/-- How the tasks reach the node. -/
def network (r : Run) : Network where
  pollHead := r.scanner.pollHead r.shared.isStopped
  observe := r.observer.observe r.shared.isStopped

/-- How the scan has ended, if it has. -/
def scanResult? (r : Run) : Option (Outcome Unit) := r.scan.result? r.scanner.turn

/-- How the task that offers failed heights again has ended, if it has. -/
def reofferResult? (r : Run) : Option (Outcome Unit) := r.reoffer.result? Reoffer.turn

/-- How the first of the two tasks that offer heights has ended, if one has. -/
def result? (r : Run) : Option (Outcome Unit) := r.scanResult?.or r.reofferResult?

/-- What the tasks share, where workers see whether anybody is left to offer
    heights. -/
def surroundings (r : Run) : Surroundings :=
  { r.shared with isClosed := r.scanResult?.isSome && r.reofferResult?.isSome }

/-- One step of a task of the run, unless it has ended, has to wait, or needs a
    reply. -/
def step? (r : Run) : Seat → Option Run
  | .scan =>
    (r.surroundings.step? r.network r.scanner.turn r.scan).map fun (shared, scan) =>
      { r with shared := shared, scan := scan }
  | .reoffer =>
    (r.surroundings.step? r.network Reoffer.turn r.reoffer).map fun (shared, reoffer) =>
      { r with shared := shared, reoffer := reoffer }
  | .worker index =>
    match r.workers[index]? with
    | none => none
    | some worker =>
      (r.surroundings.step? r.network Work.turn worker).map fun (shared, worker) =>
        { r with shared := shared, workers := r.workers.set index worker }

/-- All tasks. -/
def seats (r : Run) : List Seat :=
  .scan :: .reoffer :: (List.range r.workers.length).map .worker

/-- One step of the first task that can take one. -/
def stepAny? (r : Run) : Option Run := r.seats.findSome? r.step?

/-- The request that a task waits for a reply to. -/
def request? (r : Run) : Seat → Option Http.Request
  | .scan => r.scan.request?
  | .reoffer => r.reoffer.request?
  | .worker index => r.workers[index]?.bind Activity.request?

/-- The run once a task has got a reply. -/
def reply (r : Run) (reply : Http.Reply) : Seat → Run
  | .scan => { r with scan := r.scan.reply reply }
  | .reoffer => { r with reoffer := r.reoffer.reply reply }
  | .worker index => { r with workers := r.workers.modify index (Activity.reply reply) }

end Run

end ChainRelay
