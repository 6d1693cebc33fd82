import ChainRelay.Bridge.Broadcast
import ChainRelay.Bridge.Query
import ChainRelay.Relay.Run
import ChainRelay.Settings

/-!
# The relay

A relay first waits until its node may send transactions, then scans and observes
until it is interrupted or something that it cannot do without fails. It moves on
by the steps of its tasks and by what happens to it: a reply, the end of a wait,
an interruption.
-/

namespace ChainRelay

/-- A relay at some time. -/
inductive Relay
  /-- Waiting until the node may send transactions. -/
  | joining (settings : ScanSettings) (store : Store) (wait : Http.Exchange (Ending Bool))
  /-- Scanning and observing. -/
  | running (run : Run)
  /-- At the end. -/
  | ended (store : Store) (result : Ending Unit)

/-- Who waits for a reply. -/
inductive Asker
  /-- The relay, before its tasks run. -/
  | relay
  /-- A task. -/
  | task (seat : Seat)
deriving DecidableEq, Repr

namespace Relay

/-- Begins to scan and observe at some moment. -/
def runTasks (settings : ScanSettings) (store : Store) (now : Moment) : Relay :=
  match Run.start settings store now with
  | .ok run => running run
  | .error failure => ended store (.error failure)
  | .broken breakdown => ended store (.broken breakdown)

/-- The wait until the node of a bridge may send transactions, from some moment on. -/
def waitOf (b : Bridge) (begun : Moment) : Http.Exchange (Ending Bool) :=
  ((b.awaitWhitelisted begun b.pauseClock b.maxAsked).run Session.start).bind
    fun (ending, _) => .done ending

/-- A new relay that is started at some moment, with its store and the way to open the key
    of a name with a passphrase. -/
def start (settings : Settings) (store : Store) (begun : Moment)
    (openKey : String → String → Outcome Signer) : Relay :=
  match Bridge.create settings.bridge openKey with
  | .ok b => joining settings.observer.scan store (waitOf b begun)
  | .error failure => ended store (.error failure)

/-- One step at some moment that waits for nothing, if there is one. -/
def step? (now : Moment) : Relay → Option Relay
  | joining settings store (.done (.ok _)) => some (runTasks settings store now)
  | joining _ store (.done (.error failure)) => some (ended store (.error failure))
  | joining _ store (.done (.broken breakdown)) => some (ended store (.broken breakdown))
  | joining _ _ (.send _ _) => none
  | running run =>
    match run.result? with
    | some result => some (ended run.shared.store (.ofOutcome result))
    | none => run.stepAny?.map running
  | ended _ _ => none

/-- The requests that wait for replies. -/
def requests : Relay → List (Asker × Http.Request)
  | joining _ _ (.send request _) => [(.relay, request)]
  | joining _ _ (.done _) => []
  | running run => run.seats.filterMap fun seat => (run.request? seat).map (.task seat, ·)
  | ended _ _ => []

/-- The relay once a request has got its reply. -/
def reply (r : Relay) (asker : Asker) (reply : Http.Reply) : Relay :=
  match r, asker with
  | joining settings store (.send _ next), .relay => joining settings store (next reply)
  | running run, .task seat => running (run.reply reply seat)
  | r, _ => r

/-- The relay once it is time to ask for the chain head again. -/
def rested : Relay → Relay
  | running run => running { run with shared := { run.shared with isRested := true } }
  | r => r

/-- The relay once failed heights are due. -/
def due : Relay → Relay
  | running run => running { run with shared := { run.shared with isDue := true } }
  | r => r

/-- What is remembered. -/
def store : Relay → Store
  | joining _ store _ => store
  | running run => run.shared.store
  | ended store _ => store

/-- The relay once it is interrupted. -/
def interrupt : Relay → Relay
  | ended store result => ended store result
  | r => ended r.store (.ok ())

end Relay

/-- Why a database cannot be used. -/
inductive DatabaseFault
  /-- Its directory cannot be made. -/
  | noDirectory (directory kind : String)
  /-- It cannot be opened. -/
  | unopened (path : String)
  /-- It holds something else. -/
  | foreign
deriving DecidableEq, Repr

/-- The failure to use a database. -/
def DatabaseFault.failure : DatabaseFault → Failure
  | noDirectory directory kind => (Failure.of (.file kind)).within ("unable to create " ++ directory)
  | unopened path => (Failure.of .database).within ("unable to open scanner db at " ++ path)
  | foreign => .of .database

end ChainRelay
