import ChainRelay.Clock
import ChainRelay.Ending
import ChainRelay.Settings

/-!
# The life of a scanner

A scanner offers its heights to one consumer, which takes the queue once, and its
tasks run once. Not all settings that are sound are good for that: there is no scanner
without a queue, whose size must be one that there can be; and for its tasks to run time
must pass before failed heights are due again, and the clock must be able to tell when
they are.
-/

namespace ChainRelay

/-- What has been done with a scanner. -/
structure ScannerLife where
  /-- Whether the queue has been taken. -/
  isTaken : Bool
  /-- Whether the tasks have been started. -/
  isStarted : Bool
deriving DecidableEq, Repr

namespace ScannerLife

/-- A new scanner. -/
def fresh : ScannerLife := ⟨false, false⟩

/-- Takes the queue. -/
def takeQueue (l : ScannerLife) : Outcome ScannerLife :=
  if l.isTaken then .error (.message "block scanner messages have already been taken")
  else .ok { l with isTaken := true }

/-- Starts the tasks. -/
def start (l : ScannerLife) : Outcome ScannerLife :=
  if l.isStarted then .error (.message "block scanner has already been started")
  else .ok { l with isStarted := true }

end ScannerLife

/-- Why the task that offers failed heights again cannot run. -/
inductive StartFault
  /-- The heights are due for the first time behind the last moment that the clock can
      tell. -/
  | latePeriod
  /-- The heights are due at all times. -/
  | noPeriod
deriving DecidableEq, Repr

/-- How the task fails whoever waits for it. -/
def StartFault.failure : StartFault → Failure
  | latePeriod => .message "the task that offers failed heights again has no deadline"
  | noPeriod => .message "the task that offers failed heights again has no period"

namespace ScanSettings

/-- How much room a queue can have at most. -/
def maxCapacity : Nat := 2305843009213693951

/-- Makes a queue. There is none without room, and none with more than there can be. -/
def makeQueue (s : ScanSettings) : Ending Unit :=
  if s.processors = 0 ∨ maxCapacity < s.processors.toNat then .broken .capacity else .ok ()

/-- Why the tasks for some settings cannot run if they are started at some moment, if so. -/
def startFault? (s : ScanSettings) (now : Moment) : Option StartFault :=
  if (now.after? s.retryInterval).isNone then some .latePeriod
  else if s.retryInterval.isZero then some .noPeriod
  else none

end ScanSettings

end ChainRelay
