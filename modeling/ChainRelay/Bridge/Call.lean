import ChainRelay.Ending
import ChainRelay.Envelope
import ChainRelay.Http.Exchange
import ChainRelay.Measurement

/-!
# Calls

What a bridge does is a `Call`: it goes on from what the bridge remembers, which includes
a log of what is counted, exchanges requests for replies, and ends. A failure can be
caught, and then what has been remembered until then stays. A breakdown cannot, and
nothing is done behind it.
-/

namespace ChainRelay

/-- What a bridge has to remember. -/
structure Session where
  /-- The account of the signer with the sequence number of its next transaction;
      nothing if that has to be asked for. -/
  account : Option Account
  /-- Whether the bridge has been stopped. -/
  isStopped : Bool
  /-- What was counted. -/
  log : List Measurement
deriving DecidableEq, Repr

/-- The session of a new bridge. -/
def Session.start : Session := ⟨none, false, []⟩

/-- What a bridge does. -/
def Call (α : Type) : Type := Session → Http.Exchange (Ending α × Session)

namespace Call

variable {α : Type}

/-- Begins a call. -/
def run (call : Call α) (s : Session) : Http.Exchange (Ending α × Session) := call s

instance : Monad Call where
  pure a := fun s => .done (.ok a, s)
  bind call next := fun s => (call.run s).bind fun
    | (.ok a, s) => (next a).run s
    | (.error failure, s) => .done (.error failure, s)
    | (.broken breakdown, s) => .done (.broken breakdown, s)

instance : MonadStateOf Session Call where
  get := fun s => .done (.ok s, s)
  set s := fun _ => .done (.ok (), s)
  modifyGet f := fun s => .done (.ok (f s).1, (f s).2)

instance : MonadExceptOf Failure Call where
  throw failure := fun s => .done (.error failure, s)
  tryCatch call handle := fun s => (call.run s).bind fun
    | (.ok a, s) => .done (.ok a, s)
    | (.error failure, s) => (handle failure).run s
    | (.broken breakdown, s) => .done (.broken breakdown, s)

/-- Breaks off. -/
def breakOff (breakdown : Breakdown) : Call α := fun s => .done (.broken breakdown, s)

/-- Counts something. -/
def count (m : Measurement) : Call Unit :=
  modify fun s => { s with log := s.log ++ [m] }

/-- Fails, once that has been counted. -/
def fail (trouble : BridgeTrouble) (failure : Failure) : Call α := do
  count (.bridgeTrouble trouble)
  throw failure

/-- Names what was being done when a call failed. -/
def within (context : String) (call : Call α) : Call α :=
  tryCatch call fun failure => throw (failure.within context)

/-- Counts a failure and passes it on. -/
def orCount (trouble : BridgeTrouble) (call : Call α) : Call α :=
  tryCatch call (fail trouble)

/-- A computation that only exchanges. -/
def exchange (x : Http.Exchange α) : Call α := fun s => x.bind fun a => .done (.ok a, s)

/-- The outcome of a pure computation. -/
def ofOutcome : Outcome α → Call α
  | .ok x => pure x
  | .error failure => throw failure

end Call

end ChainRelay
