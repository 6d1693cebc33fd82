import ChainRelay.Failure

/-!
# How computations end

A computation comes to a result, or it fails, and whoever started it may handle that. It
may also break off, where it relies on something that turns out not to hold. Nobody
handles that: whatever it is part of breaks off with it.
-/

namespace ChainRelay

/-- Why a computation breaks off. -/
inductive Breakdown
  /-- There is no sequence number behind the one that was used. -/
  | lastSequence
  /-- A deadline is behind the last moment that the clock can tell. -/
  | lateDeadline
  /-- A queue was to have no room, or more than there can be. -/
  | capacity
deriving DecidableEq, Repr

/-- What a message tells about a breakdown. -/
def Breakdown.message : Breakdown → String
  | lastSequence => "there is no next sequence number"
  | lateDeadline => "the clock cannot tell the deadline"
  | capacity => "there cannot be a queue with that much room"

/-- How a computation ends. -/
inductive Ending (α : Type)
  /-- It comes to a result. -/
  | ok (result : α)
  /-- It fails. -/
  | error (failure : Failure)
  /-- It breaks off. -/
  | broken (breakdown : Breakdown)
deriving DecidableEq, Repr

namespace Ending

variable {α β : Type}

/-- The end of what may fail and never breaks off. -/
def ofOutcome : Outcome α → Ending α
  | .ok a => .ok a
  | .error failure => .error failure

theorem ofOutcome_eq_ok_iff {outcome : Outcome α} {a : α} :
    ofOutcome outcome = .ok a ↔ outcome = .ok a := by
  cases outcome <;> simp [ofOutcome]

theorem ofOutcome_eq_error_iff {outcome : Outcome α} {failure : Failure} :
    ofOutcome outcome = .error failure ↔ outcome = .error failure := by
  cases outcome <;> simp [ofOutcome]

theorem ofOutcome_ne_broken {outcome : Outcome α} {breakdown : Breakdown} :
    ofOutcome outcome ≠ .broken breakdown := by
  cases outcome <;> simp [ofOutcome]

/-- The same end with another failure. -/
def mapError (f : Failure → Failure) : Ending α → Ending α
  | .ok a => .ok a
  | .error failure => .error (f failure)
  | .broken breakdown => .broken breakdown

instance : Monad Ending where
  pure := .ok
  bind
    | .ok a, f => f a
    | .error failure, _ => .error failure
    | .broken breakdown, _ => .broken breakdown

end Ending

end ChainRelay
