import ChainRelay.Task.Basic

/-!
# The work of an observer

A worker takes heights out of the queue and observes their blocks one after the
other. Each height is marked as observed or failed; the block of an observed one
is handed on.
-/

namespace ChainRelay

/-- The stages of a worker. -/
inductive Work
  /-- Between two heights. -/
  | idle
  /-- Asking for the block of a height. -/
  | observing (height : UInt64)
  /-- Marking a height, with its block if it was observed. -/
  | marking (height : UInt64) (block : Option Block)
  /-- Handing a block on. -/
  | forwarding (block : Block)
  /-- At the end. -/
  | ended
deriving DecidableEq, Repr

namespace Work

/-- What is counted when a height has been marked. -/
def marked (isObserved : Bool) : Outcome Unit → List Measurement
  | .ok () => [.observed isObserved]
  | .error _ => [.scanTrouble .statusUnkept, .observed isObserved]

/-- What a worker does next. -/
def turn : Work → Turn Work
  | idle => .ask .take fun
    | some height => ([], observing height)
    | none => ([], ended)
  | observing height => .ask (.observe height) fun
    | .ok block => ([], marking height (some block))
    | .error _ => ([], marking height none)
  | marking height (some block) => .ask (.setStatus height .observed) fun result =>
    (marked true result, forwarding block)
  | marking height none => .ask (.setStatus height .failed) fun result =>
    (marked false result, idle)
  | forwarding block => .ask (.forward block) fun
    | true => ([], idle)
    | false => ([], ended)
  | ended => .ended (.ok ())

end Work

end ChainRelay
