import ChainRelay.Task.Basic

/-!
# Offering failed heights again

Whenever failed heights are due, all of them are offered once more, in ascending
order.
-/

namespace ChainRelay

/-- The stages of offering failed heights again. -/
inductive Reoffer
  /-- Waiting until failed heights are due. -/
  | waiting
  /-- Before it knows which heights have failed. -/
  | reading
  /-- Offering a height, with more to come. -/
  | offering (height : UInt64) (more : List UInt64)
  /-- At the end. -/
  | ended
deriving DecidableEq, Repr

namespace Reoffer

/-- Goes on with the heights that are left. -/
def offerAll : List UInt64 → Reoffer
  | [] => waiting
  | height :: more => offering height more

/-- What comes next. -/
def turn : Reoffer → Turn Reoffer
  | waiting => .ask .awaitDue fun
    | true => ([], reading)
    | false => ([], ended)
  | reading => .ask .readFailed fun
    | .ok heights => ([], offerAll heights)
    | .error _ => ([.scanTrouble .heightsUnread], waiting)
  | offering height more => .ask (.offer height) fun
    | true => ([.offeredAgain], offerAll more)
    | false => ([], ended)
  | ended => .ended (.ok ())

end Reoffer

end ChainRelay
