import ChainRelay.Task.Basic

/-!
# The scan

A scan hands out heights. It first offers what was handed out before and has not
been observed. Then it asks for the chain head over and over, and goes through
the heights between its position and the head one by one: each is marked as
handed out, offered, and only then becomes the position, so that a scan that is
cut off anywhere finds each height again.
-/

namespace ChainRelay

/-- The stages of a scan. -/
inductive Scan
  /-- Before it knows its position. -/
  | starting
  /-- Before it knows what has not been observed. -/
  | resuming (position : UInt64)
  /-- Offering a height that was handed out before, with more to come. -/
  | reoffering (position height : UInt64) (more : List UInt64)
  /-- Asking for the chain head. -/
  | polling (position : UInt64)
  /-- Waiting to ask again. -/
  | resting (position : UInt64)
  /-- Marking the height behind the position, on the way to the head. -/
  | marking (position head : UInt64)
  /-- Offering the height behind the position. -/
  | offering (position head : UInt64)
  /-- Going on to the height behind the position. -/
  | advancing (position head : UInt64)
  /-- At the end. -/
  | ended (result : Outcome Unit)
deriving Repr

namespace Scan

/-- Goes on with what was handed out before. -/
def reoffer (position : UInt64) : List UInt64 → Scan
  | [] => polling position
  | height :: more => reoffering position height more

/-- Goes on to the head, if there is a way to go. -/
def approach (position head : UInt64) : Scan :=
  if position < head then marking position head else polling position

/-- Goes on with the answer about the chain head. -/
def polled (position : UInt64) : Outcome UInt64 → Scan
  | .ok head => if position < head then marking position head else resting position
  | .error _ => resting position

/-- Ends because something could not be kept at a height. -/
def unkept (height : UInt64) (failure : Failure) : Scan :=
  ended (.error (failure.behindOf (.persistence height)))

/-- What a scan does next. Without a position that can be read it begins at
    `startHeight`. -/
def turn (startHeight : UInt64) : Scan → Turn Scan
  | starting => .ask .readPosition fun
    | .ok (some position) => ([.position position], resuming position)
    | .ok none => ([.position startHeight], resuming startHeight)
    | .error _ =>
      ([.scanTrouble .positionUnread, .position startHeight], resuming startHeight)
  | resuming position => .ask .readUnfinished fun
    | .ok heights => ([], reoffer position heights)
    | .error _ => ([.scanTrouble .heightsUnread], polling position)
  | reoffering position height more => .ask (.offer height) fun
    | true => ([.offeredAgain], reoffer position more)
    | false => ([], ended (.ok ()))
  | polling position => .ask .pollHead fun
    | some answer => ([], polled position answer)
    | none => ([], ended (.ok ()))
  | resting position => .ask .rest fun
    | true => ([], polling position)
    | false => ([], ended (.ok ()))
  | marking position head => .ask (.setStatus (position + 1) .handedOut) fun
    | .ok () => ([], offering position head)
    | .error failure => ([.scanTrouble .statusUnkept], unkept (position + 1) failure)
  | offering position head => .ask (.offer (position + 1)) fun
    | true => ([], advancing position head)
    | false => ([], ended (.ok ()))
  | advancing position head => .ask (.setPosition (position + 1)) fun
    | .ok () => ([.position (position + 1), .scanned], approach (position + 1) head)
    | .error failure => ([.scanTrouble .positionUnkept], unkept (position + 1) failure)
  | ended result => .ended result

end Scan

end ChainRelay
