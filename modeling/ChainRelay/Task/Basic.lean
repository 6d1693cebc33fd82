import ChainRelay.Block.Basic
import ChainRelay.Measurement
import ChainRelay.Store.Basic

/-!
# Tasks

The tasks of a relay run side by side: one scans for new heights, one offers
failed heights again, and workers observe the blocks of the heights that are
offered. A task goes from stage to stage. Its `Turn` at a stage is what it does
next: it has ended, or it asks its surroundings for one thing and goes on with
the answer. All that tasks share is behind these acts, so what may happen between
two steps of a task is up to the surroundings alone.
-/

namespace ChainRelay

/-- What a task asks its surroundings for. -/
inductive Act
  /-- Reads how far the scan has come. -/
  | readPosition
  /-- Reads the heights whose blocks have not been observed. -/
  | readUnfinished
  /-- Reads the heights whose blocks could not be observed. -/
  | readFailed
  /-- Remembers what has become of a height. -/
  | setStatus (height : UInt64) (status : BlockStatus)
  /-- Remembers how far the scan has come. -/
  | setPosition (height : UInt64)
  /-- Asks the node for the chain head. -/
  | pollHead
  /-- Waits before it asks for the chain head again. -/
  | rest
  /-- Waits until failed heights are due. -/
  | awaitDue
  /-- Puts a height into the queue, once there is room. -/
  | offer (height : UInt64)
  /-- Takes a height out of the queue, once there is one. -/
  | take
  /-- Asks the node for a block. -/
  | observe (height : UInt64)
  /-- Hands a block on, once there is room. -/
  | forward (block : Block)
deriving DecidableEq, Repr

/-- What the surroundings answer. A `Bool` is whether the task is to go on: it is
    not when it has been stopped, or nobody is left to take what it offers. -/
def Act.Answer : Act → Type
  | readPosition => Outcome (Option UInt64)
  | readUnfinished => Outcome (List UInt64)
  | readFailed => Outcome (List UInt64)
  | setStatus _ _ => Outcome Unit
  | setPosition _ => Outcome Unit
  -- `none` when the task has been stopped.
  | pollHead => Option (Outcome UInt64)
  | rest => Bool
  | awaitDue => Bool
  | offer _ => Bool
  -- `none` when the task has been stopped, or nobody is left to offer a height.
  | take => Option UInt64
  | observe _ => Outcome Block
  | forward _ => Bool

/-- What a task with stages `σ` does next. -/
inductive Turn (σ : Type)
  /-- It has ended. -/
  | ended (result : Outcome Unit)
  /-- It asks for something; an answer leads to measurements and the next stage. -/
  | ask (act : Act) (next : act.Answer → List Measurement × σ)

end ChainRelay
