import ChainRelay.Duration

/-!
# Clocks

A clock that never goes back tells how long it has been running. Its seconds are a
signed word, so there is a last moment that it can tell, and a deadline that lies
behind it does not exist (`Moment.after?`).
-/

namespace ChainRelay

/-- How many nanoseconds a clock can run before it can tell no more. -/
def Moment.bound : Nat := 9223372036854775808 * 1000000000

/-- What a clock tells. -/
structure Moment where
  /-- How long it has been running, in nanoseconds. -/
  nanoseconds : Nat
  /-- The clock can tell it. -/
  isTold : nanoseconds < Moment.bound
deriving DecidableEq, Repr

namespace Moment

/-- The moment so many nanoseconds after the start of the clock, or the last one that
    it can tell. -/
def ofNanoseconds (n : Nat) : Moment :=
  ⟨Nat.min n (bound - 1), Nat.lt_of_le_of_lt (Nat.min_le_right _ _) (by decide)⟩

/-- The moment that comes so long after another, if the clock can tell it. -/
def after? (m : Moment) (d : Duration) : Option Moment :=
  if h : m.nanoseconds + d.nanoseconds < bound then some ⟨m.nanoseconds + d.nanoseconds, h⟩
  else none

theorem after?_eq_some_iff {m later : Moment} {d : Duration} :
    m.after? d = some later ↔ m.nanoseconds + d.nanoseconds = later.nanoseconds := by
  rw [after?]
  split
  · exact ⟨fun hsome => congrArg nanoseconds (Option.some.inj hsome),
      fun heq => by cases later; cases heq; rfl⟩
  · next h => exact ⟨nofun, fun heq => absurd (heq ▸ later.isTold) h⟩

theorem after?_eq_none_iff {m : Moment} {d : Duration} :
    m.after? d = none ↔ bound ≤ m.nanoseconds + d.nanoseconds := by
  rw [after?]
  split
  · next h => exact ⟨nofun, fun hle => absurd h (Nat.not_lt.2 hle)⟩
  · next h => exact ⟨fun _ => Nat.not_lt.1 h, fun _ => rfl⟩

end Moment

end ChainRelay
