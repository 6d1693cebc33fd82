/-!
# Durations

A length of time in whole nanoseconds, and how a message shows it: in the
largest of the units s, ms, µs and ns that it fills, without trailing zeros.
-/

namespace ChainRelay

/-- A length of time. -/
structure Duration where
  /-- Its whole nanoseconds. -/
  nanoseconds : Nat
deriving DecidableEq, Repr

namespace Duration

/-- So many seconds. -/
def seconds (n : Nat) : Duration := ⟨n * 1000000000⟩

/-- So many milliseconds. -/
def milliseconds (n : Nat) : Duration := ⟨n * 1000000⟩

/-- No time. -/
def zero : Duration := ⟨0⟩

/-- Whether this is no time. -/
def isZero (d : Duration) : Bool := d.nanoseconds = 0

/-- The shorter of two. -/
def min (a b : Duration) : Duration := ⟨Nat.min a.nanoseconds b.nanoseconds⟩

/-- What is left of `a` after `b`. -/
def sub (a b : Duration) : Duration := ⟨a.nanoseconds - b.nanoseconds⟩

/-- Both one after the other. -/
def add (a b : Duration) : Duration := ⟨a.nanoseconds + b.nanoseconds⟩

/-- The digits after the point of `n / 10 ^ width`, without trailing zeros. -/
def fraction (n width : Nat) : String :=
  let digits := Nat.toDigits 10 n
  let padded := List.replicate (width - digits.length) '0' ++ digits
  let kept := (padded.reverse.dropWhile (· = '0')).reverse
  if kept.isEmpty then "" else "." ++ String.ofList kept

/-- The duration in the unit of `10 ^ width` nanoseconds. -/
def inUnit (d : Duration) (width : Nat) (unit : String) : String :=
  toString (d.nanoseconds / Nat.pow 10 width)
    ++ (if width = 0 then "" else fraction (d.nanoseconds % Nat.pow 10 width) width) ++ unit

/-- The duration as a message shows it. -/
def text (d : Duration) : String :=
  if 1000000000 ≤ d.nanoseconds then d.inUnit 9 "s"
  else if 1000000 ≤ d.nanoseconds then d.inUnit 6 "ms"
  else if 1000 ≤ d.nanoseconds then d.inUnit 3 "µs"
  else d.inUnit 0 "ns"

end Duration

end ChainRelay
