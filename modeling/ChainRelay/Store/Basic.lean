import ChainRelay.Failure

/-!
# The store

What a scan remembers: how far it has come, and what has become of each height.
Heights that have not been observed are listed in ascending order. The store
holds integers of sixty-three bits only, so it refuses heights beyond them.

A store is a value here, and its rows hold heights and statuses as they are. How a
database holds them, with heights as signed integers and statuses as small numbers, is
not said: within sixty-three bits a height is the same number with a sign, and no
number but those of the statuses is ever written.
-/

namespace ChainRelay

/-- What has become of a height. -/
inductive BlockStatus
  /-- It was handed out; nothing is known since. -/
  | handedOut
  /-- Its block was observed. -/
  | observed
  /-- Its block could not be observed. -/
  | failed
deriving DecidableEq, Repr

/-- The name of a status. -/
def BlockStatus.text : BlockStatus → String
  | handedOut => "NotStarted"
  | observed => "Success"
  | failed => "Failed"

/-- Heights with what has become of them. -/
abbrev StatusRows := List (UInt64 × BlockStatus)

namespace StatusRows

/-- Notes the status of a height in ascending rows. -/
def put (height : UInt64) (status : BlockStatus) : StatusRows → StatusRows
  | [] => [(height, status)]
  | (h, s) :: rest =>
    if height < h then (height, status) :: (h, s) :: rest
    else if height = h then (height, status) :: rest
    else (h, s) :: put height status rest

end StatusRows

/-- What a scan remembers. -/
structure Store where
  /-- The height it has come to, if any. -/
  position : Option UInt64
  /-- What has become of each height, in ascending order. -/
  rows : StatusRows
deriving DecidableEq, Repr

namespace Store

/-- A store that remembers nothing. -/
def empty : Store := ⟨none, []⟩

/-- The greatest height that can be stored. -/
def maxHeight : UInt64 := 9223372036854775807

/-- The failure to store a height. -/
def tooLarge (height : UInt64) : Failure :=
  .message ("height " ++ Numeral.ofWord height ++ " is too large to store")

/-- Remembers how far the scan has come. -/
def setPosition (s : Store) (height : UInt64) : Outcome Store :=
  if height ≤ maxHeight then .ok { s with position := some height } else .error (tooLarge height)

/-- Remembers what has become of a height. -/
def setStatus (s : Store) (height : UInt64) (status : BlockStatus) : Outcome Store :=
  if height ≤ maxHeight then .ok { s with rows := StatusRows.put height status s.rows }
  else .error (tooLarge height)

/-- What has become of a height, if it was ever handed out. -/
def status? (s : Store) (height : UInt64) : Option BlockStatus := s.rows.lookup height

/-- The heights whose blocks have not been observed, in ascending order. -/
def unfinished (s : Store) : List UInt64 :=
  (s.rows.filter fun row => row.2 ≠ .observed).map Prod.fst

/-- The heights whose blocks could not be observed, in ascending order. -/
def failed (s : Store) : List UInt64 :=
  (s.rows.filter fun row => row.2 = .failed).map Prod.fst

end Store

end ChainRelay
