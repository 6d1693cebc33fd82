import ChainRelay.Failure
import ChainRelay.Json.Reader
import ChainRelay.Json.Record

/-!
# Blocks

A block as it is handed on, and the parts of asking a node for one that all kinds
of nodes share.
-/

namespace ChainRelay

/-- A block of the chain that is observed. -/
structure Block where
  /-- Its height. -/
  height : UInt64
  /-- Its transactions, each as text. -/
  transactions : List String
deriving DecidableEq, Repr

/-- What a node is asked. -/
structure BlockQuery where
  /-- Where the query goes. -/
  url : String
  /-- The JSON text that is posted, if any. -/
  body : Option String
deriving DecidableEq, Repr

/-- Reads an answer. -/
def Codec.ofAnswer {α : Type} (c : Codec α) (body : Bytes) : Except DecodeError α :=
  c.ofBytes body Doc.read

/-- The failure to read an answer about the chain head. -/
def headUnreadable (body : Bytes) (e : DecodeError) : Failure :=
  (Failure.ofDecode e).behindOf (.headUnreadable (Utf8.lossy body))

end ChainRelay
