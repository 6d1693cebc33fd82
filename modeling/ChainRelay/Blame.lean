import ChainRelay.Json.Record
import ChainRelay.PublicKey

/-!
# Blame

Why an operation of several parties failed, and which nodes had a part in it.
-/

namespace ChainRelay

/-- A reason and the nodes it is put down to. -/
structure Blame where
  /-- What went wrong. -/
  reason : String
  /-- The nodes that are blamed. -/
  nodes : List PublicKey
deriving DecidableEq

namespace Blame

/-- Nothing went wrong. -/
def none : Blame := ⟨"", []⟩

/-- Whether nothing went wrong. -/
def isEmpty (b : Blame) : Bool := b.reason = "" && b.nodes.isEmpty

/-- The blame as text, on two lines. -/
def text (b : Blame) : String :=
  "reason:" ++ b.reason ++ "\nnodes:[" ++ " ".intercalate (b.nodes.map PublicKey.text) ++ "]\n"

/-- Blames as objects; an empty list of nodes is left out. -/
def codec : Codec Blame :=
  .record
    (.cons (.required "fail_reason" .text) <|
      .cons (.sparse "blame_peers" (.list PublicKey.codec) [] List.isEmpty) .nil)
    (fun (reason, nodes, ()) => ⟨reason, nodes⟩)
    (fun b => (b.reason, b.nodes, ()))

end Blame

end ChainRelay
