import ChainRelay.Block.Source
import ChainRelay.Endpoint
import ChainRelay.Http.Retry

/-!
# Observing blocks

An observer fetches the block of a height from a node and makes sure that the
node has answered with that block and no other.
-/

namespace ChainRelay

/-- Who asks for blocks. -/
structure Observer where
  /-- The node that is asked. -/
  endpoint : String
  /-- The kind of the node. -/
  nodeKind : NodeKind
  /-- How fetches are retried. -/
  policy : Http.RetryPolicy
  /-- How many blocks may be asked for at once. -/
  workers : Nat
deriving DecidableEq, Repr

namespace Observer

/-- The observer for some settings and a kind of node. -/
def create (settings : ScanSettings) (nodeKind : NodeKind) : Outcome Observer := do
  let endpoint ← Endpoint.normalize settings.rpcHost
  return {
    endpoint := endpoint
    nodeKind := nodeKind
    policy := settings.policy
    workers := max settings.processors.toNat 1 }

/-- The failure of a node that answers with another block. -/
def otherBlock (height answered : UInt64) : Failure :=
  .message ("requested block " ++ Numeral.ofWord height ++ " but node returned block "
    ++ Numeral.ofWord answered)

/-- What an answer says about the block of a height. -/
def readBlock (o : Observer) (height : UInt64) (body : Bytes) : Outcome Block := do
  let block ← o.nodeKind.readBlock body
  if block.height = height then return block else .error (otherBlock height block.height)

/-- Asks for the block of a height. -/
def observe (o : Observer) (isStopped : Bool) (height : UInt64) : Http.Exchange (Outcome Block) := do
  let query := o.nodeKind.blockQuery o.endpoint height
  match ← Http.fetch o.policy isStopped query.url (query.body.map Utf8.encode) with
  | .error fault => return .error fault.failure
  | .ok body => return o.readBlock height body

end Observer

end ChainRelay
