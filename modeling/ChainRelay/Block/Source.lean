import ChainRelay.Block.Ethereum
import ChainRelay.Block.Tendermint
import ChainRelay.Settings

/-!
# Where blocks come from

How each kind of node is asked for the newest height and for a block, and how its
answers are read.
-/

namespace ChainRelay.NodeKind

/-- Asks for the newest height. -/
def headQuery : NodeKind → String → BlockQuery
  | tendermint => Tendermint.headQuery
  | ethereum => Ethereum.headQuery

/-- Asks for the block of some height. -/
def blockQuery : NodeKind → String → UInt64 → BlockQuery
  | tendermint => Tendermint.blockQuery
  | ethereum => Ethereum.blockQuery

/-- Reads the newest height. -/
def readHead : NodeKind → Bytes → Outcome UInt64
  | tendermint => Tendermint.readHead
  | ethereum => Ethereum.readHead

/-- Reads a block. -/
def readBlock : NodeKind → Bytes → Outcome Block
  | tendermint => Tendermint.readBlock
  | ethereum => Ethereum.readBlock

end ChainRelay.NodeKind
