import ChainRelay.Asset
import ChainRelay.PublicKey
import ChainRelay.TxId

/-!
# Transactions on other chains

What was moved from whom to whom, and what a node has seen of it.
-/

namespace ChainRelay

/-- A transaction on some chain. -/
structure Transaction where
  /-- Its hash. -/
  id : TxId
  /-- The chain it is on. -/
  chain : Chain
  /-- Who pays. -/
  sender : Address
  /-- Who is paid. -/
  receiver : Address
  /-- What is paid. -/
  coins : List Coin
  /-- What the transaction costs. -/
  gas : List Coin
  /-- The note of the sender. -/
  memo : String
deriving DecidableEq, Repr

namespace Transaction

/-- The chain whose addresses the transaction uses: that of its first coin. -/
def addressChain (t : Transaction) : Chain :=
  match t.coins with
  | [] => .bnb
  | coin :: _ => coin.asset.chain

/-- Transactions as objects. -/
def codec : Codec Transaction :=
  .record
    (.cons (.required "id" TxId.codec) <| .cons (.required "chain" Chain.codec) <|
      .cons (.required "from_address" Address.codec) <|
      .cons (.required "to_address" Address.codec) <|
      .cons (.required "coins" (.list Coin.codec)) <|
      .cons (.optional "gas" (.list Coin.codec) []) <|
      .cons (.optional "memo" .text "") .nil)
    (fun (id, chain, sender, receiver, coins, gas, memo, ()) =>
      ⟨id, chain, sender, receiver, coins, gas, memo⟩)
    (fun t => (t.id, t.chain, t.sender, t.receiver, t.coins, t.gas, t.memo, ()))

end Transaction

/-- A transaction as a node has seen it, at the vault with a key. -/
structure Observation where
  /-- What was seen. -/
  transaction : Transaction
  /-- The height of its block. -/
  height : UInt64
  /-- The key of the vault. -/
  vault : PublicKey
  /-- Who has signed the observation. -/
  signers : List Address
deriving DecidableEq

namespace Observation

/-- An observation that nobody has signed. -/
def unsigned (transaction : Transaction) (height : UInt64) (vault : PublicKey) : Observation :=
  ⟨transaction, height, vault, []⟩

/-- Observations as objects. -/
def codec : Codec Observation :=
  .record
    (.cons (.required "tx" Transaction.codec) <| .cons (.required "block_height" .decimal) <|
      .cons (.required "observed_pub_key" PublicKey.codec) <|
      .cons (.optional "signers" (.list Address.codec) []) .nil)
    (fun (transaction, height, vault, signers, ()) => ⟨transaction, height, vault, signers⟩)
    (fun o => (o.transaction, o.height, o.vault, o.signers, ()))

end Observation

end ChainRelay
