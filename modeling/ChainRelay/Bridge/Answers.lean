import ChainRelay.Block.Basic
import ChainRelay.Json.Record

/-!
# Answers of THORChain

What THORChain answers about accounts, transactions and its newest block.
-/

namespace ChainRelay

/-- What is known about an account; its numbers are kept as they were written, so
    that a malformed one can be shown. -/
structure AccountAnswer where
  /-- The address of the account. -/
  address : String
  /-- The number of the account. -/
  number : String
  /-- The sequence number of its next transaction. -/
  sequence : String
deriving DecidableEq, Repr

namespace AccountAnswer

/-- The innermost object of the answer. -/
def valueCodec : Codec AccountAnswer :=
  .record
    (.cons (.optional "address" .text "") <| .cons (.required "account_number" .text) <|
      .cons (.required "sequence" .text) .nil)
    (fun (address, number, sequence, ()) => ⟨address, number, sequence⟩)
    (fun a => (a.address, a.number, a.sequence, ()))

/-- An answer: the value in a result. -/
def codec : Codec AccountAnswer :=
  .record
    (.cons (.required "result" <| .record (.cons (.required "value" valueCodec) .nil)
      (fun (a, ()) => a) (fun a => (a, ()))) .nil)
    (fun (a, ()) => a) (fun a => (a, ()))

end AccountAnswer

/-- What became of a transaction. -/
structure BroadcastAnswer where
  /-- Its hash. -/
  hash : String
  /-- The height of its block, which need not be a number. -/
  height : String
  /-- Why it was refused; zero if it was not. -/
  code : UInt32
  /-- What there is to tell about it. -/
  log : String
deriving DecidableEq, Repr

/-- Answers to transactions as objects. -/
def BroadcastAnswer.codec : Codec BroadcastAnswer :=
  .record
    (.cons (.required "txhash" .text) <| .cons (.optional "height" .text "") <|
      .cons (.optional "code" .word32 0) <| .cons (.optional "raw_log" .text "") .nil)
    (fun (hash, height, code, log, ()) => ⟨hash, height, code, log⟩)
    (fun a => (a.hash, a.height, a.code, a.log, ()))

/-- The newest block of THORChain. -/
structure LastBlockAnswer where
  /-- Its height. -/
  height : UInt64
deriving DecidableEq, Repr

/-- Answers about the newest block as objects. -/
def LastBlockAnswer.codec : Codec LastBlockAnswer :=
  .record (.cons (.required "thorchain" .decimal) .nil)
    (fun (height, ()) => ⟨height⟩) (fun a => (a.height, ()))

end ChainRelay
