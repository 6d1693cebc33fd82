import ChainRelay.Message

/-!
# Envelopes

A transaction of THORChain holds messages, a fee and signatures. What a signer
commits to is the text of `Envelope.signDocument`, an object whose keys ascend at
every depth, so that all parties sign the same bytes.
-/

namespace ChainRelay

/-- A coin of a fee. -/
structure FeeCoin where
  /-- Its denomination. -/
  denomination : String
  /-- How much of it, in digits. -/
  amount : String
deriving DecidableEq, Repr

/-- Coins of fees as objects. -/
def FeeCoin.codec : Codec FeeCoin :=
  .record
    (.cons (.required "denom" .text) <| .cons (.required "amount" .text) .nil)
    (fun (denomination, amount, ()) => ⟨denomination, amount⟩)
    (fun c => (c.denomination, c.amount, ()))

/-- What a transaction pays to be processed. -/
structure Fee where
  /-- The coins that are paid. -/
  coins : List FeeCoin
  /-- How much processing is paid for. -/
  gas : UInt64
deriving DecidableEq, Repr

namespace Fee

/-- What every transaction of a relay pays. -/
def standard : Fee := ⟨[], 100000000⟩

/-- Fees as objects. -/
def codec : Codec Fee :=
  .record
    (.cons (.required "amount" (.list FeeCoin.codec)) <| .cons (.required "gas" .decimal) .nil)
    (fun (coins, gas, ()) => ⟨coins, gas⟩)
    (fun f => (f.coins, f.gas, ()))

end Fee

/-- An account number with the sequence number of its next transaction. -/
structure Account where
  /-- The number of the account. -/
  number : UInt64
  /-- The sequence number. -/
  sequence : UInt64
deriving DecidableEq, Repr

namespace Account

/-- The account with the next sequence number, if there is one. -/
def next? (a : Account) : Option Account :=
  if a.sequence.toNat + 1 < UInt64.size then some { a with sequence := a.sequence + 1 } else none

theorem next?_eq_some_iff {a next : Account} : a.next? = some next ↔
    a.sequence.toNat + 1 < UInt64.size ∧ { a with sequence := a.sequence + 1 } = next := by
  rw [next?, Option.ite_none_right_eq_some, Option.some.injEq]

theorem next?_eq_none_iff {a : Account} :
    a.next? = none ↔ a.sequence.toNat + 1 = UInt64.size := by
  have hlt := a.sequence.toNat_lt_size
  rw [next?]
  split
  · next h => exact ⟨nofun, fun heq => absurd heq (Nat.ne_of_lt h)⟩
  · next h => exact ⟨fun _ => by omega, fun _ => rfl⟩

/-- There is no overflow in the next sequence number. -/
theorem toNat_sequence_next? {a next : Account} (h : a.next? = some next) :
    next.sequence.toNat = a.sequence.toNat + 1 := by
  obtain ⟨hlt, rfl⟩ := next?_eq_some_iff.1 h
  rw [UInt64.toNat_add, UInt64.toNat_one]
  exact Nat.mod_eq_of_lt hlt

end Account

/-- The key that a signature verifies with. -/
structure SignatureKey where
  /-- The kind of the key. -/
  kind : String
  /-- Its bytes in Base64. -/
  value : String
deriving DecidableEq, Repr

/-- Keys of signatures as objects. -/
def SignatureKey.codec : Codec SignatureKey :=
  .record
    (.cons (.required "type" .text) <| .cons (.required "value" .text) .nil)
    (fun (kind, value, ()) => ⟨kind, value⟩)
    (fun k => (k.kind, k.value, ()))

/-- A signature, with the account state that it commits to. -/
structure Signature where
  /-- The key it verifies with. -/
  key : SignatureKey
  /-- Its sixty-four bytes in Base64. -/
  value : String
  /-- The account and sequence number. -/
  account : Account
deriving DecidableEq, Repr

/-- Signatures as objects. -/
def Signature.codec : Codec Signature :=
  .record
    (.cons (.required "pub_key" SignatureKey.codec) <| .cons (.required "signature" .text) <|
      .cons (.required "account_number" .decimal) <| .cons (.required "sequence" .decimal) .nil)
    (fun (key, value, number, sequence, ()) => ⟨key, value, ⟨number, sequence⟩⟩)
    (fun s => (s.key, s.value, s.account.number, s.account.sequence, ()))

/-- A transaction of THORChain. -/
structure Envelope where
  /-- What it tells. -/
  messages : List Message
  /-- What it pays. -/
  fee : Fee
  /-- Who has signed it. -/
  signatures : List Signature
  /-- A note. -/
  memo : String
deriving DecidableEq

namespace Envelope

/-- An unsigned transaction with the standard fee. -/
def unsigned (messages : List Message) : Envelope := ⟨messages, .standard, [], ""⟩

/-- Transactions as objects. -/
def codec : Codec Envelope :=
  .record
    (.cons (.required "msg" (.list Message.codec)) <| .cons (.required "fee" Fee.codec) <|
      .cons (.optional "signatures" (.list Signature.codec) []) <|
      .cons (.required "memo" .text) .nil)
    (fun (messages, fee, signatures, memo, ()) => ⟨messages, fee, signatures, memo⟩)
    (fun e => (e.messages, e.fee, e.signatures, e.memo, ()))

/-- What is signed, field by field. -/
def signFields (e : Envelope) (chainId : String) (account : Account) : Json :=
  .object [
    ("account_number", Codec.decimal.encode account.number),
    ("chain_id", .text chainId),
    ("fee", Fee.codec.encode e.fee),
    ("memo", .text e.memo),
    ("msgs", (Codec.list Message.codec).encode e.messages),
    ("sequence", Codec.decimal.encode account.sequence)]

/-- What is signed, with ascending keys at every depth. -/
def signDocument (e : Envelope) (chainId : String) (account : Account) : Json :=
  (e.signFields chainId account).sorted

/-- The bytes that a signature commits to. -/
def signBytes (e : Envelope) (chainId : String) (account : Account) : Bytes :=
  Utf8.encode (e.signDocument chainId account).render

end Envelope

/-- How long THORChain processes a transaction before it answers. -/
inductive BroadcastMode
  /-- Until the transaction has been checked. -/
  | checked
  /-- Not at all. -/
  | immediate
  /-- Until the transaction is in a block. -/
  | committed
deriving DecidableEq, Repr

namespace BroadcastMode

/-- The name of a mode. -/
def text : BroadcastMode → String
  | checked => "sync"
  | immediate => "async"
  | committed => "block"

/-- The mode with a name. -/
def ofText? : String → Option BroadcastMode
  | "sync" => some checked
  | "async" => some immediate
  | "block" => some committed
  | _ => none

/-- Modes by their names. -/
def codec : Codec BroadcastMode := .names text ofText?

end BroadcastMode

/-- The request to take a transaction in. -/
def Envelope.broadcastRequest (e : Envelope) (mode : BroadcastMode) : Json :=
  .object [("tx", Envelope.codec.encode e), ("mode", BroadcastMode.codec.encode mode)]

end ChainRelay
