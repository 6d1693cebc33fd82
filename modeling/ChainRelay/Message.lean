import ChainRelay.Blame
import ChainRelay.Crypto.Sha256
import ChainRelay.Transaction

/-!
# Messages

What a node tells THORChain: that a signing round of its vault failed, how the
making of a new vault ended, and which transactions it has observed. The first
two carry an id that every party computes alike from what is reported.
-/

namespace ChainRelay

/-- Which vaults a new key is for. -/
inductive KeygenKind
  | asgard
  | yggdrasil
deriving DecidableEq, Repr

namespace KeygenKind

/-- The name of a kind. -/
def text : KeygenKind → String
  | asgard => "asgard"
  | yggdrasil => "yggdrasil"

/-- The kind with a name. -/
def ofText? : String → Option KeygenKind
  | "asgard" => some asgard
  | "yggdrasil" => some yggdrasil
  | _ => none

/-- Kinds by their names. -/
def codec : Codec KeygenKind := .names text ofText?

end KeygenKind

/-- A signing round that failed. -/
structure KeysignFailure where
  /-- What all parties call the failure. -/
  id : TxId
  /-- The height at which it happened. -/
  height : UInt64
  /-- Why it happened. -/
  blame : Blame
  /-- The note of the payment that was to be signed. -/
  memo : String
  /-- The coins that were to be paid. -/
  coins : List Coin
  /-- Who reports it. -/
  signer : Address
deriving DecidableEq

namespace KeysignFailure

/-- The text that the id is the hash of. -/
def idText (height : UInt64) (blame : Blame) (memo : String) (coins : List Coin) : String :=
  Numeral.ofWord height ++ memo ++ String.join (coins.map Coin.text)
    ++ String.join (blame.nodes.map PublicKey.text)

/-- The report of a failure. -/
def report (height : UInt64) (blame : Blame) (memo : String) (coins : List Coin)
    (signer : Address) : KeysignFailure where
  id := .ofDigest (Sha256.hash (Utf8.encode (idText height blame memo coins)))
  height := height
  blame := blame
  memo := memo
  coins := coins
  signer := signer

/-- Reports as objects. -/
def codec : Codec KeysignFailure :=
  .record
    (.cons (.required "id" TxId.codec) <| .cons (.required "height" .decimal) <|
      .cons (.required "blame" Blame.codec) <| .cons (.required "memo" .text) <|
      .cons (.required "coins" (.list Coin.codec)) <|
      .cons (.required "signer" Address.codec) .nil)
    (fun (id, height, blame, memo, coins, signer, ()) => ⟨id, height, blame, memo, coins, signer⟩)
    (fun m => (m.id, m.height, m.blame, m.memo, m.coins, m.signer, ()))

end KeysignFailure

/-- How the making of a new vault ended. -/
structure KeygenReport where
  /-- What all parties call the round. -/
  id : TxId
  /-- The key of the new vault. -/
  poolKey : PublicKey
  /-- Which vaults the key is for. -/
  kind : KeygenKind
  /-- The parties. -/
  members : List PublicKey
  /-- The height of the round. -/
  height : UInt64
  /-- What went wrong, if anything. -/
  blame : Blame
  /-- Who reports it. -/
  signer : Address
deriving DecidableEq

namespace KeygenReport

/-- The text that the id is the hash of. The members are put in order, since each
    party learns them in an order of its own. -/
def idText (members : List PublicKey) (poolKey : PublicKey) (height : UInt64) : String :=
  String.join ((members.map PublicKey.text).mergeSort fun s t => decide (s ≤ t)) ++ poolKey.text
    ++ Numeral.ofWord height

/-- The report of a round. -/
def report (members : List PublicKey) (poolKey : PublicKey) (kind : KeygenKind) (height : UInt64)
    (blame : Blame) (signer : Address) : KeygenReport where
  id := .ofDigest (Sha256.hash (Utf8.encode (idText members poolKey height)))
  poolKey := poolKey
  kind := kind
  members := members
  height := height
  blame := blame
  signer := signer

/-- Reports as objects. -/
def codec : Codec KeygenReport :=
  .record
    (.cons (.required "id" TxId.codec) <|
      .cons (.required "pool_pub_key" PublicKey.codec) <|
      .cons (.required "keygen_type" KeygenKind.codec) <|
      .cons (.required "pub_keys" (.list PublicKey.codec)) <|
      .cons (.required "height" .decimal) <| .cons (.required "blame" Blame.codec) <|
      .cons (.required "signer" Address.codec) .nil)
    (fun (id, poolKey, kind, members, height, blame, signer, ()) =>
      ⟨id, poolKey, kind, members, height, blame, signer⟩)
    (fun m => (m.id, m.poolKey, m.kind, m.members, m.height, m.blame, m.signer, ()))

end KeygenReport

/-- Transactions that a node has observed. -/
structure Sightings where
  /-- What was observed. -/
  observations : List Observation
  /-- Who has observed it. -/
  signer : Address
deriving DecidableEq

/-- Sightings as objects. -/
def Sightings.codec : Codec Sightings :=
  .record
    (.cons (.required "txs" (.list Observation.codec)) <|
      .cons (.required "signer" Address.codec) .nil)
    (fun (observations, signer, ()) => ⟨observations, signer⟩)
    (fun m => (m.observations, m.signer, ()))

/-- What a node tells THORChain. -/
inductive Message
  | keysignFailed (m : KeysignFailure)
  | keygen (m : KeygenReport)
  /-- Payments into a vault. -/
  | inbound (m : Sightings)
  /-- Payments out of a vault. -/
  | outbound (m : Sightings)
deriving DecidableEq

namespace Message

/-- The tag of a message. -/
def tag : Message → String
  | keysignFailed _ => "thorchain/MsgTssKeysignFail"
  | keygen _ => "thorchain/MsgTssPool"
  | inbound _ => "thorchain/ObservedTxIn"
  | outbound _ => "thorchain/ObservedTxOut"

/-- What a message carries under its tag. -/
def payload : Message → Json
  | keysignFailed m => KeysignFailure.codec.encode m
  | keygen m => KeygenReport.codec.encode m
  | inbound m => Sightings.codec.encode m
  | outbound m => Sightings.codec.encode m

/-- The kinds of messages. -/
def cases : List (Case Message) := [
  ⟨"thorchain/MsgTssKeysignFail", fun r d => (KeysignFailure.codec.decode r d).map keysignFailed⟩,
  ⟨"thorchain/MsgTssPool", fun r d => (KeygenReport.codec.decode r d).map keygen⟩,
  ⟨"thorchain/ObservedTxIn", fun r d => (Sightings.codec.decode r d).map inbound⟩,
  ⟨"thorchain/ObservedTxOut", fun r d => (Sightings.codec.decode r d).map outbound⟩]

/-- Messages as objects of a tag and a payload. -/
def codec : Codec Message := .tagged cases fun m => (m.tag, m.payload)

end Message

end ChainRelay
