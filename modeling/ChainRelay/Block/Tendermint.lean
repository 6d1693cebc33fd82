import ChainRelay.Block.Basic
import ChainRelay.Text.Base64

/-!
# Blocks of Tendermint nodes

`/block` answers with the newest block, `/block?height=N` with one of some height.
Transactions come in Base64 and are handed on in hexadecimal digits.
-/

namespace ChainRelay.Tendermint

/-- What is read of an answer. -/
structure Answer where
  /-- The height, in digits. -/
  height : String
  /-- The transactions in Base64; a block without any may leave them out. -/
  transactions : Option (List String)
deriving DecidableEq, Repr

/-- A structure with one field. -/
def nested {α : Type} (name : String) (c : Codec α) : Codec α :=
  .record (.cons (.required name c) .nil) (fun (x, ()) => x) (fun x => (x, ()))

/-- The transactions of a block. -/
def dataCodec : Codec (Option (List String)) :=
  .record (.cons (.optional "txs" (.option (.list .text)) none) .nil)
    (fun (txs, ()) => txs) (fun txs => (txs, ()))

/-- Answers as objects. -/
def Answer.codec : Codec Answer :=
  nested "result" <| nested "block" <|
    .record
      (.cons (.required "header" (nested "height" .text)) <|
        .cons (.optional "data" dataCodec none) .nil)
      (fun (height, transactions, ()) => ⟨height, transactions⟩)
      (fun a => (a.height, a.transactions, ()))

/-- Asks for the newest block. -/
def headQuery (host : String) : BlockQuery := ⟨host ++ "/block", none⟩

/-- Asks for the block of some height. -/
def blockQuery (host : String) (height : UInt64) : BlockQuery :=
  ⟨host ++ "/block?height=" ++ Numeral.ofWord height, none⟩

/-- The height of the newest block. -/
def readHead (body : Bytes) : Outcome UInt64 := do
  let answer ← (Answer.codec.ofAnswer body).mapError (headUnreadable body)
  match Numeral.readDecimal answer.height with
  | .ok height => return height
  | .error fault => .error (.of (.headNoNumber answer.height fault.message))

/-- Transactions as they are handed on. -/
def readTransactions (height : UInt64) : List String → Outcome (List String)
  | [] => .ok []
  | tx :: rest =>
    match Base64.decode? tx with
    | none =>
      .error ((Failure.of .base64).within
        ("fail to decode tx " ++ Quoted.ofText tx ++ " in block " ++ Numeral.ofWord height))
    | some bytes => do
      let txs ← readTransactions height rest
      return Hex.lower bytes :: txs

/-- The block in an answer. -/
def readBlock (body : Bytes) : Outcome Block := do
  let answer ← (Answer.codec.ofAnswer body).mapError fun e =>
    (Failure.ofDecode e).within "fail to unmarshal tendermint block"
  match Numeral.readDecimal answer.height with
  | .error fault =>
    .error ((Failure.of (.numeral fault)).within
      ("fail to parse block height " ++ Quoted.ofText answer.height))
  | .ok height => do
    let txs ← readTransactions height (answer.transactions.getD [])
    return ⟨height, txs⟩

end ChainRelay.Tendermint
