import ChainRelay.Block.Basic

/-!
# Blocks of Ethereum nodes

Nodes answer calls that are posted as JSON. Heights are quantities: hexadecimal
digits behind `0x`. Transactions are handed on as JSON with ascending keys.
-/

namespace ChainRelay.Ethereum

/-- What is read of a block. -/
structure BlockBody where
  /-- The height, as a quantity. -/
  number : String
  /-- The transactions. -/
  transactions : List Json

/-- Blocks as objects. -/
def BlockBody.codec : Codec BlockBody :=
  .record
    (.cons (.required "number" .text) <|
      .cons (.optional "transactions" (.list .value) []) .nil)
    (fun (number, transactions, ()) => ⟨number, transactions⟩)
    (fun b => (b.number, b.transactions, ()))

/-- What is read of an answer: a result, an error, or neither. -/
structure Answer (α : Type) where
  /-- What was asked for. -/
  result : Option α
  /-- Why there is none. -/
  error : Option Json

/-- Answers as objects. -/
def Answer.codec {α : Type} (c : Codec α) : Codec (Answer α) :=
  .record
    (.cons (.optional "result" (.option c) none) <|
      .cons (.optional "error" (.option .value) none) .nil)
    (fun (result, error, ()) => ⟨result, error⟩)
    (fun a => (a.result, a.error, ()))

/-- A call of a method. -/
def call (method : String) (parameters : List Json) : Json :=
  Json.sorted <| .object [
    ("jsonrpc", .text "2.0"),
    ("id", .ofNat 1),
    ("method", .text method),
    ("params", .array parameters)]

/-- A number as a quantity. -/
def quantity (n : UInt64) : String := "0x" ++ String.ofList (Nat.toDigits 16 n.toNat)

/-- The number that a quantity stands for. -/
def readQuantity (s : String) : Except Cause UInt64 :=
  match s.toList with
  | '0' :: 'x' :: digits =>
    match Numeral.read 16 (Nat.pow 2 64) digits with
    | .ok n => .ok (UInt64.ofNat n)
    | .error fault => .error (.numeral fault)
  | _ => .error (.message (Quoted.ofText s ++ " is not a hex quantity"))

/-- Asks for the newest height. -/
def headQuery (host : String) : BlockQuery := ⟨host, some (call "eth_blockNumber" []).render⟩

/-- Asks for the block of some height, with its transactions. -/
def blockQuery (host : String) (height : UInt64) : BlockQuery :=
  ⟨host, some (call "eth_getBlockByNumber" [.text (quantity height), .bool true]).render⟩

/-- The newest height. -/
def readHead (body : Bytes) : Outcome UInt64 := do
  let answer ← ((Answer.codec .text).ofAnswer body).mapError (headUnreadable body)
  match answer.error, answer.result with
  | some error, _ => .error (.of (.headRefused error.render))
  | none, none => .error (.of (.headRefused "no result"))
  | none, some raw =>
    match readQuantity raw with
    | .ok height => return height
    | .error cause => .error (.of (.headNoNumber raw cause.describe))

/-- The block in an answer. -/
def readBlock (body : Bytes) : Outcome Block := do
  let answer ← ((Answer.codec BlockBody.codec).ofAnswer body).mapError fun e =>
    (Failure.ofDecode e).within "fail to unmarshal ethereum block"
  match answer.error, answer.result with
  | some error, _ => .error (.message ("rpc error: " ++ error.render))
  | none, none => .error (.message "block not found")
  | none, some block =>
    match readQuantity block.number with
    | .error cause =>
      .error ((Failure.of cause).within
        ("fail to parse block number " ++ Quoted.ofText block.number))
    | .ok height => return ⟨height, block.transactions.map Json.render⟩

end ChainRelay.Ethereum
