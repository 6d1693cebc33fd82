import ChainRelay.Bridge.Report

/-!
# Broadcasting

A broadcast signs a transaction for the account of the signer and submits it. The
sequence number is asked for once and then counted on; after any failure it is
not known which one THORChain expects, so it is asked for again. Behind the
greatest one there is none to count on, and a broadcast that has used it breaks off.
-/

namespace ChainRelay.Bridge

/-- Reads a number of an account. -/
def readNumber (trouble : BridgeTrouble) (name raw : String) : Call UInt64 :=
  match Numeral.readDecimal raw with
  | .ok n => pure n
  | .error fault =>
    Call.fail trouble
      (.message ("failed to parse " ++ name ++ " number (" ++ raw ++ "): " ++ fault.message))

/-- Asks for the account of the signer. -/
def account (b : Bridge) : Call Account := do
  let body ← (b.ask ("/auth/accounts/" ++ b.signer.address.text)).within "failed to get auth accounts"
  let answer ← readAnswer AccountAnswer.codec .accountUnreadable body
  let number ← readNumber .accountNumber "account" answer.number
  let sequence ← readNumber .sequenceNumber "sequence" answer.sequence
  return ⟨number, sequence⟩

/-- The account that the next transaction is signed for. -/
def nextAccount (b : Bridge) : Call Account := do
  match (← get).account with
  | some account => return account
  | none =>
    let account ← b.account
    modify fun s => { s with account := some account }
    return account

/-- A transaction with the signature for an account, and no other. -/
def signed (b : Bridge) (tx : Envelope) (account : Account) : Envelope :=
  { tx with signatures := [b.signer.sign tx b.settings.chainId account] }

/-- What is posted to take a transaction in. -/
def broadcastBody (b : Bridge) (tx : Envelope) (mode : BroadcastMode) (account : Account) : Bytes :=
  Utf8.encode ((b.signed tx account).broadcastRequest mode).render

/-- The hash in an answer to a transaction. -/
def accepted (answer : BroadcastAnswer) : Call TxId :=
  if answer.code ≠ 0 then
    Call.fail .broadcast (.of (.broadcastRejected answer.code answer.log))
  else Call.ofOutcome ((TxId.parse answer.hash).mapError fun fault => .message fault.message)

/-- Remembers the account for the transaction behind one that was accepted. -/
def keepNext (account : Account) : Call Unit :=
  match account.next? with
  | some next => modify fun s => { s with account := some next }
  | none => Call.breakOff .lastSequence

/-- Signs a transaction and submits it. -/
def submit (b : Bridge) (tx : Envelope) (mode : BroadcastMode) : Call TxId := do
  let account ← b.nextAccount
  let body ← (b.post "/txs" (b.broadcastBody tx mode account)).orCount .broadcast
  let answer ← readAnswer BroadcastAnswer.codec .broadcastUnreadable body
  let id ← accepted answer
  keepNext account
  return id

/-- Signs a transaction and submits it; a failure makes the account unknown. -/
def broadcast (b : Bridge) (tx : Envelope) (mode : BroadcastMode) : Call TxId :=
  tryCatch (b.submit tx mode) fun failure => do
    modify fun s => { s with account := none }
    throw failure

/-- Reports that the signing of a transaction has failed. -/
def postKeysignFailure (b : Bridge) (height : UInt64) (blame : Blame) (memo : String)
    (coins : List Coin) : Call TxId := do
  b.broadcast (← b.keysignFailure height blame memo coins) .checked

end ChainRelay.Bridge
