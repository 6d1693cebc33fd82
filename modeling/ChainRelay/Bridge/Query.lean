import ChainRelay.Bridge.Basic
import ChainRelay.Clock
import ChainRelay.Event
import ChainRelay.NodeAccount

/-!
# Questions to THORChain

Who signs for a vault, what became of a transaction, and whether this node may
send transactions. The last is asked again and again until the answer is yes or
time is up.
-/

namespace ChainRelay.Bridge

/-- Asks how a node stands. -/
def nodeAccount (b : Bridge) (address : Address) : Call NodeAccount := do
  let body ← b.ask ("/thorchain/nodeaccount/" ++ address.text)
  readAnswer NodeAccount.codec .nodeAccountUnreadable body

/-- Makes sure that this node may send transactions. -/
def ensureWhitelisted (b : Bridge) : Call Unit := do
  let account ← (b.nodeAccount b.signer.address).within "failed to get node account"
  if account.isWhitelisted then return () else throw (.of (.notWhitelisted account.status))

/-- Asks again and again whether this node may send transactions, after `asked` times of
    asking. The clock tells for each of these times how long the wait has taken when its
    answer is known; as soon as that is as long as the settings say, the deadline has come.
    The result is whether the wait ends within `left` more times. -/
def pollWhitelisted (b : Bridge) (clock : Nat → Duration) (asked : Nat) : (left : Nat) → Call Bool
  | 0 => return false
  | left + 1 => do
    let isWhitelisted ← tryCatch (do b.ensureWhitelisted; return true) fun _ => return false
    if isWhitelisted then return true
    else if b.settings.whitelistTimeout.nanoseconds ≤ (clock asked).nanoseconds then
      throw (.of (.whitelistTimeout b.settings.whitelistTimeout))
    else if (← get).isStopped then throw (.message "stopped waiting for whitelisting")
    else b.pollWhitelisted clock (asked + 1) left

/-- Waits from some moment on until this node may send transactions. If the deadline lies
    behind what the clock can tell, the wait breaks off before anything is asked. -/
def awaitWhitelisted (b : Bridge) (begun : Moment) (clock : Nat → Duration) (left : Nat) :
    Call Bool :=
  match begun.after? b.settings.whitelistTimeout with
  | some _ => b.pollWhitelisted clock 0 left
  | none => Call.breakOff .lateDeadline

/-- The clock of a wait in which only the pauses take time: there is one after
    each time of asking, and none goes beyond the end of the wait. -/
def pauseClock (b : Bridge) (asked : Nat) : Duration :=
  .min ⟨asked * b.settings.whitelistPollInterval.nanoseconds⟩ b.settings.whitelistTimeout

/-- How often is asked at most if only the pauses take time. -/
def maxAsked (b : Bridge) : Nat :=
  b.settings.whitelistTimeout.nanoseconds / b.settings.whitelistPollInterval.nanoseconds + 2

/-- Asks who signs for a vault. The answer changes with each churn, so it is not
    kept. -/
def keysignParty (b : Bridge) (vault : PublicKey) : Call (List PublicKey) := do
  let body ← (b.ask ("/thorchain/vaults/" ++ vault.text ++ "/signers")).within
    "fail to get key sign party from thorchain"
  readAnswer (.list PublicKey.codec) .partyUnreadable body

/-- Asks for the first event of a transaction. -/
def event (b : Bridge) (id : TxId) : Call Event := do
  let body ← (b.ask ("/thorchain/events/tx/" ++ id.text)).within "fail to get event"
  match ← readAnswer (.list Event.codec) .eventUnreadable body with
  | event :: _ => return event
  | [] => throw (.of (.eventNotFound id))

/-- Asks for the height of the newest block. -/
def lastBlock (b : Bridge) : Call UInt64 := do
  let answer ← readAnswer LastBlockAnswer.codec .lastBlockUnreadable (← b.ask "/thorchain/lastblock")
  return answer.height

end ChainRelay.Bridge
