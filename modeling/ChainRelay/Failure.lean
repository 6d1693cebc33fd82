import ChainRelay.Duration
import ChainRelay.Http.Status
import ChainRelay.Json.Codec
import ChainRelay.NodeAccount
import ChainRelay.PublicKey
import ChainRelay.TxId

/-!
# Failures

Everything that can go wrong, as causes: what was being done, and behind it what
went wrong there. `Cause.message` words each of them.
-/

namespace ChainRelay

/-- One thing that went wrong. -/
inductive Cause
  /-- In words: what was being done, or a reason that nothing else is known of. -/
  | message (text : String)
  /-- A setting of the bridge is empty. -/
  | emptySetting (name : String)
  /-- There is nothing to report. -/
  | nothingToSign
  /-- An observed transaction is neither to nor from its vault. -/
  | ambiguousDirection (id : TxId)
  /-- THORChain knows no event of a transaction. -/
  | eventNotFound (id : TxId)
  /-- The node may not send transactions. -/
  | notWhitelisted (status : NodeStatus)
  /-- The node was not allowed to send transactions in time. -/
  | whitelistTimeout (waited : Duration)
  /-- THORChain refused a transaction. -/
  | broadcastRejected (code : UInt32) (log : String)
  /-- A host is no endpoint. -/
  | invalidEndpoint (host reason : String)
  /-- The state of the scanner could not be kept. -/
  | persistence (height : UInt64)
  /-- The answer about the chain head is not of the expected type. -/
  | headUnreadable (body : String)
  /-- The node refused to tell the chain head. -/
  | headRefused (reason : String)
  /-- The height of the chain head is no number. -/
  | headNoNumber (raw reason : String)
  /-- No attempt is left. -/
  | retriesExhausted (url : String) (attempts : Nat)
  /-- No further attempt is made. -/
  | retriesCancelled (url : String) (attempts : Nat)
  /-- The server answered with another status. -/
  | unexpectedStatus (url : String) (status : Http.Status)
  /-- There was no answer. -/
  | noAnswer (url : String)
  /-- The answer broke off. -/
  | bodyTorn (url : String)
  /-- A text is no number. -/
  | numeral (fault : Numeral.Fault)
  /-- A text is no hexadecimal byte string. -/
  | hex (fault : Hex.Fault)
  /-- A text is not in Bech32. -/
  | bech32 (fault : Bech32.Fault)
  /-- A text is not in Base64. -/
  | base64
  /-- The database failed. -/
  | database
  /-- A file could not be used. -/
  | file (kind : String)
  /-- A text is not JSON. -/
  | json (fault : Fault)
  /-- A JSON document is not of the type. -/
  | jsonMisfit (m : Misfit)
  /-- A text is not TOML. -/
  | toml
  /-- Settings are not of the type. -/
  | tomlMisfit (m : Misfit)
deriving DecidableEq, Repr

/-- What a message tells about a cause. -/
def Cause.describe : Cause → String
  | .message text => text
  | .emptySetting name => name ++ " is empty"
  | .nothingToSign => "nothing to be signed"
  | .ambiguousDirection id =>
    "could not determine whether tx " ++ id.text ++ " is inbound or outbound"
  | .eventNotFound id => "no events for tx id " ++ id.text
  | .notWhitelisted status =>
    "node account status " ++ status.text
      ++ ", will not be able to forward transactions to thorchain"
  | .whitelistTimeout waited => "node is not whitelisted after waiting " ++ waited.text
  | .broadcastRejected code log =>
    "transaction rejected by thorchain with code " ++ toString code.toNat ++ ": " ++ log
  | .invalidEndpoint host reason => "invalid rpc host " ++ Quoted.ofText host ++ ": " ++ reason
  | .persistence height => "fail to persist scanner state at height " ++ Numeral.ofWord height
  | .headUnreadable body => "fail to unmarshal chain head response: " ++ body
  | .headRefused reason => "node returned an error for the chain head: " ++ reason
  | .headNoNumber raw reason =>
    "fail to parse block height " ++ Quoted.ofText raw ++ ": " ++ reason
  | .retriesExhausted url attempts =>
    "fail to fetch " ++ url ++ " after " ++ toString attempts ++ " attempts"
  | .retriesCancelled url attempts =>
    "fetch of " ++ url ++ " cancelled after " ++ toString attempts ++ " attempts"
  | .unexpectedStatus url status => "unexpected status code " ++ status.text ++ " from " ++ url
  | .noAnswer url => url
  | .bodyTorn url => url
  | .numeral fault => fault.message
  | .hex fault => fault.message
  | .bech32 fault => fault.message
  | .base64 => ""
  | .database => ""
  | .file kind => kind
  | .json _ => ""
  | .jsonMisfit m => m.message Shortest.json
  | .toml => ""
  | .tomlMisfit m => m.message Shortest.plain

/-- The cause of a text that is no key. -/
def PublicKey.Fault.cause : PublicKey.Fault → Cause
  | .unreadable fault => .bech32 fault
  | fault => .message fault.message

/-- A cause with the causes behind it. -/
structure Failure where
  /-- What went wrong. -/
  cause : Cause
  /-- What led to it, the nearest first. -/
  behind : List Cause
deriving DecidableEq, Repr

namespace Failure

/-- A failure that nothing is known to have led to. -/
def of (cause : Cause) : Failure := ⟨cause, []⟩

/-- A failure in words. -/
def message (text : String) : Failure := .of (.message text)

/-- The failure of what a cause tells. -/
def behindOf (f : Failure) (cause : Cause) : Failure := ⟨cause, f.cause :: f.behind⟩

/-- The failure seen from what was being done. -/
def within (f : Failure) (context : String) : Failure := f.behindOf (.message context)

/-- The failure to read JSON. -/
def ofDecode : DecodeError → Failure
  | .fault f => .of (.json f)
  | .misfit m => .of (.jsonMisfit m)

/-- The failure to read settings. -/
def ofSettings : DecodeError → Failure
  | .fault _ => .of .toml
  | .misfit m => .of (.tomlMisfit m)

/-- What a failed command tells: the failure, and below it what led to it, which
    is numbered if there is more than one. -/
def report (f : Failure) : String :=
  let lines :=
    match f.behind with
    | [] => []
    | [c] => ["", "Caused by:", "    " ++ c.describe]
    | causes => "" :: "Caused by:"
        :: causes.zipIdx.map fun (c, i) => "    " ++ toString i ++ ": " ++ c.describe
  "\n".intercalate (("Error: " ++ f.cause.describe) :: lines)

end Failure

/-- What may fail. -/
abbrev Outcome := Except Failure

end ChainRelay
