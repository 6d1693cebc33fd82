import ChainRelay.Bridge.Answers
import ChainRelay.Bridge.Call
import ChainRelay.Endpoint
import ChainRelay.Http.Retry
import ChainRelay.KeyStore
import ChainRelay.Settings

/-!
# The bridge to THORChain

A bridge reaches THORChain on behalf of a signer, by fetches that get and post.
Whatever fails on the way is counted before the call returns.
-/

namespace ChainRelay

/-- The way to THORChain. -/
structure Bridge where
  /-- How THORChain is reached. -/
  settings : BridgeSettings
  /-- Who signs. -/
  signer : Signer

namespace Bridge

/-- The bridge for some settings, with the way to open the key of a name with a
    passphrase. -/
def create (settings : BridgeSettings) (openKey : String → String → Outcome Signer) :
    Outcome Bridge := do
  let require (name value : String) : Outcome Unit :=
    if value = "" then .error (.of (.emptySetting name)) else .ok ()
  require "chain id" settings.chainId
  require "chain host" settings.chainHost
  require "signer name" settings.signerName
  require "signer password" settings.signerPassword
  settings.check
  let signer ← (openKey settings.signerName settings.signerPassword).mapError fun f =>
    f.within "fail to get keybase"
  return ⟨settings, signer⟩

/-- The URL of a path. -/
def url (b : Bridge) (path : String) : String :=
  Endpoint.withScheme (Blank.trimSlashes b.settings.chainHost) ++ path

/-- What is counted when an answer is not to be had. -/
def fetchTrouble (unanswered : BridgeTrouble) : Http.AttemptFault → BridgeTrouble
  | .noAnswer => unanswered
  | .status _ => .unexpectedStatus
  | .torn => .answerTorn

/-- Fetches a path. -/
def fetch (b : Bridge) (unanswered : BridgeTrouble) (path : String) (body : Option Bytes) :
    Call Bytes := do
  let session ← get
  match ← Call.exchange (Http.fetch b.settings.policy session.isStopped (b.url path) body) with
  | .ok answer => return answer
  | .error fault => Call.fail (fetchTrouble unanswered fault.last) fault.failure

/-- Asks THORChain something. -/
def ask (b : Bridge) (path : String) : Call Bytes :=
  (b.fetch .questionUnanswered path none).within "failed to GET from thorchain"

/-- Posts a JSON text to THORChain. -/
def post (b : Bridge) (path : String) (body : Bytes) : Call Bytes :=
  (b.fetch .postUnanswered path (some body)).within "failed to POST to thorchain"

/-- Reads an answer. -/
def readAnswer {α : Type} (c : Codec α) (trouble : BridgeTrouble) (body : Bytes) : Call α :=
  match c.ofAnswer body with
  | .ok x => pure x
  | .error e =>
    Call.fail trouble ((Failure.ofDecode e).within (trouble.label ++ ": " ++ Utf8.lossy body))

/-- Gives up all waiting: from now on each fetch makes one attempt. -/
def stop : Call Unit := modify fun s => { s with isStopped := true }

end Bridge

end ChainRelay
