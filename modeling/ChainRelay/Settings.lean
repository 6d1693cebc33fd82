import ChainRelay.Chain
import ChainRelay.Http.Retry
import ChainRelay.Json.Record
import ChainRelay.Text.Blank

/-!
# Settings

What an operator can set: how the chain is scanned, how THORChain is reached, and
how fetches are retried. All but a few settings have defaults, and a setting that
is not known is refused. `Settings.check` refuses values that nothing can be done
with.
-/

namespace ChainRelay

/-- Durations as seconds and nanoseconds; a second or more of nanoseconds is
    carried over. -/
def Duration.codec : Codec Duration :=
  .refine
    (.record
      (.cons (.required "secs" .word64) <| .cons (.required "nanos" .word32) .nil)
      (fun (secs, nanos, ()) => (secs, nanos)) (fun (secs, nanos) => (secs, nanos, ())) true)
    (fun (secs, nanos) =>
      if secs.toNat + nanos.toNat / 1000000000 < Nat.pow 2 64 then
        .ok ⟨secs.toNat * 1000000000 + nanos.toNat⟩
      else .error "overflow deserializing Duration")
    (fun d => (UInt64.ofNat (d.nanoseconds / 1000000000), UInt32.ofNat (d.nanoseconds % 1000000000)))

/-- How waits between attempts grow. -/
structure RetrySettings where
  /-- The first wait. -/
  initialInterval : Duration
  /-- What each wait is multiplied by. -/
  multiplier : Binary64
  /-- How far waits vary. -/
  randomizationFactor : Binary64
  /-- The longest wait. -/
  maxInterval : Duration
  /-- The time after which no attempt is made; without it, their number decides. -/
  maxElapsed : Option Duration
deriving DecidableEq, Repr

namespace RetrySettings

/-- Half a second at first, growing by half to a minute, for a quarter of an
    hour. -/
def standard : RetrySettings where
  initialInterval := .milliseconds 500
  multiplier := .ofRatio 3 2
  randomizationFactor := .ofRatio 1 2
  maxInterval := .seconds 60
  maxElapsed := some (.seconds 900)

/-- The policy for a number of attempts and a time for each. -/
def policy (s : RetrySettings) (maxAttempts : UInt32) (requestTimeout : Duration) :
    Http.RetryPolicy where
  initialInterval := s.initialInterval
  multiplier := s.multiplier
  randomizationFactor := s.randomizationFactor
  maxInterval := s.maxInterval
  maxElapsed := s.maxElapsed
  maxAttempts := maxAttempts
  requestTimeout := requestTimeout

/-- Settings as objects. -/
def codec : Codec RetrySettings :=
  .record
    (.cons (.optional "initial_interval" Duration.codec standard.initialInterval) <|
      .cons (.optional "multiplier" .float standard.multiplier) <|
      .cons (.optional "randomization_factor" .float standard.randomizationFactor) <|
      .cons (.optional "max_interval" Duration.codec standard.maxInterval) <|
      .cons (.optional "max_elapsed_time" (.option Duration.codec) standard.maxElapsed) .nil)
    (fun (initial, multiplier, factor, longest, elapsed, ()) =>
      ⟨initial, multiplier, factor, longest, elapsed⟩)
    (fun s => (s.initialInterval, s.multiplier, s.randomizationFactor, s.maxInterval,
      s.maxElapsed, ()))
    true

end RetrySettings

/-- Which kind of node tells about blocks. -/
inductive NodeKind
  | tendermint
  | ethereum
deriving DecidableEq, Repr

namespace NodeKind

/-- The name of a kind. -/
def text : NodeKind → String
  | tendermint => "tendermint"
  | ethereum => "ethereum"

/-- The kind with a name. -/
def ofText? : String → Option NodeKind
  | "tendermint" => some tendermint
  | "ethereum" => some ethereum
  | _ => none

/-- Kinds by their names. -/
def codec : Codec NodeKind := .names text ofText?

end NodeKind

/-- How a chain is scanned. -/
structure ScanSettings where
  /-- The node that is asked. -/
  rpcHost : String
  /-- The height to go on from when none is stored. -/
  startHeight : UInt64
  /-- How many heights may wait to be processed. -/
  processors : UInt64
  /-- How long a request may take. -/
  requestTimeout : Duration
  /-- How many attempts a fetch makes. -/
  maxAttempts : UInt32
  /-- How long to wait for new blocks. -/
  discoverBackoff : Duration
  /-- How often failed heights are offered again. -/
  retryInterval : Duration
  /-- The chain that is scanned. -/
  chain : Chain
  /-- The kind of the node. -/
  nodeKind : NodeKind
  /-- How waits between attempts grow. -/
  retry : RetrySettings
deriving DecidableEq, Repr

namespace ScanSettings

/-- Settings without a node. -/
def standard : ScanSettings where
  rpcHost := ""
  startHeight := 0
  processors := 2
  requestTimeout := .seconds 30
  maxAttempts := 10
  discoverBackoff := .seconds 1
  retryInterval := .seconds 1
  chain := .bnb
  nodeKind := .tendermint
  retry := .standard

/-- How fetches are retried. -/
def policy (s : ScanSettings) : Http.RetryPolicy := s.retry.policy s.maxAttempts s.requestTimeout

/-- Refuses settings that nothing can be scanned with. -/
def check (s : ScanSettings) : Outcome Unit :=
  if Blank.trim s.rpcHost = "" then .error (.message "block scanner rpc_host is empty")
  else if s.processors = 0 then .error (.message "block_scan_processors must be at least 1")
  else if s.maxAttempts = 0 then .error (.message "max_http_request_retry must be at least 1")
  else .ok ()

/-- Settings as objects. -/
def codec : Codec ScanSettings :=
  .record
    (.cons (.required "rpc_host" .text) <|
      .cons (.optional "start_block_height" .word64 standard.startHeight) <|
      .cons (.optional "block_scan_processors" .word64 standard.processors) <|
      .cons (.optional "http_request_timeout" Duration.codec standard.requestTimeout) <|
      .cons (.optional "max_http_request_retry" .word32 standard.maxAttempts) <|
      .cons (.optional "block_height_discover_backoff" Duration.codec standard.discoverBackoff) <|
      .cons (.optional "block_retry_interval" Duration.codec standard.retryInterval) <|
      .cons (.optional "chain_id" Chain.codec standard.chain) <|
      .cons (.optional "decoder" NodeKind.codec standard.nodeKind) <|
      .cons (.optional "retry" RetrySettings.codec standard.retry) .nil)
    (fun (rpcHost, startHeight, processors, requestTimeout, maxAttempts, discoverBackoff,
        retryInterval, chain, nodeKind, retry, ()) =>
      ⟨rpcHost, startHeight, processors, requestTimeout, maxAttempts, discoverBackoff,
        retryInterval, chain, nodeKind, retry⟩)
    (fun s => (s.rpcHost, s.startHeight, s.processors, s.requestTimeout, s.maxAttempts,
      s.discoverBackoff, s.retryInterval, s.chain, s.nodeKind, s.retry, ()))
    true

end ScanSettings

/-- How THORChain is reached, and who signs for the node. -/
structure BridgeSettings where
  /-- The chain id that signatures commit to. -/
  chainId : String
  /-- Host and port of THORChain. -/
  chainHost : String
  /-- The directory of the key store. -/
  home : String
  /-- The name of the key. -/
  signerName : String
  /-- The passphrase of the key. -/
  signerPassword : String
  /-- How often to ask whether the node may send transactions. -/
  whitelistPollInterval : Duration
  /-- How long to ask. -/
  whitelistTimeout : Duration
  /-- How long a request may take. -/
  requestTimeout : Duration
  /-- How many attempts a fetch makes. -/
  maxAttempts : UInt32
  /-- How waits between attempts grow. -/
  retry : RetrySettings
deriving DecidableEq, Repr

namespace BridgeSettings

/-- Settings without a signer. -/
def standard : BridgeSettings where
  chainId := "thorchain"
  chainHost := "localhost:1317"
  home := ".thorcli"
  signerName := ""
  signerPassword := ""
  whitelistPollInterval := .seconds 30
  whitelistTimeout := .seconds 3600
  requestTimeout := .seconds 30
  maxAttempts := 4
  retry := .standard

/-- How fetches are retried. -/
def policy (s : BridgeSettings) : Http.RetryPolicy :=
  s.retry.policy s.maxAttempts s.requestTimeout

/-- Refuses settings that THORChain cannot be reached with. -/
def check (s : BridgeSettings) : Outcome Unit :=
  if s.whitelistPollInterval.isZero then
    .error (.message "whitelist_poll_interval must be non-zero")
  else if s.maxAttempts = 0 then .error (.message "max_http_request_retry must be at least 1")
  else .ok ()

/-- Settings as objects. -/
def codec : Codec BridgeSettings :=
  .record
    (.cons (.optional "chain_id" .text standard.chainId) <|
      .cons (.optional "chain_host" .text standard.chainHost) <|
      .cons (.optional "chain_home_folder" .text standard.home) <|
      .cons (.required "signer_name" .text) <|
      .cons (.required "signer_passwd" .text) <|
      .cons (.optional "whitelist_poll_interval" Duration.codec standard.whitelistPollInterval) <|
      .cons (.optional "whitelist_timeout" Duration.codec standard.whitelistTimeout) <|
      .cons (.optional "http_request_timeout" Duration.codec standard.requestTimeout) <|
      .cons (.optional "max_http_request_retry" .word32 standard.maxAttempts) <|
      .cons (.optional "retry" RetrySettings.codec standard.retry) .nil)
    (fun (chainId, chainHost, home, signerName, signerPassword, whitelistPollInterval,
        whitelistTimeout, requestTimeout, maxAttempts, retry, ()) =>
      ⟨chainId, chainHost, home, signerName, signerPassword, whitelistPollInterval,
        whitelistTimeout, requestTimeout, maxAttempts, retry⟩)
    (fun s => (s.chainId, s.chainHost, s.home, s.signerName, s.signerPassword,
      s.whitelistPollInterval, s.whitelistTimeout, s.requestTimeout, s.maxAttempts, s.retry, ()))
    true

end BridgeSettings

/-- How a chain is observed. -/
structure ObserverSettings where
  /-- The database; without it, nothing outlives the program. -/
  database : Option String
  /-- How the chain is scanned. -/
  scan : ScanSettings
deriving DecidableEq, Repr

/-- Settings as objects. -/
def ObserverSettings.codec : Codec ObserverSettings :=
  .record
    (.cons (.optional "db_path" (.option .text) none) <|
      .cons (.required "block_scanner" ScanSettings.codec) .nil)
    (fun (database, scan, ()) => ⟨database, scan⟩)
    (fun s => (s.database, s.scan, ()))
    true

/-- All settings. -/
structure Settings where
  /-- How a chain is observed. -/
  observer : ObserverSettings
  /-- How THORChain is reached. -/
  bridge : BridgeSettings
  /-- Where measurements are sent, if anywhere. -/
  collector : Option String
deriving DecidableEq, Repr

namespace Settings

/-- Refuses settings that nothing can be done with. -/
def check (s : Settings) : Outcome Unit := do
  s.observer.scan.check
  s.bridge.check

/-- Settings as objects. -/
def codec : Codec Settings :=
  .record
    (.cons (.required "observer" ObserverSettings.codec) <|
      .cons (.required "thorchain" BridgeSettings.codec) <|
      .cons (.optional "otlp_collector_endpoint" (.option .text) none) .nil)
    (fun (observer, bridge, collector, ()) => ⟨observer, bridge, collector⟩)
    (fun s => (s.observer, s.bridge, s.collector, ()))
    true

end Settings

end ChainRelay
