import ChainRelay.Block.Source
import ChainRelay.Endpoint
import ChainRelay.Http.Retry
import ChainRelay.Measurement
import ChainRelay.Scanner.Lifecycle
import ChainRelay.Scanner.Scan

/-!
# The chain head

A scanner knows where to ask for the newest height of the chain that it scans,
and how to read the answer.
-/

namespace ChainRelay

/-- Who asks for the chain head. -/
structure Scanner where
  /-- The node that is asked. -/
  endpoint : String
  /-- How the chain is scanned. -/
  settings : ScanSettings
deriving DecidableEq, Repr

namespace Scanner

/-- The scanner for some settings, with its queue. -/
def create (settings : ScanSettings) : Ending Scanner := do
  let endpoint ← Ending.ofOutcome (Endpoint.normalize settings.rpcHost)
  Ending.ofOutcome settings.check
  settings.makeQueue
  return ⟨endpoint, settings⟩

/-- How the chain head is asked for. -/
def headQuery (s : Scanner) : BlockQuery := s.settings.nodeKind.headQuery s.endpoint

/-- What is counted when an answer is not to be had. -/
def fetchTrouble : Http.AttemptFault → ScanTrouble
  | .noAnswer => .noAnswer
  | .status _ => .unexpectedStatus
  | .torn => .headRefused

/-- What is counted when an answer tells no height. -/
def readTrouble : Cause → ScanTrouble
  | .headUnreadable _ => .headUnreadable
  | .headRefused _ => .headRefused
  | _ => .headNoNumber

/-- Asks for the chain head. -/
def pollHead (s : Scanner) (isStopped : Bool) :
    Http.Exchange (List Measurement × Outcome UInt64) := do
  let query := s.headQuery
  match ← Http.fetch s.settings.policy isStopped query.url (query.body.map Utf8.encode) with
  | .error fault =>
    return ([.scanTrouble (fetchTrouble fault.last), .headPolled],
      .error (fault.failure.within "fail to get block height"))
  | .ok body =>
    match s.settings.nodeKind.readHead body with
    | .ok height => return ([.headPolled], .ok height)
    | .error failure =>
      return ([.scanTrouble (readTrouble failure.cause), .headPolled], .error failure)

/-- What a scan does next, for the settings of the scanner. -/
def turn (s : Scanner) : Scan → Turn Scan := Scan.turn s.settings.startHeight

end Scanner

end ChainRelay
