/-!
# Measurements

What is counted while a relay runs, so that it can be watched. Each failure is
counted by what failed before it is returned. `summary` is what a collector shows
of a log: counts of what has happened, and the newest position.
-/

namespace ChainRelay

/-- What fails in scanning and observing. -/
inductive ScanTrouble
  /-- The position could not be read. -/
  | positionUnread
  /-- The heights to offer again could not be read. -/
  | heightsUnread
  /-- The status of a height could not be kept. -/
  | statusUnkept
  /-- The position could not be kept. -/
  | positionUnkept
  /-- There was no answer about the chain head. -/
  | noAnswer
  /-- The answer about the chain head had another status than 200. -/
  | unexpectedStatus
  /-- The answer about the chain head broke off, or the node refused to give one. -/
  | headRefused
  /-- The answer about the chain head is not of the expected type. -/
  | headUnreadable
  /-- The height of the chain head is no number. -/
  | headNoNumber
deriving DecidableEq, Repr

/-- The label that a failure is counted under. -/
def ScanTrouble.label : ScanTrouble → String
  | positionUnread => "fail_get_scan_pos"
  | heightsUnread => "fail_get_blocks_for_retry"
  | statusUnkept => "fail_set_block_status"
  | positionUnkept => "fail_save_block_pos"
  | noAnswer => "fail_send_http_request"
  | unexpectedStatus => "unexpected_status_code"
  | headRefused => "fail_get_block"
  | headUnreadable => "fail_unmarshal_block"
  | headNoNumber => "fail_parse_block_height"

/-- What fails in talking to THORChain. -/
inductive BridgeTrouble
  /-- There was no answer to a question. -/
  | questionUnanswered
  /-- There was no answer to something posted. -/
  | postUnanswered
  /-- The answer had another status than 200. -/
  | unexpectedStatus
  /-- The answer broke off. -/
  | answerTorn
  /-- The answer about an account is not of the expected type. -/
  | accountUnreadable
  /-- The number of an account is no number. -/
  | accountNumber
  /-- The sequence number of an account is no number. -/
  | sequenceNumber
  /-- There is nothing to report. -/
  | nothingToSign
  /-- A transaction was not taken in. -/
  | broadcast
  /-- The answer to a transaction is not of the expected type. -/
  | broadcastUnreadable
  /-- The answer about a node is not of the expected type. -/
  | nodeAccountUnreadable
  /-- The answer about a signing party is not of the expected type. -/
  | partyUnreadable
  /-- The answer about events is not of the expected type. -/
  | eventUnreadable
  /-- The answer about the newest block is not of the expected type. -/
  | lastBlockUnreadable
deriving DecidableEq, Repr

/-- The label that a failure is counted under. -/
def BridgeTrouble.label : BridgeTrouble → String
  | questionUnanswered => "fail_get_from_thorchain"
  | postUnanswered => "fail_post_to_thorchain"
  | unexpectedStatus => "unexpected_status_code"
  | answerTorn => "fail_read_thorchain_resp"
  | accountUnreadable => "fail_unmarshal_account"
  | accountNumber => "fail_parse_account_number"
  | sequenceNumber => "fail_parse_sequence_number"
  | nothingToSign => "nothing_to_sign"
  | broadcast => "fail_broadcast"
  | broadcastUnreadable => "fail_unmarshal_broadcast"
  | nodeAccountUnreadable => "fail_unmarshal_node_account"
  | partyUnreadable => "fail_unmarshal_pubkeys"
  | eventUnreadable => "fail_unmarshal_event"
  | lastBlockUnreadable => "fail_unmarshal_lastblock"

/-- Something to count. -/
inductive Measurement
  /-- Scanning or observing has failed. -/
  | scanTrouble (t : ScanTrouble)
  /-- Talking to THORChain has failed. -/
  | bridgeTrouble (t : BridgeTrouble)
  /-- The chain head was asked for. -/
  | headPolled
  /-- A report for THORChain was built. -/
  | reportBuilt
  /-- The scan is at a position. -/
  | position (height : UInt64)
  /-- A new height was scanned. -/
  | scanned
  /-- A height was offered again. -/
  | offeredAgain
  /-- A block was observed, or could not be. -/
  | observed (isSuccess : Bool)
deriving DecidableEq, Repr

namespace Measurement

/-- A series of one of its labels. -/
def labelled (series label value : String) : String :=
  series ++ "\x7b" ++ label ++ "=" ++ value ++ "\x7d"

/-- The series that a measurement belongs to. -/
def series : Measurement → String
  | scanTrouble t => labelled "block_scanner_error" "error" t.label
  | bridgeTrouble t => labelled "thorchain_client_error" "error" t.label
  | headPolled => "block_discovery_duration.count"
  | reportBuilt => "sign_to_thorchain_duration.count"
  | position _ => "block_scanner_current_position"
  | scanned => "total_block_scanned"
  | offeredAgain => "total_retry_blocks"
  | observed isSuccess => labelled "block_observed" "success" (if isSuccess then "true" else "false")

/-- The value of a series after a measurement of it. -/
def update : Measurement → Nat → Nat
  | position height, _ => height.toNat
  | _, count => count + 1

/-- A log as a collector shows it, each series where it first came up. -/
abbrev Summary := List (String × Nat)

/-- Adds a measurement to what is shown. -/
def addTo (m : Measurement) : Summary → Summary
  | [] => [(m.series, m.update 0)]
  | (name, value) :: rest =>
    if name = m.series then (name, m.update value) :: rest else (name, value) :: m.addTo rest

/-- What is shown of a log. -/
def summary (log : List Measurement) : Summary := log.foldl (fun s m => m.addTo s) []

end Measurement

end ChainRelay
