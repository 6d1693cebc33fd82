import ChainRelay.Main
import ChainRelay.Proofs.Runs
import ChainRelay.Proofs.Measurement
import ChainRelay.Proofs.Text.Utf8
import ChainRelay.Proofs.Text.Numeral
import ChainRelay.Proofs.Text.Bech32
import ChainRelay.Proofs.Text.Uppercase
import ChainRelay.Proofs.Text.Checksum
import ChainRelay.Proofs.Text.Carrying
import ChainRelay.Proofs.Json.Numbers
import ChainRelay.Proofs.Json.Literals
import ChainRelay.Proofs.Json.Reading
import ChainRelay.Proofs.Json.Codec
import ChainRelay.Proofs.Json.Sorting
import ChainRelay.Proofs.Json.Depth
import ChainRelay.Proofs.Json.Telling
import ChainRelay.Proofs.Json.Records
import ChainRelay.Proofs.Json.Restoring
import ChainRelay.Proofs.Json.Blank
import ChainRelay.Proofs.Json.Canonical
import ChainRelay.Proofs.Crypto.FieldPrime
import ChainRelay.Proofs.Crypto.Points
import ChainRelay.Proofs.Crypto.Encodings
import ChainRelay.Proofs.Crypto.LeastKey
import ChainRelay.Proofs.Http.Exchange
import ChainRelay.Proofs.Http.Retry
import ChainRelay.Proofs.Http.Attempts
import ChainRelay.Proofs.Store.Rows
import ChainRelay.Proofs.Store.History
import ChainRelay.Proofs.Task.Deeds
import ChainRelay.Proofs.Task.Faults
import ChainRelay.Proofs.Task.Working
import ChainRelay.Proofs.Scanner.Heights
import ChainRelay.Proofs.Scanner.Steps
import ChainRelay.Proofs.Scanner.Course
import ChainRelay.Proofs.Scanner.Sweep
import ChainRelay.Proofs.Scanner.Ascent
import ChainRelay.Proofs.Scanner.Restarts
import ChainRelay.Proofs.Scanner.Fallback
import ChainRelay.Proofs.Scanner.Trial
import ChainRelay.Proofs.Observer.Strides
import ChainRelay.Proofs.Observer.Reckoning
import ChainRelay.Proofs.Observer.Watch
import ChainRelay.Proofs.Observer.Rounds
import ChainRelay.Proofs.Observer.Crew
import ChainRelay.Proofs.Observer.Verdicts
import ChainRelay.Proofs.Envelope
import ChainRelay.Proofs.SignBytes
import ChainRelay.Proofs.Canonical
import ChainRelay.Proofs.Parsed
import ChainRelay.Proofs.PublicKey
import ChainRelay.Proofs.Wire
import ChainRelay.Proofs.Bridge.Calls
import ChainRelay.Proofs.Bridge.Sending
import ChainRelay.Proofs.Bridge.Ledger
import ChainRelay.Proofs.Bridge.Agreement
import ChainRelay.Proofs.Bridge.Discipline
import ChainRelay.Proofs.Bridge.Posting
import ChainRelay.Proofs.Text.Hex
import ChainRelay.Proofs.Ids
import ChainRelay.Proofs.Bridge.Counting
import ChainRelay.Proofs.Address
import ChainRelay.Proofs.Bridge.Directions
import ChainRelay.Proofs.Settings
import ChainRelay.Proofs.Text.Base64
import ChainRelay.Proofs.Json.Members
import ChainRelay.Proofs.Block.Tendermint
import ChainRelay.Proofs.Block.Ethereum
import ChainRelay.Proofs.Http.Paths
import ChainRelay.Proofs.Http.Appending
import ChainRelay.Proofs.Endpoint
import ChainRelay.Proofs.Settings.Loading
import ChainRelay.Proofs.Bridge.Waiting
import ChainRelay.Proofs.Successor
import ChainRelay.Proofs.Json.Lines
import ChainRelay.Proofs.Crypto.OrderPrime
import ChainRelay.Proofs.Crypto.Jacobian
import ChainRelay.Proofs.Crypto.Multiples
import ChainRelay.Proofs.KeyStore
import ChainRelay.Proofs.Text.Digits
import ChainRelay.Proofs.Asset
import ChainRelay.Proofs.TxId
import ChainRelay.Proofs.Address.Sets
import ChainRelay.Proofs.Numerals
