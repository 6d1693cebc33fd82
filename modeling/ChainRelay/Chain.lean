import ChainRelay.Json.Codec
import ChainRelay.Text.Uppercase

/-!
# Chains

The chains that assets and addresses belong to.
-/

namespace ChainRelay

/-- A chain. -/
inductive Chain
  | bnb
  | thor
  | eth
  | btc
deriving DecidableEq, Repr

namespace Chain

/-- The symbol of a chain. -/
def symbol : Chain → String
  | bnb => "BNB"
  | thor => "THOR"
  | eth => "ETH"
  | btc => "BTC"

/-- The chain with a symbol. -/
def ofSymbol? : String → Option Chain
  | "BNB" => some bnb
  | "THOR" => some thor
  | "ETH" => some eth
  | "BTC" => some btc
  | _ => none

/-- The chain with a name in upper case: a symbol, or the long name of one. -/
def ofUpper? (s : String) : Option Chain :=
  if s = "THORCHAIN" then some thor else ofSymbol? s

/-- The chain with a name in any case. -/
def ofName? (s : String) : Option Chain := ofUpper? (Uppercase.ofText s)

/-- What a message tells about a name that is no chain's. -/
def unknownMessage (s : String) : String := "unknown chain: " ++ s

/-- Chains by their symbols. -/
def codec : Codec Chain := .names symbol ofSymbol?

end Chain

end ChainRelay
