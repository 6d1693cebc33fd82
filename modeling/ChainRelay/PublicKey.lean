import ChainRelay.Address
import ChainRelay.Chain
import ChainRelay.Crypto.Keccak256
import ChainRelay.Crypto.Ripemd160
import ChainRelay.Crypto.Secp256k1
import ChainRelay.Json.Codec
import ChainRelay.Text.Bech32

/-!
# Public keys

Points of secp256k1, written in Bech32 under the label `thorpub`, and the
addresses that belong to them on each chain.
-/

namespace ChainRelay

/-- A public key. -/
structure PublicKey where
  /-- The point of the curve. -/
  point : Secp256k1.Point
deriving DecidableEq

namespace PublicKey

/-- The label of the written form. -/
def label : String := "thorpub"

/-- Why a text is no key. -/
inductive Fault
  /-- It is not in Bech32. -/
  | unreadable (fault : Bech32.Fault)
  /-- It has another label. -/
  | labelled (s found : String)
  /-- The bytes are no point of the curve. -/
  | notOnCurve
deriving DecidableEq, Repr

/-- What a message tells about the fault. -/
def Fault.message : Fault → String
  | .unreadable fault => fault.message
  | .labelled s found => "pub key " ++ s ++ " has prefix " ++ found ++ ", expected " ++ label
  | .notOnCurve => "invalid secp256k1 public key"

/-- The key with an encoding of its point. -/
def ofBytes (bytes : Bytes) : Except Fault PublicKey :=
  match Secp256k1.Point.ofBytes? bytes with
  | some point => .ok ⟨point⟩
  | none => .error .notOnCurve

/-- The thirty-three bytes of the key. -/
def bytes (k : PublicKey) : Bytes := k.point.compressed

/-- The key as text. -/
def text (k : PublicKey) : String := Bech32.encode label k.bytes

/-- The key that a text stands for. The label is taken as written. -/
def parse (s : String) : Except Fault PublicKey :=
  match Bech32.decode s with
  | .error fault => .error (.unreadable fault)
  | .ok (found, bytes) =>
    if found = label then ofBytes bytes else .error (.labelled s found)

/-- The address under a label: the hash of the key in Bech32. -/
def labelled (k : PublicKey) (label : String) : Address :=
  ⟨Bech32.encode label (Ripemd160.hash (Sha256.hash k.bytes))⟩

/-- The address on Ethereum: the last twenty bytes of the hash of both
    coordinates. -/
def hexAddress (k : PublicKey) : Address :=
  ⟨"0x" ++ Hex.lower ((Keccak256.hash k.point.coordinates).drop 12)⟩

/-- The address on a chain, if there is a way to derive it. -/
def address? (k : PublicKey) : Chain → Option Address
  | .bnb => some (k.labelled "bnb")
  | .thor => some (k.labelled "thor")
  | .eth => some k.hexAddress
  | .btc => none

/-- What a message tells about a chain without derived addresses. -/
def underivableMessage (chain : Chain) : String :=
  "address derivation for " ++ chain.symbol ++ " is not supported"

/-- Keys by their texts. -/
def codec : Codec PublicKey := .written text fun s => (parse s).mapError Fault.message

end PublicKey

end ChainRelay
