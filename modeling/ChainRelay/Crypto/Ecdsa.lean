import ChainRelay.Crypto.Secp256k1

/-!
# Signatures

ECDSA over SHA-256 on the curve secp256k1. The nonce is derived from the key and
the message (RFC 6979), so a key gives one signature for each message; of the two
values of `s` that verify, the lower is taken.
-/

namespace ChainRelay

open Secp256k1

/-- A secret number with the point that is published for it. -/
structure SigningKey where
  /-- The secret. -/
  secret : Nat
  /-- It is positive and below the order of the curve. -/
  inRange : 0 < secret ∧ secret < order
  /-- The public point. -/
  point : Point
  /-- It is the multiple of the generator by the secret. -/
  isPublic : (generator.multiple secret).toPoint? = some point

namespace SigningKey

/-- The key with a secret number, if it is in range. -/
def ofSecret? (secret : Nat) : Option SigningKey :=
  if inRange : 0 < secret ∧ secret < order then
    match isPublic : (generator.multiple secret).toPoint? with
    | some point => some ⟨secret, inRange, point, isPublic⟩
    | none => none
  else none

/-- The key with a secret of 24 to 32 bytes, most significant first. -/
def ofBytes? (bytes : Bytes) : Option SigningKey :=
  if 24 ≤ bytes.length ∧ bytes.length ≤ 32 then ofSecret? (Point.number bytes) else none

/-- The thirty-two bytes of the secret. -/
def bytes (key : SigningKey) : Bytes := Sha256.bigEndian 32 key.secret

end SigningKey

namespace Ecdsa

/-- The register pair from which nonces are drawn. -/
structure Drawing where
  /-- The key of the keyed hash. -/
  key : Bytes
  /-- The last value. -/
  value : Bytes

/-- Stirs `extra` into the registers behind a separator byte. -/
def Drawing.stir (d : Drawing) (separator : UInt8) (extra : Bytes) : Drawing :=
  let key := Sha256.hmac d.key (d.value ++ separator :: extra)
  ⟨key, Sha256.hmac key d.value⟩

/-- The registers for a key and a hash. -/
def Drawing.start (key : SigningKey) (digest : Bytes) : Drawing :=
  let extra := key.bytes ++ Sha256.bigEndian 32 (Point.number digest % order)
  let zeros : Drawing := ⟨List.replicate 32 0, List.replicate 32 1⟩
  (zeros.stir 0 extra).stir 1 extra

/-- The signature with a nonce: sixty-four bytes, if the nonce is in range and
    neither half vanishes. -/
def withNonce? (key : SigningKey) (digest : Bytes) (nonce : Nat) : Option Bytes := do
  guard (0 < nonce ∧ nonce < order)
  let point ← (generator.multiple nonce).toPoint?
  let r := point.x % order
  let s := inverse order nonce * (Point.number digest + r * key.secret) % order
  guard (r ≠ 0 ∧ s ≠ 0)
  let low := if order / 2 < s then order - s else s
  return Sha256.bigEndian 32 r ++ Sha256.bigEndian 32 low

/-- Draws nonces until one gives a signature. -/
def draw (key : SigningKey) (digest : Bytes) : Nat → Drawing → Option Bytes
  | 0, _ => none
  | fuel + 1, d =>
    let value := Sha256.hmac d.key d.value
    match withNonce? key digest (Point.number value) with
    | some signature => some signature
    | none => draw key digest fuel (Drawing.stir ⟨d.key, value⟩ 0 [])

/-- The signature of a message: `r` and `s`, of thirty-two bytes each. All but one
    of `2 ^ 127` nonces give one, so a thousand draws never fail. -/
def sign (key : SigningKey) (message : Bytes) : Bytes :=
  let digest := Sha256.hash message
  (draw key digest 1000 (Drawing.start key digest)).getD []

end Ecdsa

end ChainRelay
