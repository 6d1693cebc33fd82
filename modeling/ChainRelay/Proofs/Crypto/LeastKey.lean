import ChainRelay.KeyStore
import ChainRelay.Proofs.Crypto.FieldPrime

/-!
# The least key

The key with the secret one. Its point is the generator itself, which takes no
computation to see: powers of one are one (`powMod_one`), and so the generator is
brought to plain coordinates as it stands (`toPoint?_generator`).
-/

namespace ChainRelay

namespace Secp256k1

theorem powMod_one {m : Nat} (hm : 1 < m) (e : Nat) : powMod m 1 e = 1 := by
  rw [powMod_eq, one_pow, Nat.mod_eq_of_lt hm]

theorem multiple_one : generator.multiple 1 = generator := by
  rw [Jacobian.multiple, Jacobian.multiple]
  rfl

/-- The point whose multiples the keys are. -/
def base : Point := ⟨generator.X, generator.Y, by decide⟩

theorem toPoint?_generator : generator.toPoint? = some base := by
  have hinverse : inverse field generator.Z = 1 := powMod_one (by decide) _
  rw [Jacobian.toPoint?, hinverse]
  decide

end Secp256k1

/-- The key with the least secret. -/
def SigningKey.least : SigningKey where
  secret := 1
  inRange := by decide
  point := Secp256k1.base
  isPublic := by rw [Secp256k1.multiple_one, Secp256k1.toPoint?_generator]

namespace PublicKey

/-- Its public key. -/
def least : PublicKey := ⟨Secp256k1.base⟩

theorem hash_least : Ripemd160.hash (Sha256.hash least.bytes) =
    [117, 30, 118, 232, 25, 145, 150, 212, 84, 148, 28, 69, 209, 179, 163, 35, 241, 67, 59, 214] := by
  decide +kernel

/-- The address of the key on THORChain. -/
theorem address?_least_thor :
    least.address? .thor = some ⟨"thor1w508d6qejxtdg4y5r3zarvary0c5xw7ku6wp68"⟩ := by
  rw [address?, labelled, hash_least]
  decide +kernel

/-- The address of the key on Binance Chain. -/
theorem address?_least_bnb :
    least.address? .bnb = some ⟨"bnb1w508d6qejxtdg4y5r3zarvary0c5xw7kcegkwk"⟩ := by
  rw [address?, labelled, hash_least]
  decide +kernel

end PublicKey

/-- The address of whoever signs with it. -/
theorem Signer.address_least (name : String) :
    (⟨name, .least⟩ : Signer).address = ⟨"thor1w508d6qejxtdg4y5r3zarvary0c5xw7ku6wp68"⟩ :=
  Option.some.inj PublicKey.address?_least_thor

end ChainRelay
