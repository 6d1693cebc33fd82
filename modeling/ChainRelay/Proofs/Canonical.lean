import ChainRelay.Proofs.Document
import ChainRelay.Proofs.Json.Canonical
import ChainRelay.Proofs.SignBytes

/-!
# What is signed is canonical

The document that is signed has an order of its own at every depth. The bytes to be
signed are a canonical text of the same value (`Envelope.signBytes_canonical`), of which
there is but one form with ascending keys. For each type one line goes through its fields
(`Codec.Neat`): their names are different, and the coins of an observed transaction, nine
containers deep, are the deepest.
-/

namespace ChainRelay

variable {room : Nat}

theorem Coin.neat : Coin.codec.Neat (room + 1) := .record ⟨.written, .decimal, trivial⟩ (by decide)

theorem Transaction.neat : Transaction.codec.Neat (room + 3) :=
  .record ⟨.written, .names, .iso .text, .iso .text, .list Coin.neat, .list Coin.neat, .text,
    trivial⟩ (by decide)

theorem Observation.neat : Observation.codec.Neat (room + 4) :=
  .record ⟨Transaction.neat, .decimal, .written, .list (.iso .text), trivial⟩ (by decide)

theorem Blame.neat : Blame.codec.Neat (room + 2) :=
  .record ⟨.text, .list .written, trivial⟩ (by decide)

theorem KeysignFailure.neat : KeysignFailure.codec.Neat (room + 3) :=
  .record ⟨.written, .decimal, Blame.neat, .text, .list Coin.neat, .iso .text, trivial⟩ (by decide)

theorem KeygenReport.neat : KeygenReport.codec.Neat (room + 3) :=
  .record ⟨.written, .written, .names, .list .written, .decimal, Blame.neat, .iso .text, trivial⟩
    (by decide)

theorem Sightings.neat : Sightings.codec.Neat (room + 6) :=
  .record ⟨.list Observation.neat, .iso .text, trivial⟩ (by decide)

theorem Message.neat : Message.codec.Neat (room + 7) := by
  refine .tagged fun m => ?_
  cases m with
  | keysignFailed m => exact KeysignFailure.neat m
  | keygen m => exact KeygenReport.neat m
  | inbound m => exact Sightings.neat m
  | outbound m => exact Sightings.neat m

theorem FeeCoin.neat : FeeCoin.codec.Neat (room + 1) := .record ⟨.text, .text, trivial⟩ (by decide)

theorem Fee.neat : Fee.codec.Neat (room + 3) :=
  .record ⟨.list FeeCoin.neat, .decimal, trivial⟩ (by decide)

namespace Envelope

theorem Commitment.neat : Commitment.codec.Neat (room + 9) :=
  .record ⟨.decimal, .text, Fee.neat, .text, .list Message.neat, .decimal, trivial⟩ (by decide)

/-- The bytes to be signed are a canonical text of the document that is signed. The text of
    that in its own order is read as the same value. -/
theorem signBytes_canonical (e : Envelope) (chainId : String) (account : Account) :
    Json.IsTextOf (Utf8.encode (e.document chainId account).render)
        (e.document chainId account) ∧
      Json.IsCanonical (e.signBytes chainId account) (e.document chainId account) ∧
      ∃ j, Codec.value.ofBytes (Utf8.encode (e.document chainId account).render) Doc.read
          = .ok j ∧
        Codec.value.ofBytes (e.signBytes chainId account) Doc.read = .ok j := by
  rw [← signFields_eq]
  have hnumbers : (e.signFields chainId account).AllNumbers Number.IsWord :=
    (Commitment.writesNoNumber (e.commitment chainId account)).allNumbers
  have hneat : (e.signFields chainId account).Neat Reading.maxDepth :=
    Commitment.neat (e.commitment chainId account)
  have hdepth : (e.signDocument chainId account).depth ≤ Reading.maxDepth :=
    (Json.depth_sorted_le _).trans hneat.depth_le
  have hread := Codec.ofBytes_value_render hnumbers.sorted hdepth
  rw [Json.sorted_sorted] at hread
  exact ⟨Json.isTextOf_render hnumbers hneat.depth_le, Json.isCanonical_sorted hnumbers hneat,
    _, Codec.ofBytes_value_render hnumbers hneat.depth_le, hread⟩

/-- The keys of a message are put in order. -/
theorem signBytes_canonical_of_roundFailed :
    let bytes := Utf8.encode ("\x7b\"account_number\":\"4\",\"chain_id\":\"thorchain\"," ++
      "\"fee\":\x7b\"amount\":[],\"gas\":\"100000000\"\x7d,\"memo\":\"\",\"msgs\":[\x7b" ++
      "\"type\":\"thorchain/MsgTssKeysignFail\",\"value\":\x7b" ++
      "\"blame\":\x7b\"fail_reason\":\"timeout\"\x7d," ++
      "\"coins\":[\x7b\"amount\":\"7\",\"asset\":\"BNB.BNB\"\x7d],\"height\":\"5\"," ++
      "\"id\":\"A1\",\"memo\":\"note\",\"signer\":\"thor1\"\x7d\x7d],\"sequence\":\"9\"\x7d")
    roundFailed.signBytes "thorchain" ⟨4, 9⟩ = bytes ∧
      Json.IsCanonical bytes (roundFailed.document "thorchain" ⟨4, 9⟩) := by
  intro bytes
  have hdocument : roundFailed.signDocument "thorchain" ⟨4, 9⟩ = .object [
      ("account_number", .text "4"),
      ("chain_id", .text "thorchain"),
      ("fee", .object [("amount", .array []), ("gas", .text "100000000")]),
      ("memo", .text ""),
      ("msgs", .array [.object [
        ("type", .text "thorchain/MsgTssKeysignFail"),
        ("value", .object [
          ("blame", .object [("fail_reason", .text "timeout")]),
          ("coins", .array [.object [("amount", .text "7"), ("asset", .text "BNB.BNB")]]),
          ("height", .text "5"),
          ("id", .text "A1"),
          ("memo", .text "note"),
          ("signer", .text "thor1")])]]),
      ("sequence", .text "9")] := by
    rw [signDocument, signFields_eq]
    rfl
  have hbytes : roundFailed.signBytes "thorchain" ⟨4, 9⟩ = bytes := by
    rw [signBytes, hdocument]
    exact congrArg Utf8.encode (by decide +kernel)
  obtain ⟨-, hcanonical, -⟩ := signBytes_canonical roundFailed "thorchain" ⟨4, 9⟩
  rw [hbytes] at hcanonical
  exact ⟨hbytes, hcanonical⟩

end Envelope

end ChainRelay
