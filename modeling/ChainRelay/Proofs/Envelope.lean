import ChainRelay.Envelope
import ChainRelay.Proofs.Json.Codec

/-!
# The text of transactions

A transaction is written without a number: heights, amounts and sequence numbers
are texts. What is posted to take a transaction in is therefore read from its
text as it was.
-/

namespace ChainRelay

open Codec (WritesNoNumber)

theorem Coin.writesNoNumber : Coin.codec.WritesNoNumber := .record ⟨.written, .decimal, trivial⟩

theorem Transaction.writesNoNumber : Transaction.codec.WritesNoNumber :=
  .record ⟨.written, .names, .iso .text, .iso .text, .list Coin.writesNoNumber,
    .list Coin.writesNoNumber, .text, trivial⟩

theorem Observation.writesNoNumber : Observation.codec.WritesNoNumber :=
  .record ⟨Transaction.writesNoNumber, .decimal, .written, .list (.iso .text), trivial⟩

theorem Blame.writesNoNumber : Blame.codec.WritesNoNumber :=
  .record ⟨.text, .list .written, trivial⟩

theorem KeysignFailure.writesNoNumber : KeysignFailure.codec.WritesNoNumber :=
  .record ⟨.written, .decimal, Blame.writesNoNumber, .text, .list Coin.writesNoNumber, .iso .text,
    trivial⟩

theorem KeygenReport.writesNoNumber : KeygenReport.codec.WritesNoNumber :=
  .record ⟨.written, .written, .names, .list .written, .decimal, Blame.writesNoNumber, .iso .text,
    trivial⟩

theorem Sightings.writesNoNumber : Sightings.codec.WritesNoNumber :=
  .record ⟨.list Observation.writesNoNumber, .iso .text, trivial⟩

theorem Message.writesNoNumber : Message.codec.WritesNoNumber := by
  intro m
  refine ⟨trivial, ?_, trivial⟩
  cases m with
  | keysignFailed m => exact KeysignFailure.writesNoNumber m
  | keygen m => exact KeygenReport.writesNoNumber m
  | inbound m => exact Sightings.writesNoNumber m
  | outbound m => exact Sightings.writesNoNumber m

theorem Fee.writesNoNumber : Fee.codec.WritesNoNumber :=
  .record ⟨.list (.record ⟨.text, .text, trivial⟩), .decimal, trivial⟩

theorem Signature.writesNoNumber : Signature.codec.WritesNoNumber :=
  .record ⟨.record ⟨.text, .text, trivial⟩, .text, .decimal, .decimal, trivial⟩

namespace Envelope

theorem writesNoNumber : codec.WritesNoNumber :=
  .record ⟨.list Message.writesNoNumber, Fee.writesNoNumber, .list Signature.writesNoNumber, .text,
    trivial⟩

/-- What is posted to take a transaction in has no number in it. -/
theorem hasNoNumber_broadcastRequest (e : Envelope) (mode : BroadcastMode) :
    (e.broadcastRequest mode).HasNoNumber :=
  ⟨writesNoNumber e, trivial, trivial⟩

end Envelope

end ChainRelay
