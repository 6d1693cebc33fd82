import ChainRelay.Transaction

/-!
# Events

What THORChain tells about the processing of a transaction.
-/

namespace ChainRelay

/-- An event. -/
structure Event where
  /-- Its number. -/
  id : UInt64
  /-- The height at which it happened. -/
  height : UInt64
  /-- What kind of event it is. -/
  kind : String
  /-- The transaction that led to it. -/
  transaction : Option Transaction
  /-- How it ended. -/
  status : String
  /-- What belongs to its kind. -/
  detail : Json

namespace Event

/-- Events as objects. -/
def codec : Codec Event :=
  .record
    (.cons (.required "id" .decimal) <| .cons (.required "height" .decimal) <|
      .cons (.required "type" .text) <|
      .cons (.optional "in_tx" (.option Transaction.codec) none) <|
      .cons (.required "status" .text) <|
      .cons (.optional "event" .value .null) .nil)
    (fun (id, height, kind, transaction, status, detail, ()) =>
      ⟨id, height, kind, transaction, status, detail⟩)
    (fun e => (e.id, e.height, e.kind, e.transaction, e.status, e.detail, ()))

end Event

end ChainRelay
