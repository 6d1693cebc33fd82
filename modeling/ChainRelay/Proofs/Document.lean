import ChainRelay.Envelope

/-!
# The document that is signed

The document that a signer commits to, written out down to its texts: six fields, and in
them those of the fee and of the messages, in each object in the order in which they are
declared. Amounts, heights and account numbers are texts of digits; ids, keys, assets and
addresses are their texts. Only the nodes of a blame are left out, if there are none. What
codecs write is this document (`Envelope.signFields_eq`).
-/

namespace ChainRelay

/-! ## Observations -/

/-- A coin in a document. -/
def Coin.document (c : Coin) : Json := .object [
  ("asset", .text c.asset.text),
  ("amount", .text (Numeral.ofWord c.amount))]

/-- A transaction on another chain in a document. -/
def Transaction.document (t : Transaction) : Json := .object [
  ("id", .text t.id.text),
  ("chain", .text t.chain.symbol),
  ("from_address", .text t.sender.text),
  ("to_address", .text t.receiver.text),
  ("coins", .array (t.coins.map Coin.document)),
  ("gas", .array (t.gas.map Coin.document)),
  ("memo", .text t.memo)]

/-- An observation in a document. -/
def Observation.document (o : Observation) : Json := .object [
  ("tx", o.transaction.document),
  ("block_height", .text (Numeral.ofWord o.height)),
  ("observed_pub_key", .text o.vault.text),
  ("signers", .array (o.signers.map fun signer => .text signer.text))]

/-! ## Messages -/

/-- A blame in a document. -/
def Blame.document (b : Blame) : Json := .object <|
  ("fail_reason", .text b.reason) ::
    if b.nodes = [] then [] else [("blame_peers", .array (b.nodes.map fun k => .text k.text))]

/-- The report of a signing round that failed in a document. -/
def KeysignFailure.document (m : KeysignFailure) : Json := .object [
  ("id", .text m.id.text),
  ("height", .text (Numeral.ofWord m.height)),
  ("blame", m.blame.document),
  ("memo", .text m.memo),
  ("coins", .array (m.coins.map Coin.document)),
  ("signer", .text m.signer.text)]

/-- The report of how the making of a vault ended in a document. -/
def KeygenReport.document (m : KeygenReport) : Json := .object [
  ("id", .text m.id.text),
  ("pool_pub_key", .text m.poolKey.text),
  ("keygen_type", .text m.kind.text),
  ("pub_keys", .array (m.members.map fun k => .text k.text)),
  ("height", .text (Numeral.ofWord m.height)),
  ("blame", m.blame.document),
  ("signer", .text m.signer.text)]

/-- Sightings in a document. -/
def Sightings.document (m : Sightings) : Json := .object [
  ("txs", .array (m.observations.map Observation.document)),
  ("signer", .text m.signer.text)]

/-- A message in a document. -/
def Message.document : Message → Json
  | keysignFailed m =>
    .object [("type", .text "thorchain/MsgTssKeysignFail"), ("value", m.document)]
  | keygen m => .object [("type", .text "thorchain/MsgTssPool"), ("value", m.document)]
  | inbound m => .object [("type", .text "thorchain/ObservedTxIn"), ("value", m.document)]
  | outbound m => .object [("type", .text "thorchain/ObservedTxOut"), ("value", m.document)]

/-! ## The whole -/

/-- A fee in a document. -/
def Fee.document (f : Fee) : Json := .object [
  ("amount", .array (f.coins.map fun c =>
    .object [("denom", .text c.denomination), ("amount", .text c.amount)])),
  ("gas", .text (Numeral.ofWord f.gas))]

/-- The document that is signed of a transaction, for a chain and an account. -/
def Envelope.document (e : Envelope) (chainId : String) (account : Account) : Json := .object [
  ("account_number", .text (Numeral.ofWord account.number)),
  ("chain_id", .text chainId),
  ("fee", e.fee.document),
  ("memo", .text e.memo),
  ("msgs", .array (e.messages.map Message.document)),
  ("sequence", .text (Numeral.ofWord account.sequence))]

/-! ## What codecs write -/

theorem Blame.encode_eq (b : Blame) : Blame.codec.encode b = b.document := by
  rcases b with ⟨reason, _ | ⟨node, nodes⟩⟩ <;> rfl

theorem KeysignFailure.encode_eq (m : KeysignFailure) :
    KeysignFailure.codec.encode m = m.document := by
  rw [document, ← Blame.encode_eq]
  rfl

theorem KeygenReport.encode_eq (m : KeygenReport) :
    KeygenReport.codec.encode m = m.document := by
  rw [document, ← Blame.encode_eq]
  rfl

theorem Message.encode_eq (m : Message) : Message.codec.encode m = m.document := by
  cases m with
  | keysignFailed m => rw [document, ← KeysignFailure.encode_eq]; rfl
  | keygen m => rw [document, ← KeygenReport.encode_eq]; rfl
  | inbound _ | outbound _ => rfl

/-- What is signed is the document. -/
theorem Envelope.signFields_eq (e : Envelope) (chainId : String) (account : Account) :
    e.signFields chainId account = e.document chainId account := by
  rw [document, ← funext Message.encode_eq]
  rfl

/-- The report of a signing round that failed, with nobody to blame. -/
def Envelope.roundFailed : Envelope :=
  .unsigned [.keysignFailed ⟨⟨"A1"⟩, 5, ⟨"timeout", []⟩, "note", [⟨⟨.bnb, "BNB"⟩, 7⟩], ⟨"thor1"⟩⟩]

end ChainRelay
