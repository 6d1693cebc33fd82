import ChainRelay.Event
import ChainRelay.NodeAccount
import ChainRelay.Proofs.Envelope
import ChainRelay.Proofs.Json.Restoring
import ChainRelay.Proofs.Parsed

/-!
# What is told survives being told

Every type that goes over the wire is read back as it was written (`wire_survives`):
whatever bytes an element was read from, with fields in any order or missing, as an
object or as an array, the bytes that are written of it are read as the same element.
For each type this is one line that goes through its fields (`Codec.Admits`), as the
codecs of ids, assets and keys yield only what their parsers produce, of which their
texts are parsed again.

The detail of an event may be any value. It is read with ascending keys, and with the
integers that a reader keeps (`Doc.allNumbers_read`); if it has no floating-point number,
it is read from its text as it was.
-/

namespace ChainRelay

namespace Codec

variable {α : Type} {c : Codec α} {room : Nat} {p : α → Prop}

/-- The bytes that are written of an element. -/
def bytes (c : Codec α) (x : α) : Bytes := Utf8.encode (c.encode x).render

/-- Every element of some kind that was read from bytes is written, read from what is
    written as it was, and then written with the same bytes again. -/
def Survives (c : Codec α) (p : α → Prop) : Prop :=
  ∀ (bytes : Bytes) (x : α), c.ofBytes bytes Doc.read = .ok x → p x →
    c.ofBytes (c.bytes x) Doc.read = .ok x ∧
      (c.ofBytes (c.bytes x) Doc.read).map c.bytes = .ok (c.bytes x)

theorem Survives.of_restores (h : ∀ (bytes : Bytes) (x : α), c.ofBytes bytes Doc.read = .ok x →
    p x → c.ofBytes (c.bytes x) Doc.read = .ok x) : c.Survives p := fun bytes x hread hx => by
  have hback := h bytes x hread hx
  exact ⟨hback, by rw [hback]; rfl⟩

theorem Survives.of_admits (h : c.Admits room p) (hnumbers : c.WritesNoNumber)
    (hroom : room ≤ Reading.maxDepth) : c.Survives Every :=
  .of_restores fun _ x hread _ =>
    h.ofBytes_render hroom (h.of_ofBytes hread) (hnumbers x).allNumbers

end Codec

open Codec (Admits Every)

/-! ## Names and texts -/

theorem Chain.admits : Chain.codec.Admits 0 Every := .names fun chain => by cases chain <;> rfl

theorem KeygenKind.admits : KeygenKind.codec.Admits 0 Every := .names fun kind => by
  cases kind <;> rfl

theorem NodeStatus.admits : NodeStatus.codec.Admits 0 Every := .names fun status => by
  cases status <;> rfl

theorem BroadcastMode.admits : BroadcastMode.codec.Admits 0 Every := .names fun mode => by
  cases mode <;> rfl

theorem Address.admits : Address.codec.Admits 0 Every := .iso .text fun _ => rfl

/-- What a parser lets through is told from the others by its text. -/
theorem Codec.admits_written {α φ : Type} {write : α → String} {parse : String → Except φ α}
    {message : φ → String} {p : α → Prop} (hyields : ∀ s x, parse s = .ok x → p x)
    (hparse : ∀ x, p x → parse (write x) = .ok x) :
    (written write fun s => (parse s).mapError message).Admits 0 p := by
  refine .written (fun s x h => ?_) fun x hx => by rw [hparse x hx]; rfl
  cases hs : parse s with
  | error e => simp [hs, Except.mapError] at h
  | ok y =>
    rw [hs] at h
    cases h
    exact hyields s _ hs

theorem TxId.admits : TxId.codec.Admits 0 IsParsed :=
  Codec.admits_written (fun s _ h => ⟨s, h⟩) fun _ => parse_text

theorem Asset.admits : Asset.codec.Admits 0 IsParsed :=
  Codec.admits_written (fun s _ h => ⟨s, h⟩) fun _ => parse_text

theorem PublicKey.admits : PublicKey.codec.Admits 0 Every :=
  Codec.admits_written (fun _ _ _ => trivial) fun k _ => k.parse_text

/-! ## Records

A record is of the form that parsers produce if its ids and assets are. -/

/-- The asset of the coin comes from a text. -/
def Coin.IsParsed (c : Coin) : Prop := c.asset.IsParsed

theorem Coin.admits : Coin.codec.Admits 1 IsParsed :=
  .record (.cons (.required Asset.admits) <| .cons (.required .decimal) .nil) (by decide)
    (by decide) (fun _ h => h.1) fun _ h => ⟨⟨h, trivial, trivial⟩, rfl⟩

/-- The id and the assets of the transaction come from texts. -/
def Transaction.IsParsed (t : Transaction) : Prop :=
  t.id.IsParsed ∧ (∀ c ∈ t.coins, c.IsParsed) ∧ ∀ c ∈ t.gas, c.IsParsed

theorem Transaction.admits : Transaction.codec.Admits 3 IsParsed :=
  .record
    (.cons (.required TxId.admits) <| .cons (.required Chain.admits) <|
      .cons (.required Address.admits) <| .cons (.required Address.admits) <|
      .cons (.required (.list Coin.admits)) <|
      .cons (.optional (.list Coin.admits) (by simp)) <|
      .cons (.optional .text trivial) .nil)
    (by decide) (by decide)
    (fun _ ⟨hid, _, _, _, hcoins, hgas, _⟩ => ⟨hid, hcoins, hgas⟩)
    fun _ ⟨hid, hcoins, hgas⟩ =>
      ⟨⟨hid, trivial, trivial, trivial, hcoins, hgas, trivial, trivial⟩, rfl⟩

/-- The observed transaction is of the form that parsers produce. -/
def Observation.IsParsed (o : Observation) : Prop := o.transaction.IsParsed

theorem Observation.admits : Observation.codec.Admits 4 IsParsed :=
  .record
    (.cons (.required Transaction.admits) <| .cons (.required .decimal) <|
      .cons (.required PublicKey.admits) <|
      .cons (.optional (.list Address.admits) fun _ _ => trivial) .nil)
    (by decide) (by decide) (fun _ h => h.1)
    fun _ h => ⟨⟨h, trivial, trivial, fun _ _ => trivial, trivial⟩, rfl⟩

theorem Blame.admits : Blame.codec.Admits 2 Every :=
  .record
    (.cons (.required .text) <|
      .cons (.sparse (.list PublicKey.admits) (fun _ _ => trivial) fun _ => List.isEmpty_iff.1)
        .nil)
    (by decide) (by decide) (fun _ _ => trivial)
    fun _ _ => ⟨⟨trivial, fun _ _ => trivial, trivial⟩, rfl⟩

theorem NodeAccount.writesNoNumber : NodeAccount.codec.WritesNoNumber := by
  refine .record ⟨.iso .text, .names, fun bond => ?_, trivial⟩
  cases bond <;> trivial

theorem NodeAccount.admits : NodeAccount.codec.Admits 1 Every :=
  .record
    (.cons (.required Address.admits) <| .cons (.required NodeStatus.admits) <|
      .cons (.optional (.option Address.admits fun _ => nofun) fun _ _ => trivial) .nil)
    (by decide) (by decide) (fun _ _ => trivial)
    fun _ _ => ⟨⟨trivial, trivial, fun _ _ => trivial, trivial⟩, rfl⟩

/-! ## Messages and envelopes -/

/-- The id and the assets of the report come from texts. -/
def KeysignFailure.IsParsed (m : KeysignFailure) : Prop :=
  m.id.IsParsed ∧ ∀ c ∈ m.coins, c.IsParsed

theorem KeysignFailure.admits : KeysignFailure.codec.Admits 3 IsParsed :=
  .record
    (.cons (.required TxId.admits) <| .cons (.required .decimal) <|
      .cons (.required Blame.admits) <| .cons (.required .text) <|
      .cons (.required (.list Coin.admits)) <| .cons (.required Address.admits) .nil)
    (by decide) (by decide)
    (fun _ ⟨hid, _, _, _, hcoins, _⟩ => ⟨hid, hcoins⟩)
    fun _ ⟨hid, hcoins⟩ => ⟨⟨hid, trivial, trivial, trivial, hcoins, trivial, trivial⟩, rfl⟩

/-- The id of the report comes from a text. -/
def KeygenReport.IsParsed (m : KeygenReport) : Prop := m.id.IsParsed

theorem KeygenReport.admits : KeygenReport.codec.Admits 3 IsParsed :=
  .record
    (.cons (.required TxId.admits) <| .cons (.required PublicKey.admits) <|
      .cons (.required KeygenKind.admits) <| .cons (.required (.list PublicKey.admits)) <|
      .cons (.required .decimal) <| .cons (.required Blame.admits) <|
      .cons (.required Address.admits) .nil)
    (by decide) (by decide) (fun _ h => h.1)
    fun _ h =>
      ⟨⟨h, trivial, trivial, fun _ _ => trivial, trivial, trivial, trivial, trivial⟩, rfl⟩

/-- The observations are of the form that parsers produce. -/
def Sightings.IsParsed (m : Sightings) : Prop := ∀ o ∈ m.observations, o.IsParsed

theorem Sightings.admits : Sightings.codec.Admits 6 IsParsed :=
  .record (.cons (.required (.list Observation.admits)) <| .cons (.required Address.admits) .nil)
    (by decide) (by decide) (fun _ h => h.1) fun _ h => ⟨⟨h, trivial, trivial⟩, rfl⟩

namespace Message

/-- What the message carries is of the form that parsers produce. -/
def IsParsed : Message → Prop
  | keysignFailed m => m.IsParsed
  | keygen m => m.IsParsed
  | inbound m => m.IsParsed
  | outbound m => m.IsParsed

theorem isParsed_of_decode {case : Case Message} (hcase : case ∈ cases) {r : Reading} {d : Doc}
    {m : Message} (h : case.decode r d = .ok m) : m.IsParsed := by
  simp only [cases, List.mem_cons, List.not_mem_nil, or_false] at hcase
  rcases hcase with rfl | rfl | rfl | rfl
  · obtain ⟨m, hm, rfl⟩ := ok_of_map h
    exact Admits.yields KeysignFailure.admits hm
  · obtain ⟨m, hm, rfl⟩ := ok_of_map h
    exact Admits.yields KeygenReport.admits hm
  · obtain ⟨m, hm, rfl⟩ := ok_of_map h
    exact Admits.yields Sightings.admits hm
  · obtain ⟨m, hm, rfl⟩ := ok_of_map h
    exact Admits.yields Sightings.admits hm

theorem depth_payload_le {m : Message} (h : m.IsParsed) : m.payload.depth ≤ 6 := by
  cases m with
  | keysignFailed m => exact Admits.depth_le (.mono KeysignFailure.admits (by decide)) h
  | keygen m => exact Admits.depth_le (.mono KeygenReport.admits (by decide)) h
  | inbound m => exact Admits.depth_le Sightings.admits h
  | outbound m => exact Admits.depth_le Sightings.admits h

/-- A payload is read by the case of its tag. -/
theorem exists_decode_payload {r : Reading} {m : Message} (hr : r.origin = .text)
    (hroom : 6 ≤ r.room) (h : m.IsParsed) :
    ∃ case, Case.find? cases m.tag = some case ∧ case.decode r (Doc.ofJson m.payload) = .ok m := by
  cases m with
  | keysignFailed m =>
    have hm := Admits.restores KeysignFailure.admits hr (by omega) h
    exact ⟨_, rfl, congrArg (Except.map keysignFailed) hm⟩
  | keygen m =>
    have hm := Admits.restores KeygenReport.admits hr (by omega) h
    exact ⟨_, rfl, congrArg (Except.map keygen) hm⟩
  | inbound m =>
    have hm := Admits.restores Sightings.admits hr hroom h
    exact ⟨_, rfl, congrArg (Except.map inbound) hm⟩
  | outbound m =>
    have hm := Admits.restores Sightings.admits hr hroom h
    exact ⟨_, rfl, congrArg (Except.map outbound) hm⟩

theorem admits : codec.Admits 7 IsParsed :=
  .tagged (fun _ hcase _ _ _ => isParsed_of_decode hcase) (fun _ => depth_payload_le)
    fun _ _ => exists_decode_payload

end Message

theorem FeeCoin.admits : FeeCoin.codec.Admits 1 Every :=
  .record (.cons (.required .text) <| .cons (.required .text) .nil) (by decide)
    (by decide) (fun _ _ => trivial) fun _ _ => ⟨⟨trivial, trivial, trivial⟩, rfl⟩

theorem Fee.admits : Fee.codec.Admits 3 Every :=
  .record (.cons (.required (.list FeeCoin.admits)) <| .cons (.required .decimal) .nil) (by decide)
    (by decide) (fun _ _ => trivial) fun _ _ => ⟨⟨fun _ _ => trivial, trivial, trivial⟩, rfl⟩

theorem SignatureKey.admits : SignatureKey.codec.Admits 1 Every :=
  .record (.cons (.required .text) <| .cons (.required .text) .nil) (by decide)
    (by decide) (fun _ _ => trivial) fun _ _ => ⟨⟨trivial, trivial, trivial⟩, rfl⟩

theorem Signature.admits : Signature.codec.Admits 2 Every :=
  .record
    (.cons (.required SignatureKey.admits) <| .cons (.required .text) <|
      .cons (.required .decimal) <| .cons (.required .decimal) .nil)
    (by decide) (by decide) (fun _ _ => trivial)
    fun _ _ => ⟨⟨trivial, trivial, trivial, trivial, trivial⟩, rfl⟩

/-- The messages are of the form that parsers produce. -/
def Envelope.IsParsed (e : Envelope) : Prop := ∀ m ∈ e.messages, m.IsParsed

theorem Envelope.admits : Envelope.codec.Admits 9 IsParsed :=
  .record
    (.cons (.required (.list Message.admits)) <| .cons (.required Fee.admits) <|
      .cons (.optional (.list Signature.admits) fun _ _ => trivial) <|
      .cons (.required .text) .nil)
    (by decide) (by decide) (fun _ h => h.1)
    fun _ h => ⟨⟨h, trivial, fun _ _ => trivial, trivial, trivial⟩, rfl⟩

/-! ## Events -/

namespace Event

/-- The form in which events come from texts: the transaction comes from a text, and the
    detail is in order, not too deep, and without integers that a reader does not keep. -/
structure IsParsed (e : Event) : Prop where
  transaction : ∀ t ∈ e.transaction, t.IsParsed
  sorted : e.detail.sorted = e.detail
  numbers : e.detail.AllNumbers Number.Fits
  depth : e.detail.depth ≤ 126

theorem optionTransaction_admits :
    (Codec.option Transaction.codec).Admits 3 fun t => ∀ x ∈ t, x.IsParsed :=
  .option Transaction.admits fun _ => nofun

theorem isParsed_of_ofBytes {bytes : Bytes} {e : Event} (h : codec.ofBytes bytes Doc.read = .ok e) :
    e.IsParsed := by
  obtain ⟨r, ⟨id, height, kind, transaction, status, detail, ⟨⟩⟩, hr, hrow, rfl⟩ :=
    Codec.get_of_decode_record (Codec.decode_of_ofBytes h)
  cases hr
  obtain ⟨_, _, _, htransaction, _, hdetail, _⟩ := hrow
  have htransaction : ∀ t ∈ transaction, t.IsParsed := by
    rcases htransaction with habsent | ⟨part, -, hd⟩
    · cases habsent
      exact fun _ ht => nomatch ht
    · exact Admits.yields optionTransaction_admits hd
  -- A detail that is missing is null, and any other one is a part of what was read.
  rcases hdetail with habsent | ⟨part, hpart, hd⟩
  · cases habsent
    exact ⟨htransaction, rfl, trivial, Nat.zero_le _⟩
  · obtain ⟨hsorted, hnumbers, hdepth⟩ :=
      Codec.of_decode_value hd ((Doc.allNumbers_read bytes).of_mem_parts hpart)
    exact ⟨htransaction, hsorted, hnumbers, hdepth⟩

theorem decode_ofJson {e : Event} (h : e.IsParsed) :
    codec.decode .ofText (Doc.ofJson (codec.encode e)) = .ok e := by
  have hdecimal (name : String) (n : UInt64) :
      (Field.required name .decimal).Restores ⟨.text, 126⟩ n :=
    (Field.Admits.required .decimal).restores rfl (Nat.zero_le _) trivial
  have htext (name s : String) : (Field.required name .text).Restores ⟨.text, 126⟩ s :=
    (Field.Admits.required .text).restores rfl (Nat.zero_le _) trivial
  have htransaction : (Field.optional "in_tx" (.option Transaction.codec) none).Restores
      ⟨.text, 126⟩ e.transaction :=
    (Field.Admits.optional optionTransaction_admits (by simp)).restores rfl (by decide)
      h.transaction
  have hdetail : (Field.optional "event" .value .null).Restores ⟨.text, 126⟩ e.detail :=
    Codec.decode_value h.sorted h.depth
  have henter : Reading.ofText.enter = .ok ⟨.text, 126⟩ := rfl
  refine Codec.decode_record henter ?_ (by decide)
  exact ⟨hdecimal _ _, hdecimal _ _, htext _ _, htransaction, htext _ _, hdetail, trivial⟩

theorem allNumbers_encode {e : Event} (h : e.IsParsed) (hfloat : e.detail.HasNoFloat) :
    (codec.encode e).AllNumbers Number.IsWord := by
  have hdetail : e.detail.AllNumbers Number.IsWord :=
    h.numbers.imp₂ (fun _ => Number.Fits.isWord) hfloat
  have htransaction : ((Codec.option Transaction.codec).encode e.transaction).AllNumbers
      Number.IsWord := by
    cases e.transaction with
    | none => trivial
    | some t => exact (Transaction.writesNoNumber t).allNumbers
  exact ⟨trivial, trivial, trivial, htransaction, trivial, hdetail, trivial⟩

theorem survives : codec.Survives fun e => e.detail.HasNoFloat :=
  Codec.Survives.of_restores fun _ e hread hfloat => by
    have he := isParsed_of_ofBytes hread
    rw [Codec.ofBytes, Codec.bytes, Doc.read_render (allNumbers_encode he hfloat)]
    simp only [decode_ofJson he]
    rfl

end Event

/-- Every type that goes over the wire survives being written and read. -/
theorem wire_survives :
    Chain.codec.Survives Every ∧ Asset.codec.Survives Every ∧ Coin.codec.Survives Every ∧
    TxId.codec.Survives Every ∧ PublicKey.codec.Survives Every ∧ Blame.codec.Survives Every ∧
    Transaction.codec.Survives Every ∧ Observation.codec.Survives Every ∧
    KeygenKind.codec.Survives Every ∧ NodeAccount.codec.Survives Every ∧
    Message.codec.Survives Every ∧ Envelope.codec.Survives Every ∧
    Event.codec.Survives fun e => e.detail.HasNoFloat :=
  ⟨.of_admits Chain.admits .names (by decide), .of_admits Asset.admits .written (by decide),
    .of_admits Coin.admits Coin.writesNoNumber (by decide),
    .of_admits TxId.admits .written (by decide), .of_admits PublicKey.admits .written (by decide),
    .of_admits Blame.admits Blame.writesNoNumber (by decide),
    .of_admits Transaction.admits Transaction.writesNoNumber (by decide),
    .of_admits Observation.admits Observation.writesNoNumber (by decide),
    .of_admits KeygenKind.admits .names (by decide),
    .of_admits NodeAccount.admits NodeAccount.writesNoNumber (by decide),
    .of_admits Message.admits Message.writesNoNumber (by decide),
    .of_admits Envelope.admits Envelope.writesNoNumber (by decide), Event.survives⟩

namespace Event

/-- An event as an array, with a detail that is not in order. -/
def jumbled : Json :=
  .array [.text "1", .text "2", .text "add", .null, .text "done",
    .object [("b", .number (.integer (-1))), ("a", .array [.bool true])]]

/-- The event, with its detail in order. -/
def arranged : Event where
  id := 1
  height := 2
  kind := "add"
  transaction := none
  status := "done"
  detail := .object [("a", .array [.bool true]), ("b", .number (.integer (-1)))]

theorem ofBytes_jumbled : codec.ofBytes (Utf8.encode jumbled.render) Doc.read = .ok arranged := by
  have hminus : (Number.integer (-1)).IsWord := by decide
  have hnumbers : jumbled.AllNumbers Number.IsWord :=
    ⟨trivial, trivial, trivial, trivial, trivial, ⟨hminus, ⟨trivial, trivial⟩, trivial⟩, trivial⟩
  rw [Codec.ofBytes, Doc.read_render hnumbers]
  rfl

end Event

theorem wire_survives_jumbled :
    Event.codec.ofBytes (Utf8.encode Event.jumbled.render) Doc.read = .ok Event.arranged ∧
      Event.arranged.detail.HasNoFloat ∧
      Event.codec.ofBytes (Event.codec.bytes Event.arranged) Doc.read = .ok Event.arranged := by
  have hfloat : Event.arranged.detail.HasNoFloat := ⟨⟨trivial, trivial⟩, trivial, trivial⟩
  obtain ⟨_, _, _, _, _, _, _, _, _, _, _, _, hevent⟩ := wire_survives
  exact ⟨Event.ofBytes_jumbled, hfloat, (hevent _ _ Event.ofBytes_jumbled hfloat).1⟩

end ChainRelay
