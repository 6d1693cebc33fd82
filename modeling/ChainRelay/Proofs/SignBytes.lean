import ChainRelay.Proofs.Crypto.Points
import ChainRelay.Proofs.Envelope
import ChainRelay.Proofs.Json.Telling
import ChainRelay.Proofs.Text.Bech32

/-!
# What a signature commits to

The bytes to be signed tell the transaction, and the chain and the account that it
is signed for (`Envelope.signBytes_eq_iff`); of the transaction they leave out only the
signatures. Whatever is written into them tells what it stands for: a text is quoted,
an amount is written in digits, an asset starts with the symbol of its chain up to the
first point, a public key is the Bech32 text of a point in thirty-three bytes, and the
nodes of a blame are left out only if there are none.
-/

namespace ChainRelay

open Codec (Tells)

/-! ## Texts -/

/-- No symbol of a chain goes on as another one with a point behind it. -/
theorem Chain.eq_of_symbol_append {chain chain' : Chain} {cs ds : List Char}
    (h : chain.symbol.toList ++ '.' :: cs = chain'.symbol.toList ++ '.' :: ds) :
    chain = chain' ∧ cs = ds := by
  cases chain <;> cases chain' <;> simp_all [symbol]

theorem Asset.text_injective : Function.Injective Asset.text := by
  rintro ⟨chain, symbol⟩ ⟨chain', symbol'⟩ h
  have hchars := congrArg String.toList h
  simp only [text, String.toList_append, List.append_assoc] at hchars
  obtain ⟨hchain, hsymbol⟩ := Chain.eq_of_symbol_append hchars
  rw [hchain, String.toList_injective hsymbol]

theorem PublicKey.text_injective : Function.Injective PublicKey.text := by
  rintro ⟨p⟩ ⟨q⟩ h
  exact congrArg mk (Secp256k1.Point.compressed_injective (Bech32.encode_injective label h))

theorem TxId.tells : TxId.codec.Tells :=
  .written fun ⟨_⟩ ⟨_⟩ h => congrArg TxId.mk h

theorem Chain.tells : Chain.codec.Tells :=
  .names fun c c' h => by cases c <;> cases c' <;> first | rfl | exact absurd h (by decide)

theorem KeygenKind.tells : KeygenKind.codec.Tells :=
  .names fun k k' h => by cases k <;> cases k' <;> first | rfl | exact absurd h (by decide)

theorem Address.tells : Address.codec.Tells := .iso .text fun _ => rfl

theorem PublicKey.tells : PublicKey.codec.Tells := .written PublicKey.text_injective

/-! ## Records -/

theorem Coin.tells : Coin.codec.Tells :=
  .record ⟨.required (.written Asset.text_injective), .required .decimal, trivial⟩ (by decide)
    fun _ => rfl

theorem Transaction.tells : Transaction.codec.Tells :=
  .record ⟨.required TxId.tells, .required Chain.tells, .required Address.tells,
    .required Address.tells, .required (.list Coin.tells), .optional (.list Coin.tells),
    .optional .text, trivial⟩ (by decide) fun _ => rfl

theorem Observation.tells : Observation.codec.Tells :=
  .record ⟨.required Transaction.tells, .required .decimal, .required PublicKey.tells,
    .optional (.list Address.tells), trivial⟩ (by decide) fun _ => rfl

theorem Blame.tells : Blame.codec.Tells := by
  refine .record ⟨.required .text, .sparse (.list PublicKey.tells) ?_, trivial⟩ (by decide)
    fun _ => rfl
  intro nodes nodes' h h'
  rw [List.isEmpty_iff.1 h, List.isEmpty_iff.1 h']

theorem KeysignFailure.tells : KeysignFailure.codec.Tells :=
  .record ⟨.required TxId.tells, .required .decimal, .required Blame.tells, .required .text,
    .required (.list Coin.tells), .required Address.tells, trivial⟩ (by decide) fun _ => rfl

theorem KeygenReport.tells : KeygenReport.codec.Tells :=
  .record ⟨.required TxId.tells, .required PublicKey.tells, .required KeygenKind.tells,
    .required (.list PublicKey.tells), .required .decimal, .required Blame.tells,
    .required Address.tells, trivial⟩ (by decide) fun _ => rfl

theorem Sightings.tells : Sightings.codec.Tells :=
  .record ⟨.required (.list Observation.tells), .required Address.tells, trivial⟩ (by decide)
    fun _ => rfl

/-- The tag tells the kind of a message, and the payload the message of that kind. -/
theorem Message.tells : Message.codec.Tells := by
  refine .tagged fun m m' htag hpayload => ?_
  cases m <;> cases m' <;> simp only [tag, String.reduceEq] at htag
  · exact congrArg keysignFailed (KeysignFailure.tells hpayload)
  · exact congrArg keygen (KeygenReport.tells hpayload)
  · exact congrArg inbound (Sightings.tells hpayload)
  · exact congrArg outbound (Sightings.tells hpayload)

theorem FeeCoin.tells : FeeCoin.codec.Tells :=
  .record ⟨.required .text, .required .text, trivial⟩ (by decide) fun _ => rfl

theorem Fee.tells : Fee.codec.Tells :=
  .record ⟨.required (.list FeeCoin.tells), .required .decimal, trivial⟩ (by decide) fun _ => rfl

/-! ## What is signed -/

namespace Envelope

/-- What a signature commits to. -/
structure Commitment where
  /-- The account it is signed for. -/
  account : Account
  /-- The chain it is signed for. -/
  chainId : String
  /-- What the transaction pays. -/
  fee : Fee
  /-- Its note. -/
  memo : String
  /-- What it tells. -/
  messages : List Message

/-- Commitments as objects. -/
def Commitment.codec : Codec Commitment :=
  .record
    (.cons (.required "account_number" .decimal) <| .cons (.required "chain_id" .text) <|
      .cons (.required "fee" Fee.codec) <| .cons (.required "memo" .text) <|
      .cons (.required "msgs" (.list Message.codec)) <| .cons (.required "sequence" .decimal) .nil)
    (fun (number, chainId, fee, memo, messages, sequence, ()) =>
      ⟨⟨number, sequence⟩, chainId, fee, memo, messages⟩)
    (fun c => (c.account.number, c.chainId, c.fee, c.memo, c.messages, c.account.sequence, ()))

/-- What is committed to in signing a transaction. -/
def commitment (e : Envelope) (chainId : String) (account : Account) : Commitment :=
  ⟨account, chainId, e.fee, e.memo, e.messages⟩

theorem signDocument_eq (e : Envelope) (chainId : String) (account : Account) :
    e.signDocument chainId account
      = (Commitment.codec.encode (e.commitment chainId account)).sorted := rfl

theorem Commitment.tells : Commitment.codec.Tells :=
  .record ⟨.required .decimal, .required .text, .required Fee.tells, .required .text,
    .required (.list Message.tells), .required .decimal, trivial⟩ (by decide) fun _ => rfl

theorem Commitment.writesNoNumber : Commitment.codec.WritesNoNumber :=
  .record ⟨.decimal, .text, Fee.writesNoNumber, .text, .list Message.writesNoNumber, .decimal,
    trivial⟩

theorem hasNoNumber_signDocument (e : Envelope) (chainId : String) (account : Account) :
    (e.signDocument chainId account).HasNoNumber := by
  rw [signDocument_eq]
  exact (Commitment.writesNoNumber _).sorted

/-- The bytes to be signed tell what is committed to. -/
theorem signBytes_inj {e e' : Envelope} {chainId chainId' : String} {account account' : Account} :
    e.signBytes chainId account = e'.signBytes chainId' account' ↔
      e.commitment chainId account = e'.commitment chainId' account' := by
  constructor
  · intro h
    have hdocument := Json.render_inj (e.hasNoNumber_signDocument chainId account)
      (e'.hasNoNumber_signDocument chainId' account') (Utf8.encode_injective h)
    rw [signDocument_eq, signDocument_eq] at hdocument
    exact Commitment.tells hdocument
  · intro h
    rw [signBytes, signBytes, signDocument_eq, signDocument_eq, h]

/-- Two transactions, each for its own chain and account, have the same bytes to be
    signed exactly if all is the same but their signatures. -/
theorem signBytes_eq_iff (e e' : Envelope) (chainId chainId' : String)
    (account account' : Account) :
    e.signBytes chainId account = e'.signBytes chainId' account' ↔
      chainId = chainId' ∧ account.number = account'.number ∧
        account.sequence = account'.sequence ∧ e.fee = e'.fee ∧ e.memo = e'.memo ∧
        e.messages = e'.messages := by
  have haccount : account = account' ↔
      account.number = account'.number ∧ account.sequence = account'.sequence := by
    obtain ⟨number, sequence⟩ := account
    obtain ⟨number', sequence'⟩ := account'
    exact iff_of_eq (Account.mk.injEq ..)
  rw [signBytes_inj, commitment, commitment, Commitment.mk.injEq, haccount]
  tauto

end Envelope

end ChainRelay
