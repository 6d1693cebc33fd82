import ChainRelay.Proofs.Bridge.Discipline
import ChainRelay.Proofs.Wire

/-!
# What is posted can be verified

What a broadcast posts is read back as the transaction that was broadcast, with one
signature in place of those that it may have had, and that signature is the signer's, of
what the transaction commits to as it was read (`Bridge.Attests`). A verifier needs
nothing but the request: the account is in the signature, and the two ways to write a
transaction, in order for signing and as it stands for posting, agree on what it is, since
the request is read as it was written. All attempts to post a transaction carry the same
bytes (`Bridge.posted_attests`).
-/

namespace ChainRelay

open Codec (Admits Every)

/-- Requests to take a transaction in as objects. -/
def broadcastRequestCodec : Codec (Envelope × BroadcastMode) :=
  .record
    (.cons (.required "tx" Envelope.codec) <| .cons (.required "mode" BroadcastMode.codec) .nil)
    (fun (tx, mode, ()) => (tx, mode)) (fun (tx, mode) => (tx, mode, ()))

theorem encode_broadcastRequestCodec (e : Envelope) (mode : BroadcastMode) :
    broadcastRequestCodec.encode (e, mode) = e.broadcastRequest mode := rfl

theorem broadcastRequestCodec_admits :
    broadcastRequestCodec.Admits 10 fun request => request.1.IsParsed :=
  .record (.cons (.required Envelope.admits) <| .cons (.required BroadcastMode.admits) .nil)
    (by decide) (by decide) (fun _ h => h.1) fun _ h => ⟨⟨h, trivial, trivial⟩, rfl⟩

namespace Bridge

open Http (Request Reply)

variable {σ : Type} (b : Bridge) (serve : Request → σ → Reply × σ) (tx : Envelope)
  (mode : BroadcastMode) (now : Scene σ)

/-- Bytes are read as a transaction to be taken in, with one signature, and that is the
    signer's of the transaction as it was read, for the account that it tells. -/
structure Attests (body : Bytes) (read : Envelope) (signature : Signature) : Prop where
  reads : broadcastRequestCodec.ofBytes body Doc.read = .ok (read, mode)
  messages : read.messages = tx.messages
  fee : read.fee = tx.fee
  memo : read.memo = tx.memo
  signatures : read.signatures = [signature]
  value : signature.value = Base64.encode
    (Ecdsa.sign b.signer.key (read.signBytes b.settings.chainId signature.account))
  key : signature.key = ⟨"tendermint/PubKeySecp256k1", Base64.encode b.signer.publicKey.bytes⟩

/-- The request of a broadcast is read as the signed transaction. -/
theorem ofBytes_broadcastBody {tx : Envelope} (htx : tx.IsParsed) (account : Account) :
    broadcastRequestCodec.ofBytes (b.broadcastBody tx mode account) Doc.read
      = .ok (b.signed tx account, mode) := by
  rw [broadcastBody, ← encode_broadcastRequestCodec]
  refine Admits.ofBytes_render broadcastRequestCodec_admits (by decide) htx ?_
  rw [encode_broadcastRequestCodec]
  exact (Envelope.hasNoNumber_broadcastRequest _ mode).allNumbers

/-- Signing leaves what is committed to as it is. -/
theorem attests_broadcastBody {tx : Envelope} (htx : tx.IsParsed) (account : Account) :
    b.Attests tx mode (b.broadcastBody tx mode account) (b.signed tx account)
      (b.signer.sign tx b.settings.chainId account) where
  reads := b.ofBytes_broadcastBody mode htx account
  messages := rfl
  fee := rfl
  memo := rfl
  signatures := rfl
  value := rfl
  key := rfl

/-- All that a broadcast posts is one request, again and again, and that can be verified. -/
theorem posted_attests (htx : tx.IsParsed) :
    ∃ body, ∀ e ∈ b.posted serve tx mode now,
      Http.Url.parse (b.url "/txs") = .ok e.1.url ∧ e.1.body = some body ∧
        ∃ read signature, b.Attests tx mode body read signature := by
  rw [posted_eq]
  cases hlearned : (b.learned serve now).1 with
  | none =>
    -- Nothing is posted without an account.
    refine ⟨[], fun e he => ?_⟩
    obtain ⟨-, account, haccount, -⟩ := b.body_of_mem_posts serve tx mode now he
    exact absurd (hlearned.symm.trans haccount) nofun
  | some account =>
    refine ⟨b.broadcastBody tx mode account, fun e he => ?_⟩
    obtain ⟨hurl, account', haccount, hbody⟩ := b.body_of_mem_posts serve tx mode now he
    obtain rfl := Option.some.inj (hlearned.symm.trans haccount)
    exact ⟨hurl, hbody, _, _, b.attests_broadcastBody mode htx account⟩

/-- A report that somebody else has signed. -/
def overheard : Envelope where
  messages := [.keysignFailed
    ⟨⟨"0A"⟩, 5, .none, "swap", [⟨⟨.bnb, "RUNE"⟩, 7⟩], ⟨"thor1"⟩⟩]
  fee := .standard
  signatures := [⟨⟨"", ""⟩, "", ⟨0, 0⟩⟩]
  memo := ""

/-- What is posted of it for an account that is known, to a server that never replies. -/
theorem posted_attests_overheard :
    let now : Scene (List Reply) := ⟨⟨some ⟨4, 7⟩, false, []⟩, []⟩
    overheard.IsParsed ∧ plain.posted Http.scripted overheard .checked now ≠ [] ∧
      ∃ body, ∀ e ∈ plain.posted Http.scripted overheard .checked now,
        Http.Url.parse (plain.url "/txs") = .ok e.1.url ∧ e.1.body = some body ∧
          ∃ read signature, plain.Attests overheard .checked body read signature := by
  intro now
  have hid : (⟨"0A"⟩ : TxId).IsParsed := ⟨"0x0a", by rfl⟩
  have hasset : (⟨.bnb, "RUNE"⟩ : Asset).IsParsed := ⟨"bnb.rune", by rfl⟩
  have hparsed : overheard.IsParsed := by
    refine List.forall_mem_singleton.2 ⟨hid, List.forall_mem_singleton.2 hasset⟩
  have hurl : (Http.Url.parse (plain.url "/txs")).toOption.isSome = true := by decide +kernel
  have hposted : plain.posted Http.scripted overheard .checked now ≠ [] := by
    rw [posted_eq]
    obtain ⟨_, _, hrepeats⟩ | ⟨hnone, -⟩ := plain.fetchTrace_cases Http.scripted false "/txs"
      (some (plain.broadcastBody overheard .checked ⟨4, 7⟩)) []
    · exact hrepeats.ne_nil
    · cases hu : Http.Url.parse (plain.url "/txs") with
      | ok u => exact absurd ⟨u, hu⟩ hnone
      | error fault => simp [hu, Except.toOption] at hurl
  exact ⟨hparsed, hposted, plain.posted_attests _ _ _ _ hparsed⟩

end Bridge

end ChainRelay
