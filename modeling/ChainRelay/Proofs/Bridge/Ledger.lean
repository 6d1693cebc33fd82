import ChainRelay.Proofs.Bridge.Sending
import ChainRelay.Proofs.Envelope
import ChainRelay.Proofs.Http.Retry
import ChainRelay.Proofs.Json.Members

/-!
# An honest chain behind a lossy line

The chain keeps one account, and takes a transaction in exactly if the signature
in it commits to the sequence number that is next (`Ledger.handle`). It reads that
number from the text that is posted (`Ledger.sequence?`), and how it words its
answers is up to it, as long as they tell the truth (`Wording`). Between the chain
and the bridge stands a line that may lose every request before the chain gets it,
and every answer on its way back (`Fate`); what it does to the next requests is a
function of how many there were before, so every pattern of losses is one such
function.
-/

namespace ChainRelay

/-- What a chain keeps of an account. -/
structure Ledger where
  /-- The number of the account. -/
  number : UInt64
  /-- The sequence number of the next transaction. -/
  sequence : Nat
  /-- What was posted and taken in, the newest last. -/
  accepted : List Bytes

namespace Ledger

/-- The sequence numbers of the signatures in what is posted. -/
def sequences : Codec (List UInt64) :=
  .only "tx" <| .only "signatures" <| .list <| .only "sequence" .decimal

/-- The sequence number in what is posted, if it can be read and has one signature. -/
def sequence? (body : Bytes) : Option Nat :=
  match sequences.ofAnswer body with
  | .ok [n] => some n.toNat
  | _ => none

/-- A transaction is taken in. -/
def take (l : Ledger) (body : Bytes) : Ledger :=
  { l with sequence := l.sequence + 1, accepted := l.accepted ++ [body] }

/-- The account as the next transaction has to be signed for it. -/
def account (l : Ledger) : Account := ⟨l.number, .ofNat l.sequence⟩

end Ledger

theorem Signature.decode_number (s : Signature) {r r' : Reading} (hr : r.enter = .ok r') :
    (Codec.only "account_number" .decimal).decode r (Doc.ofJson (Signature.codec.encode s))
      = .ok s.account.number :=
  Codec.decode_only [("pub_key", _), ("signature", _)] [("sequence", _)] hr (by simp)
    (by simp) (Codec.decode_decimal r' s.account.number)

theorem Signature.decode_sequence (s : Signature) {r r' : Reading} (hr : r.enter = .ok r') :
    (Codec.only "sequence" .decimal).decode r (Doc.ofJson (Signature.codec.encode s))
      = .ok s.account.sequence :=
  Codec.decode_only [("pub_key", _), ("signature", _), ("account_number", _)] [] hr (by simp)
    (by simp) (Codec.decode_decimal r' s.account.sequence)

namespace Bridge

variable (b : Bridge) (tx : Envelope) (mode : BroadcastMode) (account : Account)

/-- What is posted for an account has one signature, of which each field can be read. -/
theorem ofAnswer_broadcastBody {α : Type} {c : Codec α} {field : Signature → α}
    (hc : ∀ s {r r' : Reading}, r.enter = .ok r' →
      c.decode r (Doc.ofJson (Signature.codec.encode s)) = .ok (field s)) :
    (Codec.only "tx" <| .only "signatures" <| .list c).ofAnswer (b.broadcastBody tx mode account)
      = .ok [field (b.signer.sign tx b.settings.chainId account)] := by
  -- From the inside out: the signature, the list of them, the transaction, the request.
  have hsignature : ∀ s ∈ (b.signed tx account).signatures,
      c.decode ⟨.text, 124⟩ (Doc.ofJson (Signature.codec.encode s)) = .ok (field s) :=
    fun s _ => hc s rfl
  have hlist : (Codec.list c).decode ⟨.text, 125⟩
      (Doc.ofJson ((Codec.list Signature.codec).encode (b.signed tx account).signatures))
      = .ok [field (b.signer.sign tx b.settings.chainId account)] :=
    Codec.decode_list rfl hsignature
  have htx : (Codec.only "signatures" (.list c)).decode ⟨.text, 126⟩
      (Doc.ofJson (Envelope.codec.encode (b.signed tx account)))
      = .ok [field (b.signer.sign tx b.settings.chainId account)] :=
    Codec.decode_only [("msg", _), ("fee", _)] [("memo", _)] rfl (by simp) (by simp) hlist
  rw [broadcastBody, Codec.ofAnswer_render (Envelope.hasNoNumber_broadcastRequest ..)]
  exact Codec.decode_only [] [("mode", _)] rfl (by simp) (by simp) htx

/-- What is posted for an account has its sequence number in it. -/
theorem sequence?_broadcastBody :
    Ledger.sequence? (b.broadcastBody tx mode account) = some account.sequence.toNat := by
  rw [Ledger.sequence?, Ledger.sequences,
    b.ofAnswer_broadcastBody tx mode account Signature.decode_sequence]
  rfl

end Bridge

/-! ## The chain -/

/-- How a chain words its answers, which may differ from time to time but tell the
    truth. -/
structure Wording where
  /-- The answer to the question for the account. -/
  account (time : Nat) (l : Ledger) : Bytes
  /-- The answer to a transaction that is taken in. -/
  taken (time : Nat) (l : Ledger) (body : Bytes) : Bytes
  /-- The answer to any other transaction. -/
  refused (time : Nat) (l : Ledger) (body : Bytes) : Bytes
  /-- An account is told with its numbers. -/
  tells_account (time : Nat) (l : Ledger) (h : l.sequence < Nat.pow 2 64) :
    ∃ answer, AccountAnswer.codec.ofAnswer (account time l) = .ok answer ∧
      Numeral.readDecimal answer.number = .ok l.number ∧
      Numeral.readDecimal answer.sequence = .ok (.ofNat l.sequence)
  /-- A transaction that is taken in gets code zero and a hash. -/
  tells_taken (time : Nat) (l : Ledger) (body : Bytes) :
    ∃ answer id, BroadcastAnswer.codec.ofAnswer (taken time l body) = .ok answer ∧
      answer.code = 0 ∧ TxId.parse answer.hash = .ok id
  /-- Any other gets another code. -/
  tells_refused (time : Nat) (l : Ledger) (body : Bytes) :
    ∃ answer, BroadcastAnswer.codec.ofAnswer (refused time l body) = .ok answer ∧ answer.code ≠ 0

theorem ok_of_toOption {ε α : Type} {x : Except ε α} {a : α} (h : x.toOption = some a) :
    x = .ok a := by
  cases x with
  | ok b => exact congrArg _ (Option.some.inj h)
  | error e => cases h

namespace Wording.Plain

/-- The account as it is told. -/
def account (l : Ledger) : AccountAnswer :=
  ⟨"", Numeral.ofWord l.number, Numeral.ofWord l.account.sequence⟩

theorem ofAnswer_account (l : Ledger) :
    AccountAnswer.codec.ofAnswer (Utf8.encode (AccountAnswer.codec.encode (account l)).render)
      = .ok (account l) := by
  have hn : AccountAnswer.codec.WritesNoNumber :=
    .record ⟨.record ⟨.record ⟨.text, .text, .text, trivial⟩, trivial⟩, trivial⟩
  rw [Codec.ofAnswer_render (hn _)]
  rfl

/-- The answer to a transaction that is taken in. -/
def taken : Bytes := Utf8.encode "\x7b\"txhash\":\"0A\"\x7d"

theorem ofAnswer_taken : BroadcastAnswer.codec.ofAnswer taken = .ok ⟨"0A", "", 0, ""⟩ :=
  ok_of_toOption (by decide +kernel)

/-- The answer to any other transaction. -/
def refused : Bytes := Utf8.encode "\x7b\"txhash\":\"\",\"code\":4\x7d"

theorem ofAnswer_refused : BroadcastAnswer.codec.ofAnswer refused = .ok ⟨"", "", 4, ""⟩ :=
  ok_of_toOption (by decide +kernel)

end Wording.Plain

/-- The fewest honest words. -/
def Wording.plain : Wording where
  account _ l := Utf8.encode (AccountAnswer.codec.encode (Plain.account l)).render
  taken _ _ _ := Plain.taken
  refused _ _ _ := Plain.refused
  tells_account _ l _ :=
    ⟨_, Plain.ofAnswer_account l, Numeral.readDecimal_ofWord _, Numeral.readDecimal_ofWord _⟩
  tells_taken _ _ _ := ⟨_, _, Plain.ofAnswer_taken, rfl, rfl⟩
  tells_refused _ _ _ := ⟨_, Plain.ofAnswer_refused, by decide⟩

namespace Wording

variable (w : Wording) (b : Bridge) (time : Nat) (u : Http.Url) (l : Ledger)

/-- What a chain does with a question: the only one it answers is for the account. -/
def handleQuestion : Http.Reply × Ledger :=
  if (Http.Url.parse (b.url b.accountPath)).toOption = some u then
    (.answered .ok (w.account time l), l)
  else (.answered ⟨404⟩ [], l)

/-- What a chain does with what is posted: it takes a transaction in or refuses it. -/
def handlePosted (body : Bytes) : Http.Reply × Ledger :=
  if (Http.Url.parse (b.url "/txs")).toOption = some u then
    if Ledger.sequence? body = some l.sequence then
      (.answered .ok (w.taken time l body), l.take body)
    else (.answered .ok (w.refused time l body), l)
  else (.answered ⟨404⟩ [], l)

/-- What a chain does with a request. -/
def handle (request : Http.Request) : Http.Reply × Ledger :=
  match request.body with
  | none => w.handleQuestion b time request.url l
  | some body => w.handlePosted b time request.url l body

theorem toldAccount?_account (h : l.sequence < Nat.pow 2 64) :
    Bridge.toldAccount? (w.account time l) = some l.account := by
  obtain ⟨answer, hanswer, hnumber, hsequence⟩ := w.tells_account time l h
  rw [Bridge.toldAccount?, hanswer]
  simp only [Except.toOption, Option.bind_some, hnumber, hsequence, Ledger.account]

theorem toldId?_taken (body : Bytes) : (Bridge.toldId? (w.taken time l body)).isSome := by
  obtain ⟨answer, id, hanswer, hcode, hid⟩ := w.tells_taken time l body
  rw [Bridge.toldId?, hanswer]
  simp [Except.toOption, Bridge.acceptedId?, hcode, hid]

theorem toldId?_refused (body : Bytes) : Bridge.toldId? (w.refused time l body) = none := by
  obtain ⟨answer, hanswer, hcode⟩ := w.tells_refused time l body
  rw [Bridge.toldId?, hanswer]
  exact if_pos hcode

end Wording

/-! ## The line -/

/-- What comes instead of an answer. -/
inductive Loss
  /-- Nothing. -/
  | dropped
  /-- An answer that breaks off. -/
  | torn (status : Http.Status)
  /-- An answer that something on the way makes up. -/
  | replaced (status : { s : Http.Status // s ≠ .ok }) (body : Bytes)

/-- The reply that comes instead of an answer. -/
def Loss.reply : Loss → Http.Reply
  | dropped => .lost
  | torn status => .torn status
  | replaced status body => .answered status body

/-- No loss gives a body. -/
theorem Loss.body_reply (loss : Loss) : ∃ fault, loss.reply.body = .error fault := by
  cases loss with
  | dropped => exact ⟨_, rfl⟩
  | torn status => exact ⟨_, rfl⟩
  | replaced status body => exact ⟨_, if_neg status.2⟩

/-- What the line does to a request. -/
inductive Fate
  /-- The chain never gets it. -/
  | unreached (loss : Loss)
  /-- The chain gets it, but its answer is lost. -/
  | unheard (loss : Loss)
  /-- The chain gets it, and its answer arrives. -/
  | heard

/-- A chain behind a line. -/
structure Wire where
  /-- What the chain keeps. -/
  ledger : Ledger
  /-- How many requests there were. -/
  time : Nat

/-- What comes back over the line. -/
def Wording.serve (w : Wording) (b : Bridge) (fate : Nat → Fate) (request : Http.Request)
    (wire : Wire) : Http.Reply × Wire :=
  let (reply, ledger) := w.handle b wire.time wire.ledger request
  match fate wire.time with
  | .unreached loss => (loss.reply, ⟨wire.ledger, wire.time + 1⟩)
  | .unheard loss => (loss.reply, ⟨ledger, wire.time + 1⟩)
  | .heard => (reply, ⟨ledger, wire.time + 1⟩)

namespace Wording

variable (w : Wording) (b : Bridge) (fate : Nat → Fate) {u : Http.Url} {wire wire' : Wire}
  {reply : Http.Reply} {posted : Bytes}

/-- What comes back is a loss or what the chain answers; the chain has handled the
    request, or it has not. -/
theorem serve_cases {request : Http.Request} (h : w.serve b fate request wire = (reply, wire')) :
    (wire'.ledger = wire.ledger ∨
      wire'.ledger = (w.handle b wire.time wire.ledger request).2) ∧
      ∀ body, reply.body = .ok body → reply = (w.handle b wire.time wire.ledger request).1 ∧
        wire'.ledger = (w.handle b wire.time wire.ledger request).2 := by
  rw [serve] at h
  cases hfate : fate wire.time with
  | unreached loss =>
    rw [hfate] at h
    obtain ⟨rfl, rfl⟩ := Prod.mk.inj h
    obtain ⟨fault, hfault⟩ := loss.body_reply
    exact ⟨.inl rfl, fun body hbody => by rw [hfault] at hbody; cases hbody⟩
  | unheard loss =>
    rw [hfate] at h
    obtain ⟨rfl, rfl⟩ := Prod.mk.inj h
    obtain ⟨fault, hfault⟩ := loss.body_reply
    exact ⟨.inr rfl, fun body hbody => by rw [hfault] at hbody; cases hbody⟩
  | heard =>
    rw [hfate] at h
    obtain ⟨rfl, rfl⟩ := Prod.mk.inj h
    exact ⟨.inr rfl, fun body _ => ⟨rfl, rfl⟩⟩

/-- What is heard is what the chain answers. -/
theorem serve_heard (request : Http.Request) (h : fate wire.time = .heard) :
    w.serve b fate request wire =
      ((w.handle b wire.time wire.ledger request).1,
        ⟨(w.handle b wire.time wire.ledger request).2, wire.time + 1⟩) := by
  rw [serve, h]

/-- A question leaves the ledger as it is, and only the account is answered. -/
theorem serve_question (h : w.serve b fate ⟨u, none⟩ wire = (reply, wire')) :
    wire'.ledger = wire.ledger ∧
      ∀ body, reply.body = .ok body → ∃ time, body = w.account time wire.ledger := by
  obtain ⟨hledger, hreply⟩ := w.serve_cases b fate h
  simp only [handle] at hledger hreply
  rw [handleQuestion] at hledger hreply
  split_ifs at hledger hreply with hu
  · refine ⟨or_self_iff.1 hledger, fun body hbody => ⟨wire.time, ?_⟩⟩
    rw [(hreply body hbody).1, Http.Reply.body_answered_ok, Except.ok.injEq] at hbody
    exact hbody.symm
  · refine ⟨or_self_iff.1 hledger, fun body hbody => ?_⟩
    rw [(hreply body hbody).1] at hbody
    cases hbody

/-- What is posted is taken in, if it is for the next sequence number, or the ledger
    stays as it is; then a refusal is all that can be answered. -/
theorem serve_posted (h : w.serve b fate ⟨u, some posted⟩ wire = (reply, wire')) :
    (wire'.ledger = wire.ledger ∧
      ∀ body, reply.body = .ok body → ∃ time, body = w.refused time wire.ledger posted) ∨
    (Ledger.sequence? posted = some wire.ledger.sequence ∧
      wire'.ledger = wire.ledger.take posted) := by
  obtain ⟨hledger, hreply⟩ := w.serve_cases b fate h
  simp only [handle] at hledger hreply
  rw [handlePosted] at hledger hreply
  split_ifs at hledger hreply with hu hs
  · rcases hledger with hledger | hledger
    · -- An answer would be that of the chain, which has not handled the request.
      cases hbody : reply.body with
      | error fault => exact .inl ⟨hledger, fun body h => by cases h⟩
      | ok body => exact .inr ⟨hs, (hreply body hbody).2⟩
    · exact .inr ⟨hs, hledger⟩
  · refine .inl ⟨or_self_iff.1 hledger, fun body hbody => ⟨wire.time, ?_⟩⟩
    rw [(hreply body hbody).1, Http.Reply.body_answered_ok, Except.ok.injEq] at hbody
    exact hbody.symm
  · refine .inl ⟨or_self_iff.1 hledger, fun body hbody => ?_⟩
    rw [(hreply body hbody).1] at hbody
    cases hbody

/-- Asking again and again leaves the ledger as it is, and only the account is
    answered. -/
theorem fetched_question {result : Option Bytes}
    (h : Http.Fetched (w.serve b fate) ⟨u, none⟩ wire result wire') :
    wire'.ledger = wire.ledger ∧
      ∀ body, result = some body → ∃ time, body = w.account time wire.ledger := by
  induction h with
  | answered hserve hbody =>
    obtain ⟨hledger, hanswer⟩ := w.serve_question b fate hserve
    refine ⟨hledger, fun body h => ?_⟩
    cases h
    exact hanswer _ hbody
  | gaveUp hserve hbody =>
    exact ⟨(w.serve_question b fate hserve).1, fun body h => by cases h⟩
  | again hserve hbody rest ih =>
    have hledger := (w.serve_question b fate hserve).1
    rw [hledger] at ih
    exact ih

/-- Posting again and again takes in what is posted at most once: behind that its
    sequence number is not the next one any more. If it is not taken in, a refusal is
    all that is answered. -/
theorem fetched_posted {result : Option Bytes}
    (h : Http.Fetched (w.serve b fate) ⟨u, some posted⟩ wire result wire') :
    (wire'.ledger = wire.ledger ∧
      ∀ body, result = some body → ∃ time, body = w.refused time wire.ledger posted) ∨
    (Ledger.sequence? posted = some wire.ledger.sequence ∧
      wire'.ledger = wire.ledger.take posted) := by
  induction h with
  | answered hserve hbody =>
    rcases w.serve_posted b fate hserve with ⟨hledger, hanswer⟩ | htaken
    · refine .inl ⟨hledger, fun body h => ?_⟩
      cases h
      exact hanswer _ hbody
    · exact .inr htaken
  | gaveUp hserve hbody =>
    rcases w.serve_posted b fate hserve with ⟨hledger, hanswer⟩ | htaken
    · exact .inl ⟨hledger, fun body h => by cases h⟩
    · exact .inr htaken
  | again hserve hbody rest ih =>
    rcases w.serve_posted b fate hserve with ⟨hledger, hanswer⟩ | ⟨hsequence, hledger⟩
    · rw [hledger] at ih
      exact ih
    · -- It was taken in, so its sequence number is behind the one that is next now.
      rcases ih with ⟨hledger', hanswer⟩ | ⟨hagain, -⟩
      · exact .inr ⟨hsequence, hledger'.trans hledger⟩
      · rw [hsequence, hledger] at hagain
        exact absurd (Option.some.inj hagain) (by simp [Ledger.take])

/-- Asking for the account leaves the ledger as it is, and the account is all that
    can be told. -/
theorem fetched_account (isStopped : Bool) (wire : Wire) :
    (b.fetched (w.serve b fate) isStopped b.accountPath none wire).2.ledger = wire.ledger ∧
      ∀ body, (b.fetched (w.serve b fate) isStopped b.accountPath none wire).1 = some body →
        ∃ time, body = w.account time wire.ledger := by
  rw [Bridge.fetched]
  cases hu : Http.Url.parse (b.url b.accountPath) with
  | ok u => exact w.fetched_question b fate (Http.fetched_fetch _ none _ isStopped hu wire)
  | error fault =>
    obtain ⟨hresult, hwire⟩ :=
      Http.fetch_of_error (w.serve b fate) none b.settings.policy isStopped hu wire
    simp only
    rw [hresult, hwire]
    exact ⟨rfl, fun body h => by cases h⟩

/-- Posting a transaction takes it in at most once; if it is not taken in, a refusal
    is all that is answered. -/
theorem fetched_transaction (isStopped : Bool) (posted : Bytes) (wire : Wire) :
    ((b.fetched (w.serve b fate) isStopped "/txs" (some posted) wire).2.ledger = wire.ledger ∧
      ∀ body, (b.fetched (w.serve b fate) isStopped "/txs" (some posted) wire).1 = some body →
        ∃ time, body = w.refused time wire.ledger posted) ∨
    (Ledger.sequence? posted = some wire.ledger.sequence ∧
      (b.fetched (w.serve b fate) isStopped "/txs" (some posted) wire).2.ledger
        = wire.ledger.take posted) := by
  rw [Bridge.fetched]
  cases hu : Http.Url.parse (b.url "/txs") with
  | ok u => exact w.fetched_posted b fate (Http.fetched_fetch _ (some posted) _ isStopped hu wire)
  | error fault =>
    obtain ⟨hresult, hwire⟩ :=
      Http.fetch_of_error (w.serve b fate) (some posted) b.settings.policy isStopped hu wire
    simp only
    rw [hresult, hwire]
    exact .inl ⟨rfl, fun body h => by cases h⟩

/-- The account is answered, if nothing is lost. -/
theorem fetched_account_of_heard (hu : Http.Url.parse (b.url b.accountPath) = .ok u)
    (isStopped : Bool) (wire : Wire) (h : fate wire.time = .heard) :
    b.fetched (w.serve b fate) isStopped b.accountPath none wire
      = (some (w.account wire.time wire.ledger), ⟨wire.ledger, wire.time + 1⟩) := by
  have hhandle : w.handle b wire.time wire.ledger ⟨u, none⟩
      = (.answered .ok (w.account wire.time wire.ledger), wire.ledger) := by
    change w.handleQuestion b wire.time u wire.ledger = _
    rw [handleQuestion, hu]
    exact if_pos rfl
  have hserve := w.serve_heard b fate ⟨u, none⟩ h
  rw [hhandle] at hserve
  rw [Bridge.fetched, Http.fetch_of_answered _ none _ isStopped hu hserve
    (Http.Reply.body_answered_ok _)]
  rfl

/-- A transaction with the next sequence number is taken in, if nothing is lost. -/
theorem fetched_transaction_of_heard (hu : Http.Url.parse (b.url "/txs") = .ok u)
    (isStopped : Bool) (wire : Wire) (h : fate wire.time = .heard) {posted : Bytes}
    (hs : Ledger.sequence? posted = some wire.ledger.sequence) :
    b.fetched (w.serve b fate) isStopped "/txs" (some posted) wire
      = (some (w.taken wire.time wire.ledger posted),
        ⟨wire.ledger.take posted, wire.time + 1⟩) := by
  have hhandle : w.handle b wire.time wire.ledger ⟨u, some posted⟩
      = (.answered .ok (w.taken wire.time wire.ledger posted), wire.ledger.take posted) := by
    change w.handlePosted b wire.time u wire.ledger posted = _
    rw [handlePosted, hu, if_pos hs]
    exact if_pos rfl
  have hserve := w.serve_heard b fate ⟨u, some posted⟩ h
  rw [hhandle] at hserve
  rw [Bridge.fetched, Http.fetch_of_answered _ (some posted) _ isStopped hu hserve
    (Http.Reply.body_answered_ok _)]
  rfl

end Wording

end ChainRelay
