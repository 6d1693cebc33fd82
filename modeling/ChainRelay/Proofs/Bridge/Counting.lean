import ChainRelay.Bridge.Broadcast
import ChainRelay.Bridge.Query
import ChainRelay.Proofs.Bridge.Agreement
import ChainRelay.Proofs.Measurement

/-!
# Which failures of a bridge are counted

A call counts a failure before it returns it, so that whoever watches the counts sees each
failure. One lemma for each way to make a call says how the count of failures
(`Session.clientErrors`) goes on: a success leaves it as it was, a failure that is counted
raises it, and a failure that is overlooked leaves it as it was too (`Call.Tallies`), as does
a breakdown, which is returned to nobody.

What is overlooked is known of every operation (`Bridge.Operation.Overlooks`): that an
observed transaction has no direction, that there is no event, that the node may not send
transactions, and that THORChain takes a transaction in but tells no id of it. These
failures leave no trace (`Bridge.Operation.missing_event_uncounted`); all others are counted
(`Bridge.Operation.counts_unless_overlooked`).
-/

namespace ChainRelay

/-! ## Counting in calls -/

/-- It is known what has led to a failure. -/
def Failure.IsTraced (f : Failure) : Prop := f.behind ≠ []

namespace Session

/-- How many failures to talk to THORChain have been counted, under all labels. -/
def clientErrors (s : Session) : Nat := Measurement.clientErrors s.log

variable {s s' : Session}

theorem clientErrors_eq_of_log (h : s'.log = s.log) : s'.clientErrors = s.clientErrors := by
  rw [clientErrors, h, clientErrors]

theorem clientErrors_append (s : Session) (m : Measurement) :
    clientErrors { s with log := s.log ++ [m] }
      = s.clientErrors + if m.isBridgeTrouble then 1 else 0 := by
  rw [clientErrors, clientErrors, Measurement.clientErrors_eq_countP, List.countP_append,
    List.countP_singleton, Measurement.clientErrors_eq_countP]

end Session

/-- How the count of failures has gone on when a call comes to its end: a failure is counted
    or overlooked, and nothing else is counted. -/
def Tally {α : Type} (isCounted isOverlooked : Failure → Prop) (before after : Session) :
    Ending α → Prop
  | .ok _ | .broken _ => after.clientErrors = before.clientErrors
  | .error failure =>
    (before.clientErrors < after.clientErrors ∧ isCounted failure) ∨
      (after.clientErrors = before.clientErrors ∧ isOverlooked failure)

namespace Tally

variable {α : Type} {isCounted isCounted' isOverlooked isOverlooked' : Failure → Prop}
  {before before' after : Session} {ending : Ending α}

theorem imp (h : Tally isCounted isOverlooked before after ending)
    (hcounted : ∀ f, isCounted f → isCounted' f)
    (hoverlooked : ∀ f, isOverlooked f → isOverlooked' f) :
    Tally isCounted' isOverlooked' before after ending := by
  cases ending with
  | ok _ | broken _ => exact h
  | error f => exact h.imp (And.imp_right (hcounted f)) (And.imp_right (hoverlooked f))

/-- What has counted no failure may come before. -/
theorem of_eq (h : Tally isCounted isOverlooked before' after ending)
    (hsame : before'.clientErrors = before.clientErrors) :
    Tally isCounted isOverlooked before after ending := by
  cases ending with
  | ok _ | broken _ => exact Eq.trans h hsame
  | error f =>
    rw [Tally, hsame] at h
    exact h

end Tally

namespace Call

variable {α β σ : Type} {serve : Http.Request → σ → Http.Reply × σ}
  {isCounted isCounted' isOverlooked isOverlooked' : Failure → Prop}

/-- Wherever a call is carried out, it counts failures of one kind and overlooks those of
    another, and it fails in no other way. -/
def Tallies (serve : Http.Request → σ → Http.Reply × σ) (isCounted isOverlooked : Failure → Prop)
    (call : Call α) : Prop :=
  ∀ now, Tally isCounted isOverlooked now.session (call.play serve now).2.session
    (call.play serve now).1

/-- A call counts all its failures, which are of some kind. -/
def CountsAll (serve : Http.Request → σ → Http.Reply × σ) (isCounted : Failure → Prop)
    (call : Call α) : Prop :=
  call.Tallies serve isCounted fun _ => False

theorem play_count (now : Scene σ) (m : Measurement) :
    (count m).play serve now
      = (.ok (), { now with session.log := now.session.log ++ [m] }) := rfl

theorem play_fail (now : Scene σ) (trouble : BridgeTrouble) (f : Failure) :
    (fail trouble f : Call α).play serve now
      = (.error f, { now with session.log := now.session.log ++ [.bridgeTrouble trouble] }) := rfl

theorem lt_clientErrors_fail (serve : Http.Request → σ → Http.Reply × σ) (now : Scene σ)
    (trouble : BridgeTrouble) (f : Failure) :
    now.session.clientErrors
      < ((fail trouble f : Call α).play serve now).2.session.clientErrors := by
  rw [play_fail]
  exact Nat.lt_of_lt_of_eq (Nat.lt_succ_self _)
    (now.session.clientErrors_append (.bridgeTrouble trouble)).symm

namespace Tallies

theorem imp {call : Call α} (h : call.Tallies serve isCounted isOverlooked)
    (hcounted : ∀ f, isCounted f → isCounted' f)
    (hoverlooked : ∀ f, isOverlooked f → isOverlooked' f) :
    call.Tallies serve isCounted' isOverlooked' :=
  fun now => (h now).imp hcounted hoverlooked

theorem pure (a : α) : (Pure.pure a : Call α).Tallies serve isCounted isOverlooked :=
  fun _ => rfl

theorem ofGet : (get : Call Session).Tallies serve isCounted isOverlooked :=
  fun _ => rfl

theorem exchange (x : Http.Exchange α) :
    (Call.exchange x).Tallies serve isCounted isOverlooked := by
  intro now
  rw [play_exchange]
  rfl

/-- Changing the session counts no failure, as long as the log is kept. -/
theorem ofModify {change : Session → Session} (h : ∀ s, (change s).log = s.log) :
    (modify change : Call Unit).Tallies serve isCounted isOverlooked :=
  fun now => Session.clientErrors_eq_of_log (h now.session)

theorem count {m : Measurement} (hm : m.isBridgeTrouble = false) :
    (Call.count m).Tallies serve isCounted isOverlooked := by
  intro now
  rw [play_count]
  exact (now.session.clientErrors_append m).trans (by rw [hm]; rfl)

theorem fail (trouble : BridgeTrouble) {f : Failure} (hf : isCounted f) :
    (Call.fail trouble f : Call α).Tallies serve isCounted isOverlooked :=
  fun now => .inl ⟨lt_clientErrors_fail serve now trouble f, hf⟩

theorem ofThrow {f : Failure} (hf : isOverlooked f) :
    (throw f : Call α).Tallies serve isCounted isOverlooked :=
  fun _ => .inr ⟨rfl, hf⟩

theorem ofOutcome {outcome : Outcome α} (h : ∀ f, outcome = .error f → isOverlooked f) :
    (Call.ofOutcome outcome).Tallies serve isCounted isOverlooked := by
  rcases outcome with f | a
  · exact .ofThrow (h f rfl)
  · exact .pure a

/-- Breaking off counts nothing. -/
theorem breakOff (why : Breakdown) :
    (Call.breakOff why : Call α).Tallies serve isCounted isOverlooked :=
  fun _ => rfl

theorem bind {call : Call α} {next : α → Call β}
    (h : call.Tallies serve isCounted isOverlooked)
    (hnext : ∀ a, (next a).Tallies serve isCounted isOverlooked) :
    (call >>= next).Tallies serve isCounted isOverlooked := by
  intro now
  have htally := h now
  rw [play_bind]
  generalize call.play serve now = played at htally ⊢
  rcases played with ⟨a | f | why, middle⟩
  · exact (hnext a middle).of_eq htally
  · exact htally
  · exact htally

/-- A failure may be passed on behind a change of the session, as long as the log is kept. -/
theorem rethrow {call : Call α} {change : Session → Session} (hchange : ∀ s, (change s).log = s.log)
    (h : call.Tallies serve isCounted isOverlooked) :
    (tryCatch call fun f => do modify change; throw f).Tallies serve isCounted isOverlooked := by
  intro now
  have htally := h now
  rw [play_tryCatch]
  generalize call.play serve now = played at htally ⊢
  rcases played with ⟨a | f | why, after⟩
  · exact htally
  · have hsame := Session.clientErrors_eq_of_log (hchange after.session)
    exact Or.imp (And.imp_left hsame.trans_gt) (And.imp_left hsame.trans) htally
  · exact htally

end Tallies

namespace CountsAll

variable {call : Call α}

theorem tallies (h : call.CountsAll serve isCounted) (hcounted : ∀ f, isCounted f → isCounted' f) :
    call.Tallies serve isCounted' isOverlooked :=
  h.imp hcounted fun _ => False.elim

theorem within (context : String) (h : call.CountsAll serve isCounted) :
    (within context call).CountsAll serve Failure.IsTraced := by
  intro now
  have htally := h now
  rw [play_within]
  generalize call.play serve now = played at htally ⊢
  rcases played with ⟨a | f | why, after⟩
  · exact htally
  · exact Or.imp_left (And.imp_right fun _ => List.cons_ne_nil _ _) htally
  · exact htally

theorem orCount (trouble : BridgeTrouble) (h : call.CountsAll serve isCounted) :
    (call.orCount trouble).CountsAll serve isCounted := by
  intro now
  have htally := h now
  rw [Call.orCount, play_tryCatch]
  generalize call.play serve now = played at htally ⊢
  rcases played with ⟨a | f | why, after⟩
  · exact htally
  · obtain ⟨hmore, hf⟩ | ⟨-, hnever⟩ := htally
    · exact .inl ⟨hmore.trans (lt_clientErrors_fail serve after trouble f), hf⟩
    · exact hnever.elim
  · exact htally

end CountsAll

end Call

/-! ## What the parts of operations count -/

namespace Bridge

variable {σ : Type} (b : Bridge) (serve : Http.Request → σ → Http.Reply × σ)

theorem countsAll_fetch (trouble : BridgeTrouble) (path : String) (body : Option Bytes) :
    (b.fetch trouble path body).CountsAll serve fun _ => True := by
  refine .bind .ofGet fun session => .bind (.exchange _) fun answer => ?_
  rcases answer with fault | bytes
  · exact .fail _ trivial
  · exact .pure bytes

theorem countsAll_ask (path : String) : (b.ask path).CountsAll serve Failure.IsTraced :=
  (b.countsAll_fetch serve _ path none).within _

theorem countsAll_post (path : String) (body : Bytes) :
    (b.post path body).CountsAll serve Failure.IsTraced :=
  (b.countsAll_fetch serve _ path (some body)).within _

theorem countsAll_readAnswer {α : Type} (c : Codec α) (trouble : BridgeTrouble) (body : Bytes) :
    (readAnswer c trouble body).CountsAll serve Failure.IsTraced := by
  rw [readAnswer]
  rcases c.ofAnswer body with e | x
  · exact .fail _ (List.cons_ne_nil _ _)
  · exact .pure x

/-- A failure to learn the account: there was no answer that could be read, or a text in it
    is no number. -/
def IsOfAccount (f : Failure) : Prop :=
  f.IsTraced ∨ ∃ what, f = .message ("failed to parse " ++ what)

theorem countsAll_readNumber (trouble : BridgeTrouble) (name raw : String) :
    (readNumber trouble name raw).CountsAll serve IsOfAccount := by
  rw [readNumber]
  rcases Numeral.readDecimal raw with fault | n
  · refine .fail _ (.inr ⟨name ++ (" number (" ++ (raw ++ ("): " ++ fault.message))), ?_⟩)
    simp only [String.append_assoc]
  · exact .pure n

theorem countsAll_account : b.account.CountsAll serve IsOfAccount := by
  have htraced : ∀ f, Failure.IsTraced f → IsOfAccount f := fun _ => .inl
  refine .bind (((b.countsAll_ask serve _).within _).tallies htraced) fun body => ?_
  refine .bind ((countsAll_readAnswer serve _ _ body).tallies htraced) fun answer => ?_
  refine .bind (countsAll_readNumber serve _ _ answer.number) fun number => ?_
  exact .bind (countsAll_readNumber serve _ _ answer.sequence) fun sequence => .pure _

theorem countsAll_nextAccount : b.nextAccount.CountsAll serve IsOfAccount := by
  refine .bind .ofGet fun session => ?_
  rcases session.account with _ | account
  · refine .bind (b.countsAll_account serve) fun account => ?_
    exact .bind (.ofModify fun _ => rfl) fun _ => .pure account
  · exact .pure account

/-- A failure to submit a transaction: it could not be signed or posted, or was refused. -/
def IsOfSubmission (f : Failure) : Prop :=
  IsOfAccount f ∨ ∃ code log, f = .of (.broadcastRejected code log)

/-- A transaction was taken in, but what THORChain tells as its hash is no id. -/
def LacksId (f : Failure) : Prop :=
  ∃ hash fault, TxId.parse hash = .error fault ∧ f = .message fault.message

theorem not_lacksId_of_isOfSubmission {f : Failure} (h : IsOfSubmission f) : ¬LacksId f := by
  rintro ⟨hash, fault, -, rfl⟩
  obtain (htraced | ⟨what, hwhat⟩) | ⟨code, log, hrefused⟩ := h
  · exact htraced rfl
  · -- The one text begins with an `f`, and the other with a `t`.
    have htext := congrArg String.toList (Cause.message.inj (Failure.mk.inj hwhat).1)
    cases fault <;> simp [TxId.Fault.message] at htext
  · exact absurd hrefused nofun

theorem tallies_accepted (answer : BroadcastAnswer) :
    (accepted answer).Tallies serve IsOfSubmission LacksId := by
  rw [accepted]
  split_ifs with hcode
  · exact .fail _ (.inr ⟨_, _, rfl⟩)
  · refine .ofOutcome fun f hf => ?_
    rcases hparse : TxId.parse answer.hash with fault | id
    · rw [hparse] at hf
      exact ⟨_, fault, hparse, (Except.error.inj hf).symm⟩
    · rw [hparse] at hf
      cases hf

theorem tallies_keepNext (account : Account) :
    (keepNext account).Tallies serve IsOfSubmission LacksId := by
  rw [keepNext]
  cases account.next? with
  | some next => exact .ofModify fun _ => rfl
  | none => exact .breakOff _

theorem tallies_broadcast (tx : Envelope) (mode : BroadcastMode) :
    (b.broadcast tx mode).Tallies serve IsOfSubmission LacksId := by
  refine .rethrow (fun _ => rfl) ?_
  have htraced : ∀ f, Failure.IsTraced f → IsOfSubmission f := fun _ hf => .inl (.inl hf)
  refine .bind ((b.countsAll_nextAccount serve).tallies fun _ => .inl) fun account => ?_
  refine .bind (((b.countsAll_post serve _ _).orCount _).tallies htraced) fun body => ?_
  refine .bind ((countsAll_readAnswer serve _ _ body).tallies htraced) fun answer => ?_
  refine .bind (tallies_accepted serve answer) fun id => ?_
  exact .bind (tallies_keepNext serve account) fun _ => .pure id

theorem tallies_observations (observed : List Observation) :
    (b.observations observed).Tallies serve
      (fun f => observed = [] ∧ f = .of .nothingToSign)
      fun f => Sorted.ofObservations observed = .error f := by
  rw [observations]
  split_ifs with hempty
  · exact .fail _ ⟨List.isEmpty_iff.1 hempty, rfl⟩
  · refine .bind (.count rfl) fun _ => ?_
    exact .bind (.ofOutcome fun _ => id) fun sorted => .pure _

theorem countsAll_nodeAccount (address : Address) :
    (b.nodeAccount address).CountsAll serve Failure.IsTraced :=
  .bind (b.countsAll_ask serve _) fun body => countsAll_readAnswer serve _ _ body

theorem countsAll_keysignParty (vault : PublicKey) :
    (b.keysignParty vault).CountsAll serve Failure.IsTraced :=
  .bind ((b.countsAll_ask serve _).within _) fun body => countsAll_readAnswer serve _ _ body

theorem countsAll_lastBlock : b.lastBlock.CountsAll serve Failure.IsTraced := by
  refine .bind (b.countsAll_ask serve _) fun body => ?_
  exact .bind (countsAll_readAnswer serve _ _ body) fun answer => .pure answer.height

theorem tallies_ensureWhitelisted :
    b.ensureWhitelisted.Tallies serve Failure.IsTraced
      fun f => ∃ status, f = .of (.notWhitelisted status) := by
  have hasked := (b.countsAll_nodeAccount serve b.signer.address).within
    "failed to get node account"
  refine .bind (hasked.tallies fun _ => id) fun account => ?_
  split_ifs with hwhitelisted
  · exact .pure ()
  · exact .ofThrow ⟨_, rfl⟩

theorem tallies_event (id : TxId) :
    (b.event id).Tallies serve Failure.IsTraced fun f => f = .of (.eventNotFound id) := by
  have hasked := (b.countsAll_ask serve ("/thorchain/events/tx/" ++ id.text)).within
    "fail to get event"
  refine .bind (hasked.tallies fun _ hf => hf) fun body => ?_
  have hread := countsAll_readAnswer serve (.list Event.codec) .eventUnreadable body
  refine .bind (hread.tallies fun _ hf => hf) fun events => ?_
  rcases events with _ | ⟨event, rest⟩
  · exact .ofThrow rfl
  · exact .pure event

/-- If THORChain knows no event of a transaction, the question for one fails, and nothing
    is counted. -/
theorem play_event_of_nil {id : TxId} {u : Http.Url} {now : Scene σ} {body : Bytes} {server : σ}
    (hu : Http.Url.parse (b.url ("/thorchain/events/tx/" ++ id.text)) = .ok u)
    (hserve : serve ⟨u, none⟩ now.server = (.answered .ok body, server))
    (hbody : (Codec.list Event.codec).ofAnswer body = .ok []) :
    (b.event id).play serve now = (.error (.of (.eventNotFound id)), ⟨now.session, server⟩) := by
  rw [event, Call.play_bind, Call.play_within, b.play_ask_of_answered serve now hu hserve]
  simp only [Ending.mapError]
  rw [Call.play_bind, readAnswer, hbody]
  rfl

/-! ## What operations count -/

/-- What a bridge can be asked to do. -/
inductive Operation
  /-- Ask for the account of the signer. -/
  | account
  /-- Build the report of what was observed. -/
  | observations (observed : List Observation)
  /-- Sign a transaction and submit it. -/
  | broadcast (tx : Envelope) (mode : BroadcastMode)
  /-- Report that the signing of a transaction has failed. -/
  | postKeysignFailure (height : UInt64) (blame : Blame) (memo : String) (coins : List Coin)
  /-- Make sure that this node may send transactions. -/
  | ensureWhitelisted
  /-- Ask how a node stands. -/
  | nodeAccount (address : Address)
  /-- Ask who signs for a vault. -/
  | keysignParty (vault : PublicKey)
  /-- Ask for the first event of a transaction. -/
  | event (id : TxId)
  /-- Ask for the height of the newest block. -/
  | lastBlock

namespace Operation

/-- What an operation comes to if it succeeds. -/
def Answer : Operation → Type
  | account => Account
  | observations _ => Envelope
  | broadcast .. | postKeysignFailure .. => TxId
  | ensureWhitelisted => Unit
  | nodeAccount _ => NodeAccount
  | keysignParty _ => List PublicKey
  | event _ => Event
  | lastBlock => UInt64

/-- The call that carries an operation out. -/
def call (b : Bridge) : (op : Operation) → Call op.Answer
  | account => b.account
  | observations observed => b.observations observed
  | broadcast tx mode => b.broadcast tx mode
  | postKeysignFailure height blame memo coins => b.postKeysignFailure height blame memo coins
  | ensureWhitelisted => b.ensureWhitelisted
  | nodeAccount address => b.nodeAccount address
  | keysignParty vault => b.keysignParty vault
  | event id => b.event id
  | lastBlock => b.lastBlock

/-- The failures that an operation returns without having counted them. -/
def Overlooks : Operation → Failure → Prop
  | observations observed => fun f => Sorted.ofObservations observed = .error f
  | broadcast .. | postKeysignFailure .. => LacksId
  | ensureWhitelisted => fun f => ∃ status, f = .of (.notWhitelisted status)
  | event id => fun f => f = .of (.eventNotFound id)
  | account | nodeAccount _ | keysignParty _ | lastBlock => fun _ => False

theorem tallies (op : Operation) :
    (op.call b).Tallies serve (fun f => ¬op.Overlooks f) op.Overlooks := by
  have hnever {α : Type} {call : Call α} {kind : Failure → Prop} (h : call.CountsAll serve kind) :
      call.CountsAll serve fun _ => ¬False :=
    h.imp (fun _ _ => not_false) fun _ => id
  cases op with
  | account => exact hnever (b.countsAll_account serve)
  | observations observed =>
    refine (b.tallies_observations serve observed).imp (fun f hf hsorted => ?_) fun _ => id
    obtain ⟨rfl, -⟩ := hf
    exact absurd hsorted nofun
  | broadcast tx mode =>
    exact (b.tallies_broadcast serve tx mode).imp (fun _ => not_lacksId_of_isOfSubmission)
      fun _ => id
  | postKeysignFailure height blame memo coins =>
    have hreport : (b.keysignFailure height blame memo coins).Tallies serve IsOfSubmission LacksId :=
      .bind (.count rfl) fun _ => .pure _
    have hpost := hreport.bind fun tx => b.tallies_broadcast serve tx .checked
    exact hpost.imp (fun _ => not_lacksId_of_isOfSubmission) fun _ => id
  | ensureWhitelisted =>
    refine (b.tallies_ensureWhitelisted serve).imp (fun f htraced hf => ?_) fun _ => id
    obtain ⟨status, rfl⟩ := hf
    exact htraced rfl
  | nodeAccount address => exact hnever (b.countsAll_nodeAccount serve address)
  | keysignParty vault => exact hnever (b.countsAll_keysignParty serve vault)
  | event id =>
    refine (b.tallies_event serve id).imp (fun f htraced hf => ?_) fun _ hf => hf
    subst hf
    exact htraced rfl
  | lastBlock => exact hnever (b.countsAll_lastBlock serve)

/-- Whatever an operation fails with has been counted, unless it is one of the failures that
    the operation overlooks; those, successes and breakdowns leave the count as it was. -/
theorem counts_unless_overlooked (op : Operation) (now : Scene σ) :
    match (op.call b).play serve now with
    | (.ok _, next) | (.broken _, next) =>
      next.session.clientErrors = now.session.clientErrors
    | (.error failure, next) =>
      (now.session.clientErrors < next.session.clientErrors ∧ ¬op.Overlooks failure) ∨
        (next.session.clientErrors = now.session.clientErrors ∧ op.Overlooks failure) := by
  have htally := op.tallies b serve now
  generalize (op.call b).play serve now = played at htally ⊢
  rcases played with ⟨answer | failure | why, after⟩
  · exact htally
  · exact htally
  · exact htally

/-- THORChain knows no event of a transaction: the question for one fails, and the count of
    failures is what it was. -/
theorem missing_event_uncounted :
    ∃ next, ((event ⟨"AB"⟩).call plain).play Http.scripted
        ⟨.start, [.answered .ok (Utf8.encode "[]")]⟩
          = (.error (.of (.eventNotFound ⟨"AB"⟩)), next) ∧
      ¬Session.start.clientErrors < next.session.clientErrors := by
  have hurl : (Http.Url.parse (plain.url ("/thorchain/events/tx/" ++ "AB"))).toOption.isSome := by
    decide +kernel
  rcases hu : Http.Url.parse (plain.url ("/thorchain/events/tx/" ++ "AB")) with fault | u
  · rw [hu] at hurl
    exact absurd hurl nofun
  · exact ⟨_, plain.play_event_of_nil Http.scripted hu rfl rfl, Nat.lt_irrefl _⟩

end Operation

end Bridge

end ChainRelay
