import ChainRelay.Bridge.Broadcast
import ChainRelay.Proofs.Bridge.Calls
import ChainRelay.Proofs.Http.Retry

/-!
# What a broadcast does

A broadcast sends at most two fetches: the question for the account, unless the
session knows it, and the signed transaction (`Bridge.sent`). All else is reading
the answers. It comes to an id if all goes well; then the session knows the account
for the next transaction, and if anything fails it knows none. A transaction that is
accepted for the greatest sequence number makes the broadcast break off
(`Bridge.Concludes`, `Bridge.concludes_broadcast`).
-/

namespace ChainRelay

/-! ## Fetching and reading -/

namespace Bridge

variable {σ : Type} (b : Bridge) (serve : Http.Request → σ → Http.Reply × σ) (now : Scene σ)

/-- The body that fetching a path comes to, if any, and the state in which it
    leaves the server. -/
def fetched (isStopped : Bool) (path : String) (body : Option Bytes) (server : σ) :
    Option Bytes × σ :=
  let result := (Http.fetch b.settings.policy isStopped (b.url path) body).run serve server
  (result.1.toOption, result.2)

theorem play_fetch (trouble : BridgeTrouble) (path : String) (body : Option Bytes) :
    (b.fetch trouble path body).play serve now =
      match (Http.fetch b.settings.policy now.session.isStopped (b.url path) body).run serve
        now.server with
      | (.ok answer, server) => (.ok answer, ⟨now.session, server⟩)
      | (.error fault, server) =>
        (Call.fail (fetchTrouble trouble fault.last) fault.failure).play serve
          ⟨now.session, server⟩ := by
  rw [fetch, Call.play_bind, Call.play_get]
  simp only
  rw [Call.play_bind, Call.play_exchange]
  simp only
  rcases (Http.fetch b.settings.policy now.session.isStopped (b.url path) body).run serve
    now.server with ⟨fault | answer, server⟩
  · rfl
  · rfl

theorem gives_fetch (trouble : BridgeTrouble) (path : String) (body : Option Bytes) :
    (b.fetch trouble path body).Gives serve now
      (b.fetched serve now.session.isStopped path body now.server).1
      (b.fetched serve now.session.isStopped path body now.server).2 := by
  have hplay := b.play_fetch serve now trouble path body
  rw [fetched]
  rcases hfetch : (Http.fetch b.settings.policy now.session.isStopped (b.url path) body).run serve
    now.server with ⟨fault | answer, server⟩
  · rw [hfetch] at hplay
    exact .of_play hplay (.error _) ⟨rfl, rfl, rfl⟩
  · rw [hfetch] at hplay
    exact .of_play hplay (.ok answer) ⟨rfl, rfl, rfl⟩

theorem gives_ask (path : String) :
    (b.ask path).Gives serve now
      (b.fetched serve now.session.isStopped path none now.server).1
      (b.fetched serve now.session.isStopped path none now.server).2 :=
  (b.gives_fetch serve now _ path none).within _

/-- What is asked is learned from the first answer. -/
theorem play_ask_of_answered {path : String} {u : Http.Url} {body : Bytes} {server : σ}
    (hu : Http.Url.parse (b.url path) = .ok u)
    (hserve : serve ⟨u, none⟩ now.server = (.answered .ok body, server)) :
    (b.ask path).play serve now = (.ok body, ⟨now.session, server⟩) := by
  rw [ask, Call.play_within, play_fetch,
    Http.fetch_of_answered serve none _ _ hu hserve (Http.Reply.body_answered_ok body)]
  rfl

theorem gives_post (path : String) (body : Bytes) :
    (b.post path body).Gives serve now
      (b.fetched serve now.session.isStopped path (some body) now.server).1
      (b.fetched serve now.session.isStopped path (some body) now.server).2 :=
  (b.gives_fetch serve now _ path (some body)).within _

theorem decides_readAnswer {α : Type} (c : Codec α) (trouble : BridgeTrouble) (body : Bytes) :
    (readAnswer c trouble body).Decides serve (c.ofAnswer body).toOption := by
  rw [readAnswer]
  cases c.ofAnswer body with
  | ok x => exact .pure x
  | error e => exact .fail _ _

theorem decides_readNumber (trouble : BridgeTrouble) (name raw : String) :
    (readNumber trouble name raw).Decides serve (Numeral.readDecimal raw).toOption := by
  rw [readNumber]
  cases Numeral.readDecimal raw with
  | ok n => exact .pure n
  | error fault => exact .fail _ _

/-- The id in an answer to a transaction, if it was taken in. -/
def acceptedId? (answer : BroadcastAnswer) : Option TxId :=
  if answer.code ≠ 0 then none else (TxId.parse answer.hash).toOption

theorem decides_accepted (answer : BroadcastAnswer) :
    (accepted answer).Decides serve (acceptedId? answer) := by
  rw [accepted, acceptedId?]
  split_ifs with hc
  · exact .fail _ _
  · rw [← Call.toOption_mapError]
    exact .ofOutcome _

/-! ## Submitting -/

/-- The account that an answer to the question for it tells. -/
def toldAccount? (body : Bytes) : Option Account :=
  (AccountAnswer.codec.ofAnswer body).toOption.bind fun answer =>
    (Numeral.readDecimal answer.number).toOption.bind fun number =>
      (Numeral.readDecimal answer.sequence).toOption.bind fun sequence => some ⟨number, sequence⟩

/-- The id that an answer to a posted transaction tells, if it was taken in. -/
def toldId? (body : Bytes) : Option TxId :=
  (BroadcastAnswer.codec.ofAnswer body).toOption.bind acceptedId?

/-- Where the account of the signer is asked for. -/
def accountPath : String := "/auth/accounts/" ++ b.signer.address.text

theorem gives_account :
    b.account.Gives serve now
      ((b.fetched serve now.session.isStopped b.accountPath none now.server).1.bind toldAccount?)
      (b.fetched serve now.session.isStopped b.accountPath none now.server).2 := by
  refine ((b.gives_ask serve now b.accountPath).within _).bind fun body => ?_
  refine (decides_readAnswer serve _ _ body).bind fun answer => ?_
  refine (decides_readNumber serve _ _ answer.number).bind fun number => ?_
  exact (decides_readNumber serve _ _ answer.sequence).bind fun sequence => .pure _

/-- The account that a transaction is signed for, if it is known, and the state in
    which asking for it leaves the server. -/
def learned (now : Scene σ) : Option Account × σ :=
  match now.session.account with
  | some account => (some account, now.server)
  | none =>
    let told := b.fetched serve now.session.isStopped b.accountPath none now.server
    (told.1.bind toldAccount?, told.2)

/-- What becomes of a transaction: its id with the account that it was signed for, if all
    goes well, and the state in which that leaves the server. -/
def sent (tx : Envelope) (mode : BroadcastMode) (now : Scene σ) :
    Option (TxId × Account) × σ :=
  match b.learned serve now with
  | (none, server) => (none, server)
  | (some account, server) =>
    let told := b.fetched serve now.session.isStopped "/txs"
      (some (b.broadcastBody tx mode account)) server
    ((told.1.bind toldId?).map fun id => (id, account), told.2)

/-- Learning the account keeps it. -/
theorem play_nextAccount :
    ∃ ending next, b.nextAccount.play serve now = (ending, next) ∧
      ending.Tells (b.learned serve now).1 ∧ next.server = (b.learned serve now).2 ∧
      next.session.isStopped = now.session.isStopped ∧
      next.session.account = (b.learned serve now).1 := by
  rw [nextAccount, Call.play_bind, Call.play_get, learned]
  simp only
  cases haccount : now.session.account with
  | some account => exact ⟨_, _, rfl, .ok account, rfl, rfl, haccount⟩
  | none =>
    simp only
    rw [Call.play_bind]
    rcases (b.gives_account serve now).cases
      with ⟨e, next, hr, hplay, hc⟩ | ⟨account, next, hr, hplay, hc⟩
    · rw [hplay]
      exact ⟨_, _, rfl, hr ▸ .error e, hc.server, hc.isStopped,
        (hc.account.trans haccount).trans hr.symm⟩
    · rw [hplay]
      simp only
      rw [Call.play_bind, Call.play_modify]
      exact ⟨_, _, rfl, hr ▸ .ok account, hc.server, hc.isStopped, hr.symm⟩

/-! ## How a broadcast ends -/

/-- How a broadcast ends by what becomes of its transaction, and the account that is
    remembered then. -/
inductive Concludes : Option (TxId × Account) → Ending TxId → Option Account → Prop
  /-- If anything fails, no account is. -/
  | failed (e : Failure) : Concludes none (.error e) none
  /-- If the transaction is accepted, the account for the next one is. -/
  | accepted (id : TxId) {account next : Account} (h : account.next? = some next) :
    Concludes (some (id, account)) (.ok id) (some next)
  /-- If there is no next one, the account is remembered as it was used. -/
  | spent (id : TxId) {account : Account} (h : account.next? = none) :
    Concludes (some (id, account)) (.broken .lastSequence) (some account)

theorem Concludes.of_next? {id : TxId} {account next : Account} {ending : Ending TxId}
    {kept : Option Account} (h : Concludes (some (id, account)) ending kept)
    (hnext : account.next? = some next) : ending = .ok id ∧ kept = some next := by
  cases h with
  | accepted _ hsome => exact ⟨rfl, hsome.symm.trans hnext⟩
  | spent _ hnone => cases hnone.symm.trans hnext

theorem Concludes.of_last {id : TxId} {account : Account} {ending : Ending TxId}
    {kept : Option Account} (h : Concludes (some (id, account)) ending kept)
    (hnone : account.next? = none) : ending = .broken .lastSequence ∧ kept = some account := by
  cases h with
  | accepted _ hsome => cases hsome.symm.trans hnone
  | spent _ _ => exact ⟨rfl, rfl⟩

theorem play_keepNext (account : Account) :
    (keepNext account).play serve now =
      match account.next? with
      | some next => (.ok (), { now with session.account := some next })
      | none => (.broken .lastSequence, now) := by
  rw [keepNext]
  cases account.next? <;> rfl

/-- What is posted for an account that is remembered is accepted if the answer tells an id,
    and submitting it fails otherwise. -/
theorem play_post (tx : Envelope) (mode : BroadcastMode) {account : Account}
    (haccount : now.session.account = some account) :
    let told := b.fetched serve now.session.isStopped "/txs"
      (some (b.broadcastBody tx mode account)) now.server
    ∃ ending next,
      (do
        let body ← (b.post "/txs" (b.broadcastBody tx mode account)).orCount .broadcast
        let answer ← readAnswer BroadcastAnswer.codec .broadcastUnreadable body
        let id ← accepted answer
        keepNext account
        return id : Call TxId).play serve now = (ending, next) ∧
      next.server = told.2 ∧ next.session.isStopped = now.session.isStopped ∧
      ((∃ e, ending = .error e ∧ told.1.bind toldId? = none) ∨
        ∃ id, told.1.bind toldId? = some id ∧
          Concludes (some (id, account)) ending next.session.account) := by
  intro told
  -- Each call before the last may fail; only if none does is the account moved on.
  have hpost := (b.gives_post serve now "/txs" (b.broadcastBody tx mode account)).orCount .broadcast
  rcases hpost.cases_bind _ with ⟨e, next, hr, hplay, hc⟩ | ⟨body, next, hr, hplay, hc⟩
  · refine ⟨_, _, hplay, hc.server, hc.isStopped, .inl ⟨e, rfl, ?_⟩⟩
    rw [show told.1 = none from hr]
    rfl
  rw [hplay, show told.1 = some body from hr, Option.bind_some, toldId?]
  have hanswer := decides_readAnswer serve BroadcastAnswer.codec .broadcastUnreadable body
  rcases (hanswer next).cases_bind _
    with ⟨e, next', hr', hplay', hc'⟩ | ⟨answer, next', hr', hplay', hc'⟩
  · have hc' := hc.trans hc'
    refine ⟨_, _, hplay', hc'.server.trans hc.server, hc'.isStopped, .inl ⟨e, rfl, ?_⟩⟩
    rw [hr']
    rfl
  have hc := hc.trans (hc.server ▸ hc')
  rw [hplay', hr', Option.bind_some]
  rcases (decides_accepted serve answer next').cases_bind _
    with ⟨e, next'', hr'', hplay'', hc''⟩ | ⟨id, next'', hr'', hplay'', hc''⟩
  · have hc'' := hc.trans hc''
    exact ⟨_, _, hplay'', hc''.server.trans hc.server, hc''.isStopped, .inl ⟨e, rfl, hr''⟩⟩
  have hc := hc.trans (hc.server ▸ hc'')
  rw [hplay'', hr'', Call.play_bind, play_keepNext]
  cases hnext : account.next? with
  | some following =>
    exact ⟨_, _, rfl, hc.server, hc.isStopped, .inr ⟨id, rfl, .accepted id hnext⟩⟩
  | none =>
    refine ⟨_, _, rfl, hc.server, hc.isStopped, .inr ⟨id, rfl, ?_⟩⟩
    rw [hc.account.trans haccount]
    exact .spent id hnext

/-- A broadcast ends by what becomes of its transaction. -/
theorem concludes_broadcast (tx : Envelope) (mode : BroadcastMode) :
    Concludes (b.sent serve tx mode now).1 ((b.broadcast tx mode).play serve now).1
        ((b.broadcast tx mode).play serve now).2.session.account ∧
      ((b.broadcast tx mode).play serve now).2.server = (b.sent serve tx mode now).2 ∧
      ((b.broadcast tx mode).play serve now).2.session.isStopped = now.session.isStopped := by
  obtain ⟨learnt, there, hplay, hr, hs, hstop, haccount⟩ := b.play_nextAccount serve now
  rw [broadcast, Call.play_tryCatch, submit, Call.play_bind, hplay, sent]
  rcases hl : b.learned serve now with ⟨_ | account, server⟩
  · -- Without an account nothing is posted, and what was remembered is forgotten.
    rw [hl] at hr hs
    cases hr with
    | error e => exact ⟨.failed e, hs, hstop⟩
  · rw [hl] at hr hs haccount
    cases hr with
    | ok =>
      obtain ⟨ending, next, hplay', hs', hstop', hend⟩ :=
        b.play_post serve there tx mode haccount
      simp only
      rw [hplay']
      rw [hstop, show there.server = server from hs] at hs' hend
      rcases hend with ⟨e, rfl, hnone⟩ | ⟨id, hsome, hend⟩
      · rw [hnone]
        exact ⟨.failed e, hs', hstop'.trans hstop⟩
      · rw [hsome, Option.map_some]
        cases ending with
        | ok _ | broken _ => exact ⟨hend, hs', hstop'.trans hstop⟩
        | error _ => cases hend

end Bridge

end ChainRelay
