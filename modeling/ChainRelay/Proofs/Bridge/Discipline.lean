import ChainRelay.Proofs.Bridge.Agreement
import ChainRelay.Proofs.Document

/-!
# The discipline of sequence numbers

A server may answer whatever it likes, in words that make sense or not. A bridge asks
it for the account of the signer before the first broadcast and behind each that has
failed, and at no other time (`Bridge.Disciplined.asks`). What it posts is signed for
the account that it was told in the last answer to that question, and otherwise for
the one that was posted last, with the next sequence number. Behind a broadcast that
has come to an id it remembers the account for the next one, and behind one that has
failed none.

All of that is said of what the server sees, which is the trace of a broadcast
(`Bridge.exchanged`): questions for the account (`Bridge.asked`), and behind them the
signed transaction (`Bridge.posted`), from the text of which the account is read that
it is signed for (`Bridge.postedAccount?`).
-/

namespace ChainRelay.Bridge

open Http (Request Reply)

variable {σ : Type} (b : Bridge) (serve : Request → σ → Reply × σ) (tx : Envelope)
  (mode : BroadcastMode) (now : Scene σ)

/-! ## Traces -/

/-- What a broadcast sends, with the replies. -/
def exchanged : List (Request × Reply) :=
  ((b.broadcast tx mode).run now.session).trace serve now.server

/-- The questions of a broadcast. -/
def asked : List (Request × Reply) :=
  (b.exchanged serve tx mode now).filter fun exchanged => exchanged.1.body.isNone

/-- What a broadcast posts. -/
def posted : List (Request × Reply) :=
  (b.exchanged serve tx mode now).filter fun exchanged => exchanged.1.body.isSome

/-- The account that a transaction is signed for, if it can be read from what is posted. -/
def postedAccount? (body : Bytes) : Option Account :=
  let numbers (name : String) : Codec (List UInt64) :=
    .only "tx" <| .only "signatures" <| .list <| .only name .decimal
  match (numbers "account_number").ofAnswer body, (numbers "sequence").ofAnswer body with
  | .ok [number], .ok [sequence] => some ⟨number, sequence⟩
  | _, _ => none

theorem postedAccount?_broadcastBody (account : Account) :
    postedAccount? (b.broadcastBody tx mode account) = some account := by
  rw [postedAccount?, b.ofAnswer_broadcastBody tx mode account Signature.decode_number,
    b.ofAnswer_broadcastBody tx mode account Signature.decode_sequence]
  rfl

/-- The requests of fetching a path, with the replies. -/
def fetchTrace (isStopped : Bool) (path : String) (body : Option Bytes) (server : σ) :
    List (Request × Reply) :=
  (Http.fetch b.settings.policy isStopped (b.url path) body).trace serve server

/-- A path is fetched by one request, again and again, if its URL can be used. -/
theorem fetchTrace_cases (isStopped : Bool) (path : String) (body : Option Bytes) (server : σ) :
    (∃ u, Http.Url.parse (b.url path) = .ok u ∧
      Http.Repeats ⟨u, body⟩ (b.fetched serve isStopped path body server).1
        (b.fetchTrace serve isStopped path body server)) ∨
    (¬ ∃ u, Http.Url.parse (b.url path) = .ok u) ∧
      (b.fetched serve isStopped path body server).1 = none ∧
      b.fetchTrace serve isStopped path body server = [] := by
  cases hu : Http.Url.parse (b.url path) with
  | ok u => exact .inl ⟨u, rfl, Http.repeats_fetch serve body _ isStopped hu server⟩
  | error fault =>
    exact .inr ⟨nofun, (Http.fetch_of_error serve body _ isStopped hu server).1,
      Http.trace_fetch_of_error serve body _ isStopped hu server⟩

/-- Every request of a fetch goes to its path. -/
theorem request_of_mem_fetchTrace {isStopped : Bool} {path : String} {body : Option Bytes}
    {server : σ} {e : Request × Reply} (h : e ∈ b.fetchTrace serve isStopped path body server) :
    Http.Url.parse (b.url path) = .ok e.1.url ∧ e.1.body = body := by
  obtain ⟨u, hu, hrepeats⟩ | ⟨-, -, hnil⟩ := b.fetchTrace_cases serve isStopped path body server
  · rw [hrepeats.sent e h]
    exact ⟨hu, rfl⟩
  · exact absurd (hnil ▸ h) List.not_mem_nil

/-- The requests for the account, with the replies. -/
def questions : List (Request × Reply) :=
  match now.session.account with
  | some _ => []
  | none => b.fetchTrace serve now.session.isStopped b.accountPath none now.server

/-- The requests with the transaction, with the replies. -/
def posts : List (Request × Reply) :=
  match b.learned serve now with
  | (none, _) => []
  | (some account, server) =>
    b.fetchTrace serve now.session.isStopped "/txs" (some (b.broadcastBody tx mode account)) server

theorem fetched_recorded (isStopped : Bool) (path : String) (body : Option Bytes) (server : σ)
    (record : List (Request × Reply)) :
    b.fetched (Http.recorded serve) isStopped path body (server, record) =
      ((b.fetched serve isStopped path body server).1,
        ((b.fetched serve isStopped path body server).2,
          record ++ b.fetchTrace serve isStopped path body server)) := by
  rw [fetched, Http.run_recorded]
  rfl

theorem learned_recorded :
    b.learned (Http.recorded serve) ⟨now.session, (now.server, [])⟩ =
      ((b.learned serve now).1, ((b.learned serve now).2, b.questions serve now)) := by
  rw [learned, learned, questions]
  cases now.session.account with
  | some account => rfl
  | none =>
    simp only [fetched_recorded]
    rfl

/-- A broadcast asks its questions, and then posts. -/
theorem exchanged_eq :
    b.exchanged serve tx mode now = b.questions serve now ++ b.posts serve tx mode now := by
  have hserver := (b.concludes_broadcast (Http.recorded serve) ⟨now.session, (now.server, [])⟩ tx
    mode).2.1
  rw [Call.play, Http.run_recorded, sent, learned_recorded] at hserver
  have hrecord := congrArg Prod.snd hserver
  rw [posts]
  rcases hlearned : b.learned serve now with ⟨_ | account, server⟩
  · rw [hlearned] at hrecord
    exact hrecord.trans (List.append_nil _).symm
  · rw [hlearned] at hrecord
    simp only [fetched_recorded] at hrecord
    exact hrecord

theorem body_of_mem_questions {e : Request × Reply} (h : e ∈ b.questions serve now) :
    Http.Url.parse (b.url b.accountPath) = .ok e.1.url ∧ e.1.body = none := by
  rw [questions] at h
  cases haccount : now.session.account with
  | some account =>
    rw [haccount] at h
    exact absurd h List.not_mem_nil
  | none =>
    rw [haccount] at h
    exact b.request_of_mem_fetchTrace serve h

/-- What is posted is signed for the account that was learned. -/
theorem body_of_mem_posts {e : Request × Reply} (h : e ∈ b.posts serve tx mode now) :
    Http.Url.parse (b.url "/txs") = .ok e.1.url ∧
      ∃ account, (b.learned serve now).1 = some account ∧
        e.1.body = some (b.broadcastBody tx mode account) := by
  rw [posts] at h
  rcases hlearned : b.learned serve now with ⟨_ | account, server⟩
  · rw [hlearned] at h
    exact absurd h List.not_mem_nil
  · rw [hlearned] at h
    obtain ⟨hurl, hbody⟩ := b.request_of_mem_fetchTrace serve h
    exact ⟨hurl, account, rfl, hbody⟩

theorem asked_eq : b.asked serve tx mode now = b.questions serve now := by
  rw [asked, exchanged_eq, List.filter_append, List.filter_eq_self.2, List.filter_eq_nil_iff.2,
    List.append_nil]
  · intro e he
    obtain ⟨-, account, -, hbody⟩ := b.body_of_mem_posts serve tx mode now he
    simp [hbody]
  · intro e he
    simp [(b.body_of_mem_questions serve now he).2]

theorem posted_eq : b.posted serve tx mode now = b.posts serve tx mode now := by
  rw [posted, exchanged_eq, List.filter_append, List.filter_eq_nil_iff.2, List.filter_eq_self.2,
    List.nil_append]
  · intro e he
    obtain ⟨-, account, -, hbody⟩ := b.body_of_mem_posts serve tx mode now he
    simp [hbody]
  · intro e he
    simp [(b.body_of_mem_questions serve now he).2]

/-! ## One broadcast -/

/-- What is posted is signed for an account, and something is. -/
def SignedFor (posted : List (Request × Reply)) (account : Account) : Prop :=
  posted ≠ [] ∧ ∀ e ∈ posted, e.1.body.bind postedAccount? = some account

/-- Questions are asked if no account is remembered, as far as there is where to ask. -/
theorem asked_ne_nil : b.asked serve tx mode now ≠ [] ↔
    (∃ u, Http.Url.parse (b.url b.accountPath) = .ok u) ∧ now.session.account = none := by
  rw [asked_eq, questions]
  cases now.session.account with
  | some account => simp
  | none =>
    obtain ⟨u, hu, hrepeats⟩ | ⟨hu, -, hnil⟩ :=
      b.fetchTrace_cases serve now.session.isStopped b.accountPath none now.server
    · simp [hu, hrepeats.ne_nil]
    · simp [hu, hnil]

/-- If questions are asked, what is learned is what the last answer tells. -/
theorem learned_of_asked (h : b.asked serve tx mode now ≠ []) :
    (b.learned serve now).1 = (b.asked serve tx mode now).getLast?.bind fun e =>
      e.2.body.toOption.bind toldAccount? := by
  obtain ⟨⟨u, hu⟩, hnone⟩ := (b.asked_ne_nil serve tx mode now).1 h
  rw [asked_eq, questions, learned, hnone]
  obtain ⟨_, _, hrepeats⟩ | ⟨hu', -⟩ :=
    b.fetchTrace_cases serve now.session.isStopped b.accountPath none now.server
  · simp only
    rw [← hrepeats.result, Option.bind_assoc]
  · exact absurd ⟨u, hu⟩ hu'

theorem learned_of_mem_posted {e : Request × Reply} (h : e ∈ b.posted serve tx mode now) :
    (b.learned serve now).1 = e.1.body.bind postedAccount? := by
  obtain ⟨-, account, hlearned, hbody⟩ := b.body_of_mem_posts serve tx mode now (posted_eq .. ▸ h)
  rw [hlearned, hbody, Option.bind_some, postedAccount?_broadcastBody]

/-- What is posted is signed for one account. -/
theorem SignedFor.unique {posted : List (Request × Reply)} {account account' : Account}
    (h : SignedFor posted account) (h' : SignedFor posted account') : account = account' := by
  obtain ⟨e, he⟩ := List.exists_mem_of_ne_nil _ h.1
  exact Option.some.inj ((h.2 e he).symm.trans (h'.2 e he))

/-- A transaction that is accepted was posted, signed for the account that is known of it. -/
theorem signedFor_of_sent {id : TxId} {account : Account}
    (h : (b.sent serve tx mode now).1 = some (id, account)) :
    SignedFor (b.posted serve tx mode now) account := by
  rw [sent] at h
  rcases hlearned : b.learned serve now with ⟨_ | learnt, server⟩
  · simp [hlearned] at h
  · rw [hlearned] at h
    obtain ⟨id', hid, heq⟩ := Option.map_eq_some_iff.1 h
    obtain ⟨body, hbody, -⟩ := Option.bind_eq_some_iff.1 hid
    obtain rfl := (Prod.mk.inj heq).2
    refine ⟨?_, fun e he => ?_⟩
    · -- The id is in the answer to something that was posted.
      rw [posted_eq, posts, hlearned]
      obtain ⟨_, _, hrepeats⟩ | ⟨-, hnone, -⟩ := b.fetchTrace_cases serve now.session.isStopped
        "/txs" (some (b.broadcastBody tx mode learnt)) server
      · exact hrepeats.ne_nil
      · exact absurd (hbody.symm.trans hnone) (Option.some_ne_none _)
    · rw [← b.learned_of_mem_posted serve tx mode now he, hlearned]

/-- What a broadcast comes to, and what is remembered behind it. A breakdown leaves the
    account that was used. -/
theorem remembered : ((∃ id, ((b.broadcast tx mode).play serve now).1 = .ok id) ↔
      ∃ account, SignedFor (b.posted serve tx mode now) account ∧
        ((b.broadcast tx mode).play serve now).2.session.account =
          some { account with sequence := account.sequence + 1 }) ∧
    ((∃ e, ((b.broadcast tx mode).play serve now).1 = .error e) ↔
      ((b.broadcast tx mode).play serve now).2.session.account = none) ∧
    ∀ next, ((b.broadcast tx mode).play serve now).2.session.account = some next →
      ∃ account, SignedFor (b.posted serve tx mode now) account ∧
        next.number = account.number ∧
        (account.sequence.toNat < 2 ^ 64 - 1 →
          next.sequence.toNat = account.sequence.toNat + 1) := by
  obtain ⟨hend, -, -⟩ := b.concludes_broadcast serve now tx mode
  generalize ((b.broadcast tx mode).play serve now).1 = ending at hend ⊢
  generalize ((b.broadcast tx mode).play serve now).2.session.account = kept at hend ⊢
  cases hsent : (b.sent serve tx mode now).1 with
  | none =>
    rw [hsent] at hend
    cases hend with
    | failed e => simp
  | some result =>
    obtain ⟨id, account⟩ := result
    have hsigned := b.signedFor_of_sent serve tx mode now hsent
    rw [hsent] at hend
    cases hend with
    | @accepted _ _ next hnext =>
      refine ⟨⟨fun _ => ⟨account, hsigned, ?_⟩, fun _ => ⟨id, rfl⟩⟩, ⟨nofun, nofun⟩, ?_⟩
      · rw [(Account.next?_eq_some_iff.1 hnext).2]
      · rintro _ ⟨⟩
        obtain ⟨-, rfl⟩ := Account.next?_eq_some_iff.1 hnext
        exact ⟨account, hsigned, rfl, fun _ => Account.toNat_sequence_next? hnext⟩
    | spent _ hnone =>
      have hlast := Account.next?_eq_none_iff.1 hnone
      refine ⟨⟨nofun, ?_⟩, ⟨nofun, nofun⟩, ?_⟩
      · rintro ⟨other, hother, hsame⟩
        obtain rfl := hsigned.unique hother
        -- No sequence number is its own successor.
        have hsequence := congrArg Account.sequence (Option.some.inj hsame)
        simp at hsequence
      · rintro _ ⟨⟩
        refine ⟨account, hsigned, rfl, fun hlt => absurd hlast ?_⟩
        rw [UInt64.size]
        omega

/-! ## Broadcasts one after the other -/

/-- Whether the last of some broadcasts has failed. -/
def LastFailed (done : List (Envelope × BroadcastMode)) (start : Scene σ) : Prop :=
  ∃ earlier tx mode e, done = earlier ++ [(tx, mode)] ∧
    ((b.broadcast tx mode).play serve (b.broadcasts serve earlier start)).1 = .error e

theorem lastFailed_concat {earlier : List (Envelope × BroadcastMode)} {start : Scene σ} :
    b.LastFailed serve (earlier ++ [(tx, mode)]) start ↔
      ∃ e, ((b.broadcast tx mode).play serve (b.broadcasts serve earlier start)).1 = .error e := by
  constructor
  · rintro ⟨earlier', tx', mode', e, hdone, he⟩
    obtain ⟨rfl, hlast⟩ := List.append_inj' hdone rfl
    obtain ⟨rfl, rfl⟩ := Prod.mk.inj (List.singleton_inj.1 hlast)
    exact ⟨e, he⟩
  · rintro ⟨e, he⟩
    exact ⟨earlier, tx, mode, e, rfl, he⟩

/-- What is seen of a broadcast behind others that began with no account known. -/
structure Disciplined (done : List (Envelope × BroadcastMode)) (start : Scene σ)
    (now : Scene σ) : Prop where
  /-- Questions come before what is posted. -/
  order : b.exchanged serve tx mode now = b.asked serve tx mode now ++ b.posted serve tx mode now
  asked_url : ∀ e ∈ b.asked serve tx mode now, Http.Url.parse (b.url b.accountPath) = .ok e.1.url
  posted_url : ∀ e ∈ b.posted serve tx mode now, Http.Url.parse (b.url "/txs") = .ok e.1.url
  /-- Questions are asked by the first broadcast, and behind one that has failed, and then
      only, as far as there is where to ask. -/
  asks : b.asked serve tx mode now ≠ [] ↔
    (∃ u, Http.Url.parse (b.url b.accountPath) = .ok u) ∧
      (done = [] ∨ b.LastFailed serve done start)
  /-- Behind questions, what is posted is signed for the account that the last answer
      tells. -/
  fresh : b.asked serve tx mode now ≠ [] → b.posted serve tx mode now ≠ [] →
    ∃ account, SignedFor (b.posted serve tx mode now) account ∧
      (b.asked serve tx mode now).getLast?.bind (fun e => e.2.body.toOption.bind toldAccount?) =
        some account
  /-- Without questions, what is posted is signed for the account of what was posted before,
      with the next sequence number. -/
  counted : b.asked serve tx mode now = [] → b.posted serve tx mode now ≠ [] →
    ∃ earlier tx' mode' account next, done = earlier ++ [(tx', mode')] ∧
      SignedFor (b.posted serve tx' mode' (b.broadcasts serve earlier start)) account ∧
      SignedFor (b.posted serve tx mode now) next ∧ next.number = account.number ∧
      (account.sequence.toNat < 2 ^ 64 - 1 → next.sequence.toNat = account.sequence.toNat + 1)
  /-- The account is remembered, with the next sequence number, behind a broadcast that has
      come to an id. -/
  kept : (∃ id, ((b.broadcast tx mode).play serve now).1 = .ok id) ↔
    ∃ account, SignedFor (b.posted serve tx mode now) account ∧
      ((b.broadcast tx mode).play serve now).2.session.account =
        some { account with sequence := account.sequence + 1 }
  /-- No account is remembered behind a broadcast that has failed. -/
  forgotten : (∃ e, ((b.broadcast tx mode).play serve now).1 = .error e) ↔
    ((b.broadcast tx mode).play serve now).2.session.account = none

/-- An account is remembered behind broadcasts unless there were none, or the last one has
    failed; it is that of what was posted last, with the next sequence number, if there is
    one. -/
theorem account_broadcasts {start : Scene σ} (hstart : start.session.account = none)
    (done : List (Envelope × BroadcastMode)) :
    ((b.broadcasts serve done start).session.account = none ↔
      done = [] ∨ b.LastFailed serve done start) ∧
    ∀ next, (b.broadcasts serve done start).session.account = some next →
      ∃ earlier tx mode account, done = earlier ++ [(tx, mode)] ∧
        SignedFor (b.posted serve tx mode (b.broadcasts serve earlier start)) account ∧
        next.number = account.number ∧
        (account.sequence.toNat < 2 ^ 64 - 1 →
          next.sequence.toNat = account.sequence.toNat + 1) := by
  rcases List.eq_nil_or_concat done with rfl | ⟨earlier, ⟨tx, mode⟩, rfl⟩
  · exact ⟨iff_of_true hstart (.inl rfl), fun next h => absurd (hstart.symm.trans h) nofun⟩
  · rw [List.concat_eq_append, broadcasts_append, lastFailed_concat]
    obtain ⟨-, hforgotten, hkept⟩ :=
      b.remembered serve tx mode (b.broadcasts serve earlier start)
    refine ⟨hforgotten.symm.trans (or_iff_right (by simp)).symm, fun next hnext => ?_⟩
    obtain ⟨account, hsigned, hfollows⟩ := hkept next hnext
    exact ⟨earlier, tx, mode, account, rfl, hsigned, hfollows⟩

/-- What is posted is signed for the account that was learned. -/
theorem signedFor_of_posted (h : b.posted serve tx mode now ≠ []) :
    ∃ account, (b.learned serve now).1 = some account ∧
      SignedFor (b.posted serve tx mode now) account := by
  obtain ⟨e, he⟩ := List.exists_mem_of_ne_nil _ h
  obtain ⟨-, account, hlearned, -⟩ := b.body_of_mem_posts serve tx mode now (posted_eq .. ▸ he)
  refine ⟨account, hlearned, h, fun e' he' => ?_⟩
  rw [← b.learned_of_mem_posted serve tx mode now he', hlearned]

/-- What is learned without questions was remembered. -/
theorem account_of_not_asked (h : b.asked serve tx mode now = []) {account : Account}
    (hlearned : (b.learned serve now).1 = some account) : now.session.account = some account := by
  rw [learned] at hlearned
  cases haccount : now.session.account with
  | some remembered =>
    rw [haccount] at hlearned
    exact hlearned
  | none =>
    rw [haccount] at hlearned
    obtain ⟨u, hu, -⟩ | ⟨-, hnone, -⟩ :=
      b.fetchTrace_cases serve now.session.isStopped b.accountPath none now.server
    · exact absurd h ((b.asked_ne_nil serve tx mode now).2 ⟨⟨u, hu⟩, haccount⟩)
    · simp [hnone] at hlearned

/-- Whatever the server answers, broadcasts one after the other ask for the account only
    where they must, and sign with one sequence number after the other. -/
theorem disciplined {start : Scene σ} (hstart : start.session.account = none)
    (done : List (Envelope × BroadcastMode)) :
    b.Disciplined serve tx mode done start (b.broadcasts serve done start) := by
  obtain ⟨hnone, hsome⟩ := b.account_broadcasts serve hstart done
  obtain ⟨hkept, hforgotten, -⟩ := b.remembered serve tx mode (b.broadcasts serve done start)
  exact {
    order := by rw [exchanged_eq, asked_eq, posted_eq]
    asked_url := fun e he => (b.body_of_mem_questions serve _ (asked_eq .. ▸ he)).1
    posted_url := fun e he => (b.body_of_mem_posts serve tx mode _ (posted_eq .. ▸ he)).1
    asks := by rw [asked_ne_nil, hnone]
    fresh := fun hasked hposted => by
      obtain ⟨account, hlearned, hsigned⟩ := b.signedFor_of_posted serve tx mode _ hposted
      exact ⟨account, hsigned, (b.learned_of_asked serve tx mode _ hasked).symm.trans hlearned⟩
    counted := fun hasked hposted => by
      obtain ⟨next, hlearned, hsigned⟩ := b.signedFor_of_posted serve tx mode _ hposted
      obtain ⟨earlier, tx', mode', account, hdone, hbefore, hfollows⟩ :=
        hsome next (b.account_of_not_asked serve tx mode _ hasked hlearned)
      exact ⟨earlier, tx', mode', account, next, hdone, hbefore, hsigned, hfollows⟩
    kept := hkept
    forgotten := hforgotten }

/-! ## A node that refuses a transaction -/

theorem learned_of_account {account : Account} (h : now.session.account = some account) :
    b.learned serve now = (some account, now.server) := by
  rw [learned, h]

/-- What is learned from the next reply, if that has to be asked for. -/
theorem learned_scripted {now : Scene (List Reply)} (h : now.session.account = none)
    {u : Http.Url} (hu : Http.Url.parse (b.url b.accountPath) = .ok u) {body : Bytes}
    {rest : List Reply} (hserver : now.server = .answered .ok body :: rest) :
    b.learned Http.scripted now = (toldAccount? body, rest) := by
  rw [learned, h, fetched, hserver, Http.fetch_of_answered _ none _ _ hu rfl
    (Http.Reply.body_answered_ok body)]
  rfl

/-- The next reply but that decides what becomes of a transaction. -/
theorem concludes_scripted {now : Scene (List Reply)} {account : Account} {body : Bytes}
    {rest : List Reply}
    (hlearned : b.learned Http.scripted now = (some account, .answered .ok body :: rest))
    {v : Http.Url} (hv : Http.Url.parse (b.url "/txs") = .ok v) :
    SignedFor (b.posted Http.scripted tx mode now) account ∧
      Concludes ((toldId? body).map fun id => (id, account))
        ((b.broadcast tx mode).play Http.scripted now).1
        ((b.broadcast tx mode).play Http.scripted now).2.session.account ∧
      ((b.broadcast tx mode).play Http.scripted now).2.server = rest := by
  have hsent : b.sent Http.scripted tx mode now
      = ((toldId? body).map fun id => (id, account), rest) := by
    rw [sent, hlearned]
    simp only
    rw [fetched, Http.fetch_of_answered _ (some _) _ _ hv rfl (Http.Reply.body_answered_ok body)]
    rfl
  obtain ⟨hend, hserver, -⟩ := b.concludes_broadcast Http.scripted now tx mode
  rw [hsent] at hend hserver
  refine ⟨?_, hend, hserver⟩
  have hposted : b.posted Http.scripted tx mode now ≠ [] := by
    rw [posted_eq, posts, hlearned]
    obtain ⟨_, _, hrepeats⟩ | ⟨hnowhere, -⟩ := b.fetchTrace_cases Http.scripted
      now.session.isStopped "/txs" (some (b.broadcastBody tx mode account))
      (.answered .ok body :: rest)
    · exact hrepeats.ne_nil
    · exact absurd ⟨v, hv⟩ hnowhere
  obtain ⟨learnt, hlearnt, hsigned⟩ := b.signedFor_of_posted Http.scripted tx mode now hposted
  rw [hlearned] at hlearnt
  obtain rfl := Option.some.inj hlearnt
  exact hsigned

/-- A transaction is taken in, and the account for the next one is known. -/
theorem accepted_scripted {now : Scene (List Reply)} {account next : Account} {rest : List Reply}
    (hlearned : b.learned Http.scripted now
      = (some account, .answered .ok Wording.Plain.taken :: rest))
    {v : Http.Url} (hv : Http.Url.parse (b.url "/txs") = .ok v)
    (hnext : account.next? = some next) :
    SignedFor (b.posted Http.scripted tx mode now) account ∧
      ((b.broadcast tx mode).play Http.scripted now).1 = .ok ⟨"0A"⟩ ∧
      ((b.broadcast tx mode).play Http.scripted now).2.session.account = some next ∧
      b.learned Http.scripted ((b.broadcast tx mode).play Http.scripted now).2
        = (some next, rest) := by
  have htaken : toldId? Wording.Plain.taken = some ⟨"0A"⟩ := by
    rw [toldId?, Wording.Plain.ofAnswer_taken]
    rfl
  obtain ⟨hsigned, hend, hserver⟩ := b.concludes_scripted tx mode hlearned hv
  rw [htaken] at hend
  obtain ⟨hok, hheld⟩ := hend.of_next? hnext
  exact ⟨hsigned, hok, hheld, by rw [b.learned_of_account Http.scripted _ hheld, hserver]⟩

/-- A transaction is refused, and no account is known. -/
theorem refused_scripted {now : Scene (List Reply)} {account : Account} {rest : List Reply}
    (hlearned : b.learned Http.scripted now
      = (some account, .answered .ok Wording.Plain.refused :: rest))
    {v : Http.Url} (hv : Http.Url.parse (b.url "/txs") = .ok v) :
    SignedFor (b.posted Http.scripted tx mode now) account ∧
      (∃ e, ((b.broadcast tx mode).play Http.scripted now).1 = .error e) ∧
      ((b.broadcast tx mode).play Http.scripted now).2.session.account = none ∧
      ((b.broadcast tx mode).play Http.scripted now).2.server = rest := by
  have hrefused : toldId? Wording.Plain.refused = none :=
    Wording.plain.toldId?_refused 0 ⟨4, 0, []⟩ []
  obtain ⟨hsigned, hend, hserver⟩ := b.concludes_scripted tx mode hlearned hv
  rw [hrefused] at hend
  generalize ((b.broadcast tx mode).play Http.scripted now).1 = ending at hend ⊢
  generalize ((b.broadcast tx mode).play Http.scripted now).2.session.account = kept at hend ⊢
  cases hend with
  | failed e => exact ⟨hsigned, ⟨e, rfl⟩, rfl, hserver⟩

/-- The replies of a node that takes in two transactions, refuses the third one and takes in
    another, and tells the account where it is asked for. -/
def withRefusal : List Reply :=
  let account (sequence : Nat) := Wording.plain.account 0 ⟨4, sequence, []⟩
  [account 7, Wording.Plain.taken, Wording.Plain.taken, Wording.Plain.refused, account 9,
    Wording.Plain.taken].map (.answered .ok)

/-- The account is asked for before the first of four broadcasts and behind the third one,
    which fails. The sequence numbers go up from what is told then. -/
theorem disciplined_around_refusal :
    let start : Scene (List Reply) := ⟨.start, withRefusal⟩
    let done (n : Nat) := List.replicate n (Envelope.roundFailed, BroadcastMode.checked)
    let now (n : Nat) := plain.broadcasts Http.scripted (done n) start
    let posted (n : Nat) := plain.posted Http.scripted .roundFailed .checked (now n)
    let asked (n : Nat) := plain.asked Http.scripted .roundFailed .checked (now n)
    let ending (n : Nat) := ((plain.broadcast .roundFailed .checked).play Http.scripted (now n)).1
    start.session.account = none ∧
    (∀ n, plain.Disciplined Http.scripted .roundFailed .checked (done n) start (now n)) ∧
    (SignedFor (posted 0) ⟨4, 7⟩ ∧ SignedFor (posted 1) ⟨4, 8⟩ ∧ SignedFor (posted 2) ⟨4, 9⟩ ∧
      SignedFor (posted 3) ⟨4, 9⟩) ∧
    (asked 0 ≠ [] ∧ asked 1 = [] ∧ asked 2 = [] ∧ asked 3 ≠ []) ∧
    (ending 0 = .ok ⟨"0A"⟩ ∧ ending 1 = .ok ⟨"0A"⟩ ∧ (∃ e, ending 2 = .error e) ∧
      ending 3 = .ok ⟨"0A"⟩) := by
  intro start done now posted asked ending
  have hstart : start.session.account = none := rfl
  obtain ⟨u, hu⟩ := exists_accountUrl_plain
  have hposted : (Http.Url.parse (plain.url "/txs")).toOption.isSome := by decide +kernel
  obtain ⟨v, hv⟩ := Option.isSome_iff_exists.1 hposted
  have hv := ok_of_toOption hv
  have hnext (n : Nat) : now (n + 1)
      = ((plain.broadcast .roundFailed .checked).play Http.scripted (now n)).2 := by
    simp only [now, done, List.replicate_succ', broadcasts_append]
    rfl
  have htold (sequence : Nat) (h : sequence < Nat.pow 2 64) :
      toldAccount? (Wording.plain.account 0 ⟨4, sequence, []⟩) = some ⟨4, .ofNat sequence⟩ :=
    Wording.plain.toldAccount?_account 0 ⟨4, sequence, []⟩ h
  -- Each broadcast leaves the account and the replies for the next one.
  have hnow₀ : (now 0).session.account = none := hstart
  have hlearned₀ := plain.learned_scripted hnow₀ hu rfl
  rw [htold 7 (by decide)] at hlearned₀
  obtain ⟨hsigned₀, hok₀, hheld₁, hlearned₁⟩ :=
    plain.accepted_scripted .roundFailed .checked hlearned₀ hv rfl
  rw [← hnext] at hheld₁ hlearned₁
  obtain ⟨hsigned₁, hok₁, hheld₂, hlearned₂⟩ :=
    plain.accepted_scripted .roundFailed .checked hlearned₁ hv rfl
  rw [← hnext] at hheld₂ hlearned₂
  obtain ⟨hsigned₂, hfailed₂, hforgotten₃, hserver₃⟩ :=
    plain.refused_scripted .roundFailed .checked hlearned₂ hv
  rw [← hnext] at hforgotten₃ hserver₃
  have hlearned₃ := plain.learned_scripted hforgotten₃ hu hserver₃
  rw [htold 9 (by decide)] at hlearned₃
  obtain ⟨hsigned₃, hok₃, -, -⟩ :=
    plain.accepted_scripted .roundFailed .checked hlearned₃ hv rfl
  have hasked (n : Nat) : asked n = [] ↔ (now n).session.account ≠ none := by
    rw [← not_iff_not, not_not]
    exact (plain.asked_ne_nil Http.scripted .roundFailed .checked (now n)).trans
      (and_iff_right ⟨u, hu⟩)
  refine ⟨hstart, fun n => plain.disciplined _ _ _ hstart (done n),
    ⟨hsigned₀, hsigned₁, hsigned₂, hsigned₃⟩, ⟨?_, ?_, ?_, ?_⟩, hok₀, hok₁, hfailed₂, hok₃⟩
  · exact mt (hasked 0).1 (not_not.2 hstart)
  · exact (hasked 1).2 (by rw [hheld₁]; exact Option.some_ne_none _)
  · exact (hasked 2).2 (by rw [hheld₂]; exact Option.some_ne_none _)
  · exact mt (hasked 3).1 (not_not.2 hforgotten₃)

end ChainRelay.Bridge
