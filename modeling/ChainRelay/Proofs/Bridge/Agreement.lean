import ChainRelay.Proofs.Bridge.Ledger
import Mathlib.Data.List.Nodup
import Mathlib.Data.List.Range

/-!
# A bridge never drifts from the chain

Behind every broadcast the bridge remembers either no account or the one that an
honest chain keeps (`Scene.Agrees`), whatever the line between them has lost. A
transaction is posted again with the same sequence number, so the chain takes it in
at most once (`Bridge.Result`); if the answer to that is lost, what is posted again
is refused, the broadcast fails and the bridge forgets the account. A broadcast
thus comes to an id only if the first answer that it gets is that its transaction
was taken in, and then both sides have gone one sequence number further.

The numbers of what the chain has taken in are those from the first one on, each
once (`Ledger.Sound`). Both are kept by every broadcast, and so by any number of
them (`Bridge.agrees_after`, `Bridge.never_drifts`). On a line that loses
nothing, every broadcast has its transaction accepted (`Bridge.sent_of_heard`).
-/

namespace ChainRelay

/-! ## One broadcast -/

/-- The bridge remembers no account, or the one that the chain keeps. -/
def Scene.Agrees (now : Scene Wire) : Prop :=
  now.session.account = none ∨ now.session.account = some now.server.ledger.account

/-- Unless it is the last one, the account is followed by the one behind a transaction. -/
theorem Ledger.next?_account {l : Ledger} (hs : l.sequence < Nat.pow 2 64 - 1) (body : Bytes) :
    l.account.next? = some (l.take body).account := by
  have hsequence : l.account.sequence.toNat = l.sequence :=
    UInt64.toNat_ofNat_of_lt' (Nat.lt_of_lt_of_le hs (Nat.sub_le _ _))
  have hlt : l.account.sequence.toNat + 1 < UInt64.size := by
    rw [hsequence]
    exact Nat.add_lt_of_lt_sub hs
  rw [Account.next?, if_pos hlt, account, account, take, UInt64.ofNat_add]
  rfl

namespace Bridge

variable (b : Bridge) (w : Wording) (fate : Nat → Fate) (tx : Envelope) (mode : BroadcastMode)
  {now : Scene Wire}

/-- Learning the account leaves the ledger as it is. -/
theorem ledger_learned (now : Scene Wire) :
    (b.learned (w.serve b fate) now).2.ledger = now.server.ledger := by
  rw [learned]
  cases now.session.account with
  | some account => rfl
  | none => exact (w.fetched_account b fate _ _).1

/-- What is learned is the account that the chain keeps. -/
theorem learned_eq (h : now.Agrees) (hs : now.server.ledger.sequence < Nat.pow 2 64)
    {account : Account} (ha : (b.learned (w.serve b fate) now).1 = some account) :
    account = now.server.ledger.account := by
  -- Either the chain has told the account, or the bridge knew it.
  rw [learned] at ha
  rcases h with h | h
  · rw [h] at ha
    obtain ⟨body, hbody, htold⟩ := Option.bind_eq_some_iff.1 ha
    obtain ⟨time, rfl⟩ := (w.fetched_account b fate _ _).2 body hbody
    rw [w.toldAccount?_account time _ hs] at htold
    exact (Option.some.inj htold).symm
  · rw [h] at ha
    exact (Option.some.inj ha).symm

/-- A broadcast leaves the ledger as it is, and then it comes to no id, or brings one
    transaction in. -/
theorem ledger_sent (now : Scene Wire) :
    ((b.sent (w.serve b fate) tx mode now).2.ledger = now.server.ledger ∧
      (b.sent (w.serve b fate) tx mode now).1 = none) ∨
    ∃ account, (b.learned (w.serve b fate) now).1 = some account ∧
      Ledger.sequence? (b.broadcastBody tx mode account) = some now.server.ledger.sequence ∧
      (b.sent (w.serve b fate) tx mode now).2.ledger
        = now.server.ledger.take (b.broadcastBody tx mode account) ∧
      ∀ result, (b.sent (w.serve b fate) tx mode now).1 = some result → result.2 = account := by
  have hledger := b.ledger_learned w fate now
  rw [sent]
  rcases hl : b.learned (w.serve b fate) now with ⟨_ | account, wire⟩
  · rw [hl] at hledger
    exact .inl ⟨hledger, rfl⟩
  · rw [hl] at hledger
    simp only at hledger ⊢
    rcases w.fetched_transaction b fate now.session.isStopped (b.broadcastBody tx mode account)
      wire with ⟨hsame, hrefused⟩ | ⟨hsequence, htaken⟩
    · refine .inl ⟨hsame.trans hledger, ?_⟩
      cases hbody : (b.fetched (w.serve b fate) now.session.isStopped "/txs"
        (some (b.broadcastBody tx mode account)) wire).1 with
      | none => rfl
      | some body =>
        obtain ⟨time, rfl⟩ := hrefused body hbody
        rw [Option.bind_some, w.toldId?_refused]
        rfl
    · -- Even if the broadcast fails now, its transaction is on the chain.
      rw [hledger] at hsequence htaken
      refine .inr ⟨account, rfl, hsequence, htaken, fun result hresult => ?_⟩
      obtain ⟨id, -, rfl⟩ := Option.map_eq_some_iff.1 hresult
      rfl

/-- How a broadcast ends, and what it does to the ledger. -/
inductive Result (l : Ledger) : Ending TxId → Ledger → Prop
  /-- It fails, and the chain has taken nothing in. -/
  | untaken (e : Failure) : Result l (.error e) l
  /-- The chain has taken the transaction in, and the broadcast may have failed or
      not. -/
  | taken (ending : Ending TxId)
    (hsequence : Ledger.sequence? (b.broadcastBody tx mode l.account) = some l.sequence) :
    Result l ending (l.take (b.broadcastBody tx mode l.account))

/-- A broadcast takes in at most the one transaction that is next, and a bridge
    behind it remembers nothing or what the chain keeps. -/
theorem result_broadcast (h : now.Agrees) (hs : now.server.ledger.sequence < Nat.pow 2 64 - 1) :
    b.Result tx mode now.server.ledger ((b.broadcast tx mode).play (w.serve b fate) now).1
        ((b.broadcast tx mode).play (w.serve b fate) now).2.server.ledger ∧
      ((b.broadcast tx mode).play (w.serve b fate) now).2.Agrees := by
  obtain ⟨hend, hserver, -⟩ := b.concludes_broadcast (w.serve b fate) now tx mode
  rw [Scene.Agrees, hserver]
  generalize ((b.broadcast tx mode).play (w.serve b fate) now).1 = ending at hend ⊢
  generalize ((b.broadcast tx mode).play (w.serve b fate) now).2.session.account = kept at hend ⊢
  rcases b.ledger_sent w fate tx mode now with
    ⟨hledger, hnone⟩ | ⟨account, hlearned, hsequence, hledger, hused⟩
  · rw [hledger]
    rw [hnone] at hend
    cases hend with
    | failed e => exact ⟨.untaken e, .inl rfl⟩
  · obtain rfl := b.learned_eq w fate h (Nat.lt_of_lt_of_le hs (Nat.sub_le _ _)) hlearned
    rw [hledger]
    refine ⟨.taken _ hsequence, ?_⟩
    cases hsent : (b.sent (w.serve b fate) tx mode now).1 with
    | none =>
      rw [hsent] at hend
      cases hend with
      | failed e => exact .inl rfl
    | some result =>
      obtain ⟨id, used⟩ := result
      obtain rfl := hused _ hsent
      rw [hsent] at hend
      have hnext := Ledger.next?_account hs
        (b.broadcastBody tx mode now.server.ledger.account)
      exact .inr (hend.of_next? hnext).2

/-- A broadcast that comes to an id has its transaction taken in. -/
theorem accepted_of_ok (h : now.Agrees) (hs : now.server.ledger.sequence < Nat.pow 2 64 - 1)
    {id : TxId} (hid : ((b.broadcast tx mode).play (w.serve b fate) now).1 = .ok id) :
    ((b.broadcast tx mode).play (w.serve b fate) now).2.server.ledger.accepted
      = now.server.ledger.accepted ++ [b.broadcastBody tx mode now.server.ledger.account] := by
  have hresult := (b.result_broadcast w fate tx mode h hs).1
  rw [hid] at hresult
  generalize ((b.broadcast tx mode).play (w.serve b fate) now).2.server.ledger = next at hresult ⊢
  cases hresult with
  | taken _ _ => rfl

/-- A broadcast of which nothing is lost has its transaction accepted. -/
theorem sent_of_heard (h : now.Agrees) (hs : now.server.ledger.sequence < Nat.pow 2 64)
    {u v : Http.Url} (hu : Http.Url.parse (b.url b.accountPath) = .ok u)
    (hv : Http.Url.parse (b.url "/txs") = .ok v) (hfate : ∀ time, fate time = .heard) :
    ∃ id, (b.sent (w.serve b fate) tx mode now).1 = some (id, now.server.ledger.account) := by
  have hlearned : (b.learned (w.serve b fate) now).1 = some now.server.ledger.account := by
    rw [learned]
    rcases h with h | h
    · rw [h, w.fetched_account_of_heard b fate hu _ _ (hfate _)]
      exact w.toldAccount?_account _ _ hs
    · rw [h]
  have hledger := b.ledger_learned w fate now
  rw [sent]
  rcases hl : b.learned (w.serve b fate) now with ⟨told, wire⟩
  rw [hl] at hlearned hledger
  obtain rfl : told = some now.server.ledger.account := hlearned
  obtain ⟨ledger, time⟩ := wire
  obtain rfl : ledger = now.server.ledger := hledger
  have hsequence : Ledger.sequence? (b.broadcastBody tx mode now.server.ledger.account)
      = some now.server.ledger.sequence := by
    rw [b.sequence?_broadcastBody]
    exact congrArg some (UInt64.toNat_ofNat_of_lt' hs)
  simp only
  rw [w.fetched_transaction_of_heard b fate hv _ ⟨now.server.ledger, time⟩ (hfate _) hsequence]
  obtain ⟨id, hid⟩ := Option.isSome_iff_exists.1
    (w.toldId?_taken time now.server.ledger (b.broadcastBody tx mode now.server.ledger.account))
  exact ⟨id, by rw [Option.bind_some, hid, Option.map_some]⟩

/-- The ledger never goes back. -/
theorem ledger_broadcast (now : Scene Wire) :
    ((b.broadcast tx mode).play (w.serve b fate) now).2.server.ledger = now.server.ledger ∨
      ∃ body, ((b.broadcast tx mode).play (w.serve b fate) now).2.server.ledger
        = now.server.ledger.take body := by
  rw [(b.concludes_broadcast (w.serve b fate) now tx mode).2.1]
  rcases b.ledger_sent w fate tx mode now with ⟨hledger, -⟩ | ⟨account, -, -, hledger, -⟩
  · exact .inl hledger
  · exact .inr ⟨_, hledger⟩

/-! ## Broadcasts one after the other -/

/-- Broadcasts one after the other; each has ended before the next one begins. -/
def broadcasts {σ : Type} (b : Bridge) (serve : Http.Request → σ → Http.Reply × σ) :
    List (Envelope × BroadcastMode) → Scene σ → Scene σ
  | [], now => now
  | (tx, mode) :: rest, now => b.broadcasts serve rest ((b.broadcast tx mode).play serve now).2

theorem broadcasts_append {σ : Type} (serve : Http.Request → σ → Http.Reply × σ)
    (earlier later : List (Envelope × BroadcastMode)) (now : Scene σ) :
    b.broadcasts serve (earlier ++ later) now
      = b.broadcasts serve later (b.broadcasts serve earlier now) := by
  induction earlier generalizing now with
  | nil => rfl
  | cons first earlier ih => exact ih _

/-- What there is after broadcasts over a line to an honest chain. -/
def after (w : Wording) (fate : Nat → Fate) (done : List (Envelope × BroadcastMode))
    (start : Scene Wire) : Scene Wire :=
  b.broadcasts (w.serve b fate) done start

theorem after_append (earlier later : List (Envelope × BroadcastMode)) (start : Scene Wire) :
    b.after w fate (earlier ++ later) start
      = b.after w fate later (b.after w fate earlier start) :=
  b.broadcasts_append _ _ _ _

/-- What is taken in stays, and each transaction that is brings the sequence number
    one further. -/
theorem accepted_after (done : List (Envelope × BroadcastMode)) (start : Scene Wire) :
    ∃ more, more.length ≤ done.length ∧
      (b.after w fate done start).server.ledger.accepted
        = start.server.ledger.accepted ++ more ∧
      (b.after w fate done start).server.ledger.sequence
        = start.server.ledger.sequence + more.length := by
  induction done generalizing start with
  | nil => exact ⟨[], Nat.le_refl _, (List.append_nil _).symm, rfl⟩
  | cons first done ih =>
    obtain ⟨tx, mode⟩ := first
    obtain ⟨more, hlength, haccepted, hsequence⟩ :=
      ih ((b.broadcast tx mode).play (w.serve b fate) start).2
    rw [after] at haccepted hsequence ⊢
    rw [broadcasts, haccepted, hsequence]
    rcases b.ledger_broadcast w fate tx mode start with hledger | ⟨body, hledger⟩
    · rw [hledger]
      exact ⟨more, Nat.le_succ_of_le hlength, rfl, rfl⟩
    · rw [hledger]
      refine ⟨body :: more, Nat.succ_le_succ hlength, ?_, ?_⟩
      · simp [Ledger.take]
      · simp only [Ledger.take, List.length_cons]
        omega

end Bridge

/-- What is taken in from some sequence number on has all numbers from there, each
    once. -/
structure Ledger.Sound (l : Ledger) (first : Nat) : Prop where
  /-- The next number. -/
  sequence : l.sequence = first + l.accepted.length
  /-- The numbers so far. -/
  accepted : l.accepted.map sequence? = (List.range' first l.accepted.length).map some

namespace Ledger.Sound

variable {l : Ledger} {first : Nat}

theorem take (h : l.Sound first) {body : Bytes} (hs : sequence? body = some l.sequence) :
    (l.take body).Sound first := by
  obtain ⟨hsequence, haccepted⟩ := h
  refine ⟨?_, ?_⟩
  · rw [Ledger.take, List.length_append, List.length_singleton, hsequence, Nat.add_assoc]
  · rw [Ledger.take, List.map_append, haccepted, List.length_append, List.length_singleton,
      List.range'_concat, List.map_append, List.map_singleton, List.map_singleton, hs, hsequence,
      Nat.one_mul]

/-- No two transactions that are taken in have one sequence number. -/
theorem nodup (h : l.Sound first) : (l.accepted.map sequence?).Nodup := by
  rw [h.accepted]
  exact (List.nodup_range' 1).map fun _ _ => Option.some.inj

end Ledger.Sound

namespace Bridge

variable (b : Bridge) (w : Wording) (fate : Nat → Fate) {now : Scene Wire} {first : Nat}

/-- Whatever is lost, the bridge agrees with the chain after any broadcasts. -/
theorem agrees_after {start : Scene Wire} (h : start.Agrees)
    (hsound : start.server.ledger.Sound first) (done : List (Envelope × BroadcastMode))
    (hs : (b.after w fate done start).server.ledger.sequence < Nat.pow 2 64 - 1) :
    (b.after w fate done start).Agrees ∧ (b.after w fate done start).server.ledger.Sound first := by
  induction done generalizing start with
  | nil => exact ⟨h, hsound⟩
  | cons step done ih =>
    obtain ⟨tx, mode⟩ := step
    obtain ⟨more, -, -, hsequence⟩ := b.accepted_after w fate ((tx, mode) :: done) start
    obtain ⟨hresult, hagrees⟩ := b.result_broadcast w fate tx mode h (by omega)
    refine ih hagrees ?_ hs
    -- What matters of the broadcast is what it has done to the ledger.
    generalize ((b.broadcast tx mode).play (w.serve b fate) start).1 = ending at hresult
    generalize ((b.broadcast tx mode).play (w.serve b fate) start).2.server.ledger = next
      at hresult ⊢
    cases hresult with
    | untaken _ => exact hsound
    | taken _ hsequence => exact hsound.take hsequence

/-- A bridge and an honest chain that nobody else posts to never drift apart,
    whatever the line between them loses: after any broadcasts the bridge remembers
    either nothing or the number and the sequence number that the chain keeps; no two
    transactions that the chain has taken in have one sequence number, so none was
    taken in twice; and a broadcast that has come to an id was taken in by itself and
    exactly once. -/
theorem never_drifts {start : Scene Wire} (hnone : start.session.account = none)
    (hnew : start.server.ledger.accepted = []) (done : List (Envelope × BroadcastMode))
    (hs : (b.after w fate done start).server.ledger.sequence < Nat.pow 2 64 - 1) :
    ((b.after w fate done start).session.account = none ∨
      ∃ account, (b.after w fate done start).session.account = some account ∧
        account.number = (b.after w fate done start).server.ledger.number ∧
        account.sequence.toNat = (b.after w fate done start).server.ledger.sequence) ∧
    ((b.after w fate done start).server.ledger.accepted.map Ledger.sequence?).Nodup ∧
    ∀ earlier tx mode later, done = earlier ++ (tx, mode) :: later →
      ∀ id, ((b.broadcast tx mode).play (w.serve b fate) (b.after w fate earlier start)).1
          = .ok id →
        ∃ posted, posted
            = b.broadcastBody tx mode (b.after w fate earlier start).server.ledger.account ∧
          (b.after w fate (earlier ++ [(tx, mode)]) start).server.ledger.accepted
            = (b.after w fate earlier start).server.ledger.accepted ++ [posted] ∧
          (b.after w fate done start).server.ledger.accepted.count posted = 1 := by
  have hagrees : start.Agrees := .inl hnone
  have hsound : start.server.ledger.Sound start.server.ledger.sequence := by
    refine ⟨?_, ?_⟩
    · rw [hnew, List.length_nil, Nat.add_zero]
    · rw [hnew]
      rfl
  obtain ⟨hfinal, hsound'⟩ := b.agrees_after w fate hagrees hsound done hs
  have hword := UInt64.toNat_ofNat_of_lt' (Nat.lt_of_lt_of_le hs (Nat.sub_le _ _))
  refine ⟨hfinal.imp_right fun h => ⟨_, h, rfl, hword⟩, hsound'.nodup, ?_⟩
  rintro earlier tx mode later rfl id hid
  obtain ⟨_, -, -, hsequence⟩ :=
    b.accepted_after w fate ((tx, mode) :: later) (b.after w fate earlier start)
  rw [← after_append] at hsequence
  have hs' : (b.after w fate earlier start).server.ledger.sequence < Nat.pow 2 64 - 1 :=
    Nat.lt_of_le_of_lt (hsequence ▸ Nat.le_add_right _ _) hs
  have hagrees' := (b.agrees_after w fate hagrees hsound earlier hs').1
  have htaken : (b.after w fate (earlier ++ [(tx, mode)]) start).server.ledger.accepted
      = (b.after w fate earlier start).server.ledger.accepted
        ++ [b.broadcastBody tx mode (b.after w fate earlier start).server.ledger.account] := by
    rw [after_append]
    exact b.accepted_of_ok w fate tx mode hagrees' hs' hid
  -- It is still there in the end, and no two of what is there are the same.
  obtain ⟨more, -, haccepted, -⟩ :=
    b.accepted_after w fate later (b.after w fate (earlier ++ [(tx, mode)]) start)
  rw [← after_append, List.append_assoc, List.singleton_append, htaken] at haccepted
  refine ⟨_, rfl, htaken, List.count_eq_one_of_mem hsound'.nodup.of_map ?_⟩
  rw [haccepted]
  exact List.mem_append_left _ (List.mem_append_right _ List.mem_cons_self)

/-- The plain bridge knows where to ask for its account. -/
theorem exists_accountUrl_plain : ∃ u, Http.Url.parse (plain.url plain.accountPath) = .ok u := by
  have hpath : plain.accountPath =
      "/auth/accounts/" ++ "thor1w508d6qejxtdg4y5r3zarvary0c5xw7ku6wp68" :=
    congrArg (fun a : Address => "/auth/accounts/" ++ a.text) (Signer.address_least "relay")
  have hurl : (Http.Url.parse (plain.url ("/auth/accounts/" ++
      "thor1w508d6qejxtdg4y5r3zarvary0c5xw7ku6wp68"))).toOption.isSome := by decide +kernel
  rw [← hpath] at hurl
  obtain ⟨u, hu⟩ := Option.isSome_iff_exists.1 hurl
  exact ⟨u, ok_of_toOption hu⟩

/-- What there is after two broadcasts, the first of which is taken in as the
    transaction with the sequence number seven while the answer to it is lost. -/
def afterLoss : Scene Wire :=
  b.after .plain (fun time => if time = 1 then .unheard .dropped else .heard)
    [(.unsigned [], .checked), (.unsigned [], .checked)] ⟨.start, ⟨4, 7, []⟩, 0⟩

/-- How far two broadcasts go at most. -/
theorem sequence_afterLoss_le : b.afterLoss.server.ledger.sequence ≤ 9 := by
  obtain ⟨more, hlength, -, hsequence⟩ := b.accepted_after .plain
    (fun time => if time = 1 then .unheard .dropped else .heard)
    [(.unsigned [], .checked), (.unsigned [], .checked)] ⟨.start, ⟨4, 7, []⟩, 0⟩
  rw [afterLoss, hsequence]
  exact Nat.add_le_add_left hlength 7

theorem never_drifts_after_loss :
    plain.afterLoss.server.ledger.sequence < Nat.pow 2 64 - 1 ∧
      (plain.afterLoss.session.account = none ∨
        ∃ account, plain.afterLoss.session.account = some account ∧
          account.number = plain.afterLoss.server.ledger.number ∧
          account.sequence.toNat = plain.afterLoss.server.ledger.sequence) ∧
      (plain.afterLoss.server.ledger.accepted.map Ledger.sequence?).Nodup := by
  have hs : plain.afterLoss.server.ledger.sequence < Nat.pow 2 64 - 1 :=
    Nat.lt_of_le_of_lt plain.sequence_afterLoss_le (by decide)
  obtain ⟨haccount, hnodup, -⟩ := plain.never_drifts .plain _ rfl rfl _ hs
  exact ⟨hs, haccount, hnodup⟩

end Bridge

end ChainRelay
