import ChainRelay.Bridge.Query
import ChainRelay.Proofs.Bridge.Agreement
import ChainRelay.Proofs.Json.Members

/-!
# Waiting for a whitelisted node

A wait asks for the account of the node again and again, and it goes on as long as the
answer does not let the node through and time is left (`Bridge.GoesOn`). It ends well
with the first answer whose status has one of four names (`NodeStatus.admitted`), and at
the deadline otherwise, whatever the node tells until then (`Bridge.Waits`).

The deadline has to be a moment that the clock can tell. Settings may put it behind the
last one; the wait then breaks off, and nothing is asked (`Bridge.waits_until_admitted`).
-/

namespace ChainRelay

/-! ## Naming a status -/

namespace Codec

variable {α : Type} (f : String → α)

/-- A key that stands for something is read before what follows is looked at. -/
theorem bind_named_map (key : Quote) {rest : α → Except DecodeError α}
    {rest' : String → Except DecodeError String}
    (h : ∀ name, rest (f name) = (rest' name).map f) :
    (do rest (← named (fun name => some (f name)) (← liftFault key.read))) =
      (do rest' (← named some (← liftFault key.read))).map f := by
  cases key.read with
  | error fault => rfl
  | ok name => exact h name

/-- If every name stands for something, what a document names may be told once its
    name is read. -/
theorem decodeName_map (r : Reading) (d : Doc) :
    decodeName (fun name => some (f name)) r d = (decodeName some r d).map f := by
  obtain ⟨origin, room⟩ := r
  cases d with
  | text q =>
    rw [decodeName, decodeName]
    cases q.read <;> rfl
  | object members =>
    -- An object is refused for its shape or for its key; the element does not matter.
    cases origin with
    | text =>
      simp only [decodeName]
      cases Reading.enter ⟨.text, room⟩ with
      | error e => rfl
      | ok r =>
        cases members with
        | cons key payload rest =>
          refine bind_named_map f key fun name => ?_
          split
          · cases afterName rest <;> rfl
          · rfl
        | _ => rfl
    | settings =>
      match members with
      | .cons key payload .closed =>
        refine bind_named_map f key fun name => ?_
        cases bareSettings payload <;> rfl
      | .cons _ _ (.cons ..) | .cons _ _ (.cut _) | .cons _ _ (.stray _) => rfl
      | .closed | .cut _ | .stray _ => rfl
    | value | held =>
      match members with
      | .cons key payload .closed =>
        refine bind_named_map f key fun name => ?_
        split <;> rfl
      | .cons _ _ (.cons ..) | .cons _ _ (.cut _) | .cons _ _ (.stray _) => rfl
      | .closed | .cut _ | .stray _ => rfl
  | _ => cases origin <;> rfl

end Codec

namespace NodeStatus

/-- The names of the statuses that let a node through. -/
def admitted : List String := ["whitelisted", "standby", "ready", "active"]

/-- A status is read exactly where its name is. -/
theorem decode_eq_ok_iff {r : Reading} {d : Doc} {status : NodeStatus} :
    codec.decode r d = .ok status ↔
      ∃ name, Codec.decodeName some r d = .ok name ∧ ofText name = status := by
  rw [← map_eq_ok_iff, ← Codec.decodeName_map]
  rfl

theorem ofText_iff {name : String} :
    (ofText name ≠ .disabled ∧ ofText name ≠ .unknown) ↔ name ∈ admitted := by
  unfold ofText
  split <;> simp_all [admitted]

end NodeStatus

namespace NodeAccount

/-- The part of a document that tells the status of a node. -/
def statusPart? : Doc → Option Doc
  | .object members => members.get? "status"
  | .array (.cons _ (.cons status _)) => some status
  | _ => none

/-- How the status of a node is named in an answer. -/
def statusName? (body : Bytes) : Option String :=
  (statusPart? (Doc.read body).1).bind fun part =>
    (Codec.decodeName some ⟨.text, Reading.maxDepth - 1⟩ part).toOption

variable {r r' : Reading} {d : Doc} {body : Bytes} {a : NodeAccount}

/-- The status of an account is read from its part of the document. -/
theorem exists_part (hr : r.enter = .ok r') (h : codec.decode r d = .ok a) :
    ∃ part, statusPart? d = some part ∧ NodeStatus.codec.decode r' part = .ok a.status := by
  cases d with
  | object members =>
    obtain ⟨-, ⟨address, status, bond, _⟩, ⟨-, hstatus, -⟩, rfl⟩ :=
      (Codec.decode_object_eq_ok_iff hr (by decide)).1 h
    change (Field.required "status" NodeStatus.codec).Has r' (members.get? "status") status
      at hstatus
    cases hget : members.get? "status" with
    | none =>
      rw [hget] at hstatus
      cases hstatus
    | some part =>
      rw [hget] at hstatus
      exact ⟨part, hget, hstatus⟩
  | array items =>
    obtain ⟨r'', hr', h⟩ := ok_of_bind h
    obtain rfl := Except.ok.inj (hr.symm.trans hr')
    obtain ⟨row, hrow, h⟩ := ok_of_bind h
    match items, hrow with
    | .cons address (.cons part rest), hrow =>
      obtain ⟨address, -, hrow⟩ := ok_of_bind hrow
      obtain ⟨others, hothers, hrow⟩ := ok_of_bind hrow
      obtain ⟨status, hstatus, hothers⟩ := ok_of_bind hothers
      obtain ⟨bond, -, hothers⟩ := ok_of_bind hothers
      cases hothers
      cases hrow
      cases h
      exact ⟨part, rfl, hstatus⟩
    | .cons address .closed, hrow | .cons address (.cut _), hrow =>
      obtain ⟨address, -, hrow⟩ := ok_of_bind hrow
      cases hrow
  | _ => cases h

theorem exists_statusName (h : codec.ofAnswer body = .ok a) :
    ∃ name, statusName? body = some name ∧ NodeStatus.ofText name = a.status := by
  obtain ⟨d, hd, hread⟩ := Codec.ofAnswer_eq_ok_iff.1 h
  obtain ⟨part, hpart, hstatus⟩ := exists_part rfl hread
  obtain ⟨name, hname, hof⟩ := NodeStatus.decode_eq_ok_iff.1 hstatus
  refine ⟨name, ?_, hof⟩
  rw [statusName?, hd, hpart, Option.bind_some]
  exact congrArg Except.toOption hname

/-- A node may send transactions exactly if its status has one of four names. -/
theorem isWhitelisted_iff (h : codec.ofAnswer body = .ok a) :
    a.isWhitelisted ↔ ∃ name ∈ NodeStatus.admitted, statusName? body = some name := by
  obtain ⟨name, hname, hof⟩ := exists_statusName h
  rw [isWhitelisted, ← hof, Bool.and_eq_true, decide_eq_true_iff, decide_eq_true_iff,
    NodeStatus.ofText_iff, hname]
  simp

end NodeAccount

namespace Bridge

variable {σ : Type} (b : Bridge) (serve : Http.Request → σ → Http.Reply × σ)

/-! ## Asking once -/

/-- Where the account of the node is asked for. -/
def nodePath : String := "/thorchain/nodeaccount/" ++ b.signer.address.text

/-- A body lets the node through: it is read as a node account, and its status has one of
    four names. -/
def LetsThrough (body : Option Bytes) : Prop :=
  ∃ bytes ∈ body, (∃ a, NodeAccount.codec.ofAnswer bytes = .ok a) ∧
    ∃ name ∈ NodeStatus.admitted, NodeAccount.statusName? bytes = some name

/-- What an account decides. -/
def letThrough? (a : NodeAccount) : Option Unit := if a.isWhitelisted then some () else none

theorem gives_ensureWhitelisted (now : Scene σ) :
    b.ensureWhitelisted.Gives serve now
      (((b.fetched serve now.session.isStopped b.nodePath none now.server).1.bind fun bytes =>
        (NodeAccount.codec.ofAnswer bytes).toOption).bind letThrough?)
      (b.fetched serve now.session.isStopped b.nodePath none now.server).2 := by
  have hask := (b.gives_ask serve now b.nodePath).bind fun bytes =>
    decides_readAnswer serve NodeAccount.codec .nodeAccountUnreadable bytes
  refine (hask.within "failed to get node account").bind fun a => ?_
  rw [letThrough?]
  split_ifs
  · exact .pure ()
  · exact .ofThrow _

theorem letsThrough_iff (body : Option Bytes) :
    ((body.bind fun bytes => (NodeAccount.codec.ofAnswer bytes).toOption).bind letThrough?).isSome ↔
      LetsThrough body := by
  cases body with
  | none => simp [LetsThrough]
  | some bytes =>
    rw [Option.bind_some, LetsThrough]
    cases h : NodeAccount.codec.ofAnswer bytes with
    | error e => simp [Except.toOption, h]
    | ok a => simp [Except.toOption, h, letThrough?, ← NodeAccount.isWhitelisted_iff h]

instance (body : Option Bytes) : Decidable (LetsThrough body) :=
  decidable_of_iff _ (letsThrough_iff body)

/-- Asking whether the node may send transactions, whatever the answer. -/
theorem play_asking {now : Scene σ} (running : now.session.isStopped = false) :
    ∃ next : Scene σ, next.Continues now (b.fetched serve false b.nodePath none now.server).2 ∧
      (tryCatch (do b.ensureWhitelisted; return true) fun _ => return false : Call Bool).play
          serve now =
        (.ok (LetsThrough (b.fetched serve false b.nodePath none now.server).1), next) := by
  have hasked := b.gives_ensureWhitelisted serve now
  rw [running] at hasked
  have hpass := letsThrough_iff (b.fetched serve false b.nodePath none now.server).1
  rw [Call.play_tryCatch, Call.play_bind]
  rcases hasked.cases with ⟨e, next, hresult, hplay, hnext⟩ | ⟨_, next, hresult, hplay, hnext⟩
  · refine ⟨next, hnext, ?_⟩
    rw [hresult] at hpass
    rw [hplay, decide_eq_false (mt hpass.2 nofun)]
    rfl
  · refine ⟨next, hnext, ?_⟩
    rw [hresult] at hpass
    rw [hplay, decide_eq_true (hpass.1 rfl)]
    rfl

/-! ## Asking again -/

/-- The body that is obtained by asking for the account after some times of asking. -/
def heard : Nat → σ → Option Bytes
  | 0, server => (b.fetched serve false b.nodePath none server).1
  | times + 1, server => heard times (b.fetched serve false b.nodePath none server).2

/-- The state of the server after some times of asking. -/
def afterAsking : Nat → σ → σ
  | 0, server => server
  | times + 1, server => afterAsking times (b.fetched serve false b.nodePath none server).2

/-- A wait goes on after an answer that does not let the node through, if time is left. -/
def GoesOn (clock : Nat → Duration) (server : σ) (times : Nat) : Prop :=
  ¬ LetsThrough (b.heard serve times server) ∧
    (clock times).nanoseconds < b.settings.whitelistTimeout.nanoseconds

variable (clock : Nat → Duration) (left : Nat) {now : Scene σ}

/-- A wait goes on as a new one whose clock has been running. -/
theorem pollWhitelisted_succ (asked : Nat) :
    b.pollWhitelisted clock (asked + 1) left =
      b.pollWhitelisted (fun i => clock (i + 1)) asked left := by
  induction left generalizing asked with
  | zero => rfl
  | succ left ih => rw [pollWhitelisted, pollWhitelisted, ih]

/-- A wait asks, and then it ends or goes on. -/
theorem play_pollWhitelisted_succ (running : now.session.isStopped = false) :
    ∃ next : Scene σ, next.Continues now (b.fetched serve false b.nodePath none now.server).2 ∧
      (b.pollWhitelisted clock 0 (left + 1)).play serve now =
        if LetsThrough (b.fetched serve false b.nodePath none now.server).1 then (.ok true, next)
        else if b.settings.whitelistTimeout.nanoseconds ≤ (clock 0).nanoseconds then
          (.error (.of (.whitelistTimeout b.settings.whitelistTimeout)), next)
        else (b.pollWhitelisted (fun i => clock (i + 1)) 0 left).play serve next := by
  obtain ⟨next, hnext, hplay⟩ := b.play_asking serve running
  refine ⟨next, hnext, ?_⟩
  rw [pollWhitelisted, Call.play_bind, hplay, pollWhitelisted_succ]
  by_cases hbody : LetsThrough (b.fetched serve false b.nodePath none now.server).1
  · rw [if_pos hbody, decide_eq_true hbody]
    rfl
  rw [if_neg hbody, decide_eq_false hbody]
  simp only [Bool.false_eq_true, if_false]
  split_ifs with hdue
  · rfl
  · rw [Call.play_bind, Call.play_get]
    simp only
    rw [hnext.isStopped.trans running]
    rfl

/-- A wait comes to its end with the first answer after which it does not go on. -/
theorem play_pollWhitelisted_of_end {last : Nat} (running : now.session.isStopped = false)
    (before : ∀ i < last, b.GoesOn serve clock now.server i)
    (atLast : ¬ b.GoesOn serve clock now.server last) (h : last < left) :
    ((b.pollWhitelisted clock 0 left).play serve now).1 =
        (if LetsThrough (b.heard serve last now.server) then .ok true
        else .error (.of (.whitelistTimeout b.settings.whitelistTimeout))) ∧
      ((b.pollWhitelisted clock 0 left).play serve now).2.server =
        b.afterAsking serve (last + 1) now.server := by
  induction left generalizing clock last now with
  | zero => exact absurd h (Nat.not_lt_zero last)
  | succ left ih =>
    obtain ⟨next, hnext, hplay⟩ := b.play_pollWhitelisted_succ serve clock left running
    rw [hplay]
    cases last with
    | zero =>
      rw [heard]
      split_ifs with hbody hdue
      · exact ⟨rfl, hnext.server⟩
      · exact ⟨rfl, hnext.server⟩
      · exact absurd ⟨hbody, not_le.1 hdue⟩ atLast
    | succ last =>
      obtain ⟨hbody, hleft⟩ := before 0 (Nat.succ_pos last)
      rw [heard] at hbody
      rw [if_neg hbody, if_neg (not_le.2 hleft), heard, afterAsking, ← hnext.server]
      refine ih _ (hnext.isStopped.trans running) (fun i hi => ?_) ?_ (Nat.lt_of_succ_lt_succ h)
      · rw [hnext.server]
        exact before (i + 1) (Nat.succ_lt_succ hi)
      · rw [hnext.server]
        exact atLast

/-- A wait is not over as long as it goes on. -/
theorem play_pollWhitelisted_of_goesOn (running : now.session.isStopped = false)
    (h : ∀ i < left, b.GoesOn serve clock now.server i) :
    ((b.pollWhitelisted clock 0 left).play serve now).1 = .ok false := by
  induction left generalizing clock now with
  | zero => rfl
  | succ left ih =>
    obtain ⟨next, hnext, hplay⟩ := b.play_pollWhitelisted_succ serve clock left running
    obtain ⟨hbody, hleft⟩ := h 0 (Nat.succ_pos left)
    rw [heard] at hbody
    rw [hplay, if_neg hbody, if_neg (not_le.2 hleft)]
    refine ih _ (hnext.isStopped.trans running) fun i hi => ?_
    rw [hnext.server]
    exact h (i + 1) (Nat.succ_lt_succ hi)

/-- Up to the first answer after which a wait does not go on, if there is one. -/
theorem goesOn_or_exists_end (server : σ) :
    (∀ i < left, b.GoesOn serve clock server i) ∨
      ∃ last < left, (∀ i < last, b.GoesOn serve clock server i) ∧
        ¬ b.GoesOn serve clock server last := by
  classical
  by_cases h : ∃ i, i < left ∧ ¬ b.GoesOn serve clock server i
  · obtain ⟨hlast, hend⟩ := Nat.find_spec h
    refine .inr ⟨Nat.find h, hlast, fun i hi => ?_, hend⟩
    by_contra hi'
    exact Nat.find_min h hi ⟨hi.trans hlast, hi'⟩
  · refine .inl fun i hi => ?_
    by_contra hi'
    exact h ⟨i, hi, hi'⟩

/-- How a wait ends that has a deadline, and what has been asked then. -/
structure Waits (now : Scene σ) (wait : Ending Bool × Scene σ) : Prop where
  /-- It ends well with the first answer that lets the node through, if none before has come
      at or after the deadline. -/
  well_iff : wait.1 = .ok true ↔ ∃ last < left, (∀ i < last, b.GoesOn serve clock now.server i) ∧
    LetsThrough (b.heard serve last now.server)
  /-- It fails with the first answer that comes at or after the deadline, if neither that nor
      one before lets the node through. -/
  failed_iff (failure : Failure) : wait.1 = .error failure ↔
    failure = .of (.whitelistTimeout b.settings.whitelistTimeout) ∧
      ∃ last < left, (∀ i < last, b.GoesOn serve clock now.server i) ∧
        ¬ LetsThrough (b.heard serve last now.server) ∧
        b.settings.whitelistTimeout.nanoseconds ≤ (clock last).nanoseconds
  /-- Otherwise it goes on. -/
  goesOn_iff : wait.1 = .ok false ↔ ∀ i < left, b.GoesOn serve clock now.server i
  /-- It does not break off. -/
  unbroken (why : Breakdown) : wait.1 ≠ .broken why
  /-- Nothing is asked after the end. -/
  asked (last : Nat) : last < left → (∀ i < last, b.GoesOn serve clock now.server i) →
    ¬ b.GoesOn serve clock now.server last →
    wait.2.server = b.afterAsking serve (last + 1) now.server
  /-- If there is no time to wait, the node is asked once. -/
  once : b.settings.whitelistTimeout.isZero → 0 < left →
    wait.1 ≠ .ok false ∧ wait.2.server = b.afterAsking serve 1 now.server

theorem waits_pollWhitelisted (running : now.session.isStopped = false) :
    b.Waits serve clock left now ((b.pollWhitelisted clock 0 left).play serve now) := by
  have hgoing := b.play_pollWhitelisted_of_goesOn serve clock left running
  have hends {last : Nat} (hlast : last < left)
      (before : ∀ i < last, b.GoesOn serve clock now.server i)
      (atLast : ¬ b.GoesOn serve clock now.server last) :=
    b.play_pollWhitelisted_of_end serve clock left running before atLast hlast
  have hcases := b.goesOn_or_exists_end serve clock left now.server
  generalize (b.pollWhitelisted clock 0 left).play serve now = wait at hgoing hends ⊢
  -- Each end is told by its result: the other ends have another one.
  refine ⟨⟨fun h => ?_, ?_⟩, fun failure => ⟨fun h => ?_, ?_⟩, ⟨fun h => ?_, hgoing⟩,
    fun why h => ?_, fun last hlast before atLast => (hends hlast before atLast).2,
    fun hzero hleft => ?_⟩
  · rcases hcases with hgoes | ⟨last, hlast, before, atLast⟩
    · cases (hgoing hgoes).symm.trans h
    · refine ⟨last, hlast, before, by_contra fun hbody => ?_⟩
      cases ((hends hlast before atLast).1.trans (if_neg hbody)).symm.trans h
  · rintro ⟨last, hlast, before, hbody⟩
    exact (hends hlast before fun hgoes => hgoes.1 hbody).1.trans (if_pos hbody)
  · rcases hcases with hgoes | ⟨last, hlast, before, atLast⟩
    · cases (hgoing hgoes).symm.trans h
    · have hbody : ¬ LetsThrough (b.heard serve last now.server) := fun hbody => by
        cases ((hends hlast before atLast).1.trans (if_pos hbody)).symm.trans h
      have herror := ((hends hlast before atLast).1.trans (if_neg hbody)).symm.trans h
      exact ⟨(Ending.error.inj herror).symm, last, hlast, before, hbody,
        not_lt.1 fun hearly => atLast ⟨hbody, hearly⟩⟩
  · rintro ⟨rfl, last, hlast, before, hbody, hlate⟩
    exact (hends hlast before fun hgoes => not_le.2 hgoes.2 hlate).1.trans (if_neg hbody)
  · refine hcases.resolve_right ?_
    rintro ⟨last, hlast, before, atLast⟩
    have hresult := (hends hlast before atLast).1.symm.trans h
    split_ifs at hresult
    · cases hresult
  · rcases hcases with hgoes | ⟨last, hlast, before, atLast⟩
    · cases (hgoing hgoes).symm.trans h
    · have hresult := (hends hlast before atLast).1.symm.trans h
      split_ifs at hresult
  · have hlate : ¬ b.GoesOn serve clock now.server 0 := fun hgoes =>
      not_le.2 hgoes.2 ((of_decide_eq_true hzero).trans_le (Nat.zero_le _))
    obtain ⟨hresult, hserver⟩ := hends hleft nofun hlate
    refine ⟨?_, hserver⟩
    rw [hresult]
    split_ifs <;> exact nofun

/-- A wait on a bridge that is not stopped goes on until the node is let through or until its
    deadline, if the clock can tell that. Otherwise it breaks off before anything is asked. -/
theorem waits_until_admitted (begun : Moment) (now : Scene σ)
    (running : now.session.isStopped = false) :
    let wait := (b.awaitWhitelisted begun clock left).play serve now
    let deadline := begun.nanoseconds + b.settings.whitelistTimeout.nanoseconds
    (deadline < 2 ^ 63 * 10 ^ 9 → b.Waits serve clock left now wait) ∧
    (2 ^ 63 * 10 ^ 9 ≤ deadline → wait = (.broken .lateDeadline, now)) := by
  intro wait deadline
  have hbound : Moment.bound = 2 ^ 63 * 10 ^ 9 := rfl
  rw [← hbound]
  cases hafter : begun.after? b.settings.whitelistTimeout with
  | some moment =>
    have hdeadline : deadline = moment.nanoseconds := Moment.after?_eq_some_iff.1 hafter
    have hwait : wait = (b.pollWhitelisted clock 0 left).play serve now := by
      simp only [wait, awaitWhitelisted, hafter]
    refine ⟨fun _ => hwait ▸ b.waits_pollWhitelisted serve clock left running, fun hlate => ?_⟩
    exact absurd moment.isTold (not_lt.2 (hdeadline ▸ hlate))
  | none =>
    have hlate : Moment.bound ≤ deadline := Moment.after?_eq_none_iff.1 hafter
    have hwait : wait = (.broken .lateDeadline, now) := by
      simp only [wait, awaitWhitelisted, hafter]
      rfl
    exact ⟨fun hearly => absurd hlate (not_le.2 hearly), fun _ => hwait⟩

/-! ## Two waits -/

/-- The account of a node with some status. -/
def answerWith (status : String) : Bytes :=
  Utf8.encode ("\x7b\"node_address\":\"thor1\",\"status\":\"" ++ status ++ "\"\x7d")

/-- A node that is disabled when it is asked for the first time, and then active. -/
def awakened : Scene (List Http.Reply) :=
  ⟨.start, [.answered .ok (answerWith "disabled"), .answered .ok (answerWith "active")]⟩

theorem letsThrough_active : LetsThrough (some (answerWith "active")) := by
  rw [← letsThrough_iff]
  decide +kernel

theorem not_letsThrough_disabled : ¬ LetsThrough (some (answerWith "disabled")) := by
  rw [← letsThrough_iff]
  decide +kernel

/-- One second after the start of the clock. -/
def early : Moment := .ofNanoseconds 1000000000

/-- What is heard of the node that wakes up. -/
theorem heard_awakened :
    plain.heard Http.scripted 0 awakened.server = some (answerWith "disabled") ∧
      plain.heard Http.scripted 1 awakened.server = some (answerWith "active") := by
  have hpath : plain.nodePath =
      "/thorchain/nodeaccount/" ++ "thor1w508d6qejxtdg4y5r3zarvary0c5xw7ku6wp68" :=
    congrArg (fun a : Address => "/thorchain/nodeaccount/" ++ a.text) (Signer.address_least "relay")
  have hurl : (Http.Url.parse (plain.url ("/thorchain/nodeaccount/" ++
      "thor1w508d6qejxtdg4y5r3zarvary0c5xw7ku6wp68"))).toOption.isSome := by
    decide +kernel
  rw [← hpath] at hurl
  obtain ⟨u, hu⟩ := Option.isSome_iff_exists.1 hurl
  have hfetched (body : Bytes) (rest : List Http.Reply) :
      plain.fetched Http.scripted false plain.nodePath none (.answered .ok body :: rest)
        = (some body, rest) := by
    rw [fetched, Http.fetch_of_answered _ none _ false (ok_of_toOption hu) rfl
      (Http.Reply.body_answered_ok body)]
    rfl
  refine ⟨?_, ?_⟩
  · rw [heard, awakened, hfetched]
  · rw [heard, awakened, hfetched, heard, hfetched]

/-- A node that is disabled at first is let through when it is active. -/
theorem waits_until_admitted_awakened :
    awakened.session.isStopped = false ∧
    early.nanoseconds + plain.settings.whitelistTimeout.nanoseconds < 2 ^ 63 * 10 ^ 9 ∧
    ((plain.awaitWhitelisted early (fun _ => .zero) 2).play Http.scripted awakened).1
      = .ok true := by
  have hearly : early.nanoseconds + plain.settings.whitelistTimeout.nanoseconds
      < 2 ^ 63 * 10 ^ 9 := by decide
  obtain ⟨hdisabled, hactive⟩ := heard_awakened
  have hwaits := (plain.waits_until_admitted Http.scripted (fun _ => .zero) 2 early awakened rfl).1
    hearly
  refine ⟨rfl, hearly, hwaits.well_iff.2 ⟨1, Nat.one_lt_two, fun i hi => ?_, ?_⟩⟩
  · obtain rfl := Nat.lt_one_iff.1 hi
    exact ⟨hdisabled ▸ not_letsThrough_disabled, by decide⟩
  · exact hactive ▸ letsThrough_active

/-- A bridge that waits for as many seconds as a signed word can tell. -/
def patient : Bridge :=
  { plain with settings := { plain.settings with
    whitelistTimeout := .seconds 9223372036854775807 } }

/-- Its settings are sound, and the node would let it through, but it does not ask. -/
theorem patient_breaks_off :
    patient.settings.check = .ok () ∧
    LetsThrough (patient.heard Http.scripted 1 awakened.server) ∧
    (patient.awaitWhitelisted early (fun _ => .zero) 2).play Http.scripted awakened
      = (.broken .lateDeadline, awakened) ∧
    ¬ ∃ result, ((patient.awaitWhitelisted early (fun _ => .zero) 2).play Http.scripted
      awakened).1 = .ok result := by
  have hheard : patient.heard Http.scripted 1 awakened.server = some (answerWith "active") :=
    heard_awakened.2
  have hwait : (patient.awaitWhitelisted early (fun _ => .zero) 2).play Http.scripted awakened
      = (.broken .lateDeadline, awakened) := by
    rfl
  refine ⟨rfl, hheard ▸ letsThrough_active, hwait, ?_⟩
  rintro ⟨result, hresult⟩
  rw [hwait] at hresult
  cases hresult

end Bridge

end ChainRelay
