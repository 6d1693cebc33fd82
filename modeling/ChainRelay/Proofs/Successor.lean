import ChainRelay.Proofs.Bridge.Discipline
import ChainRelay.Proofs.Scanner.Heights
import ChainRelay.Scanner.Scan

/-!
# Numbers that go up by one

Heights, attempts and sequence numbers are words that go up by one. A scan adds one to
its position only below a head, whatever it is answered (`Scan.Arises.isBelow`), and a fetch
counts no further than its policy allows (`Http.counted_attempts`), so neither comes to
the end of its words. Nothing keeps a sequence number from that: behind a transaction that
is accepted for the greatest one a broadcast breaks off, and that number is held
(`last_sequence_breaks_off`). Behind any other the successor is held (`goes_up_by_one`).
-/

namespace ChainRelay

/-! ## Heights -/

namespace Scan

variable {startHeight position head : UInt64} {scan : Scan}

/-- The position of a scan that takes the height behind it, and the head it goes to. -/
def taking? : Scan → Option (UInt64 × UInt64)
  | marking position head | offering position head | advancing position head =>
    some (position, head)
  | _ => none

/-- A scan takes no height behind the head it goes to. -/
def IsBelow (scan : Scan) : Prop := ∀ position head, scan.taking? = some (position, head) →
  position < head

/-- The stages that a scan may come to, whatever it is answered. -/
inductive Arises (startHeight : UInt64) : Scan → Prop
  | starting : Arises startHeight starting
  | answered {scan : Scan} {act : Act} {go : act.Answer → List Measurement × Scan}
    (answer : act.Answer) : Arises startHeight scan → turn startHeight scan = .ask act go →
      Arises startHeight (go answer).2

theorem isBelow_of_none (h : scan.taking? = none) : scan.IsBelow :=
  fun _ _ htaking => absurd (h.symm.trans htaking) nofun

theorem isBelow_marking (h : position < head) : (marking position head).IsBelow := by
  rintro _ _ ⟨⟩
  exact h

theorem isBelow_reoffer (position : UInt64) (heights : List UInt64) :
    (reoffer position heights).IsBelow := by
  cases heights <;> exact isBelow_of_none rfl

theorem isBelow_approach (position head : UInt64) : (approach position head).IsBelow := by
  rw [approach]
  split_ifs with h
  · exact isBelow_marking h
  · exact isBelow_of_none rfl

theorem isBelow_polled (position : UInt64) (answer : Outcome UInt64) :
    (polled position answer).IsBelow := by
  unfold polled
  split
  · split_ifs with h
    · exact isBelow_marking h
    · exact isBelow_of_none rfl
  · exact isBelow_of_none rfl

/-- A scan that is below its head stays so, whatever it is answered. -/
theorem IsBelow.answered {act : Act} {go : act.Answer → List Measurement × Scan}
    (h : scan.IsBelow) (hturn : turn startHeight scan = .ask act go) (answer : act.Answer) :
    (go answer).2.IsBelow := by
  cases scan with
  | starting =>
    cases hturn
    match answer with
    | .ok (some _) | .ok none | .error _ => exact isBelow_of_none rfl
  | resuming position =>
    cases hturn
    match answer with
    | .ok heights => exact isBelow_reoffer position heights
    | .error _ => exact isBelow_of_none rfl
  | reoffering position height more =>
    cases hturn
    match answer with
    | true => exact isBelow_reoffer position more
    | false => exact isBelow_of_none rfl
  | polling position =>
    cases hturn
    match answer with
    | some answer => exact isBelow_polled position answer
    | none => exact isBelow_of_none rfl
  | resting position =>
    cases hturn
    match answer with
    | true | false => exact isBelow_of_none rfl
  | marking position head =>
    cases hturn
    match answer with
    | .ok () => exact h
    | .error _ => exact isBelow_of_none rfl
  | offering position head =>
    cases hturn
    match answer with
    | true => exact h
    | false => exact isBelow_of_none rfl
  | advancing position head =>
    cases hturn
    match answer with
    | .ok () => exact isBelow_approach (position + 1) head
    | .error _ => exact isBelow_of_none rfl
  | ended => cases hturn

/-- Whatever a scan is answered, it adds one to its position only below a head. -/
theorem Arises.isBelow (h : scan.Arises startHeight) : scan.IsBelow := by
  induction h with
  | starting => exact isBelow_of_none rfl
  | answered answer _ hturn ih => exact ih.answered hturn answer

end Scan

/-- The heights behind a position are as many numbers, without a gap. -/
theorem map_toNat_heights (position head : UInt64) :
    (heights position head).map UInt64.toNat =
      List.range' (position.toNat + 1) (head.toNat - position.toNat) := by
  have hhead : head.toNat < UInt64.size := head.toNat_lt
  rw [heights, List.map_map]
  refine (List.map_congr_left fun k hk => ?_).trans (List.map_id _)
  rw [List.mem_range'_1] at hk
  exact UInt64.toNat_ofNat_of_lt' (by omega)

/-! ## Attempts -/

namespace Http

variable {σ : Type} (serve : Request → σ → Reply × σ) (p : RetryPolicy) (isCancelled : Bool)
  (url : String) (body : Option Bytes)

theorem length_trace_attempt_le (s : σ) : ((attempt url body).trace serve s).length ≤ 1 := by
  rw [attempt]
  split
  · exact Nat.zero_le 1
  · exact Nat.le_refl 1

/-- Any attempt may be the last: then it was counted, and nothing else is sent. -/
theorem counted_last (left made : Nat) (s s' : σ) {result : Except FetchFault Bytes}
    (h : ∀ fault, result = .error fault → fault.attempts = made + 1) :
    ((attempt url body).trace serve s ++ (Exchange.done result).trace serve s').length ≤ left + 1 ∧
      ∀ fault, ((Exchange.done result).run serve s').1 = .error fault →
        made < fault.attempts ∧ fault.attempts ≤ made + (left + 1) := by
  have hone := length_trace_attempt_le serve url body s
  refine ⟨?_, fun fault hfault => ?_⟩
  · rw [Exchange.trace, List.append_nil]
    omega
  · have hattempts := h fault hfault
    omega

/-- The attempts that are left bound how often a request is sent and how far is counted. -/
theorem counted_attempts (left made : Nat) (b : Backoff) (s : σ) :
    ((attempts p isCancelled url body left made b).trace serve s).length ≤ left + 1 ∧
      ∀ fault, ((attempts p isCancelled url body left made b).run serve s).1 = .error fault →
        made < fault.attempts ∧ fault.attempts ≤ made + (left + 1) := by
  have hmade (made : Nat) {isCancelled : Bool} {last : AttemptFault} (fault : FetchFault)
      (hfault : Except.error (α := Bytes) ⟨url, isCancelled, made + 1, last⟩ = .error fault) :
      fault.attempts = made + 1 := by
    obtain rfl := Except.error.inj hfault
    rfl
  induction left generalizing made b s with
  | zero =>
    rw [attempts, Exchange.run_bind, Exchange.trace_bind]
    cases ((attempt url body).run serve s).1 with
    | ok bytes => exact counted_last serve url body 0 made s _ fun _ h => by cases h
    | error last => exact counted_last serve url body 0 made s _ (hmade made)
  | succ left ih =>
    rw [attempts, Exchange.run_bind, Exchange.trace_bind]
    cases ((attempt url body).run serve s).1 with
    | ok bytes => exact counted_last serve url body (left + 1) made s _ fun _ h => by cases h
    | error last =>
      simp only
      cases b.next? p with
      | none => exact counted_last serve url body (left + 1) made s _ (hmade made)
      | some b =>
        cases isCancelled with
        | true => exact counted_last serve url body (left + 1) made s _ (hmade made)
        | false =>
          obtain ⟨hlength, hcount⟩ := ih (made + 1) b ((attempt url body).run serve s).2
          have hone := length_trace_attempt_le serve url body s
          simp only [Bool.false_eq_true, if_false, List.length_append]
          refine ⟨by omega, fun fault hfault => ?_⟩
          have hfault := hcount fault hfault
          omega

/-- The most attempts that a policy allows. -/
def RetryPolicy.most (p : RetryPolicy) : Nat := max 1 p.maxAttempts.toNat

theorem counted_fetch (s : σ) :
    ((fetch p isCancelled url body).trace serve s).length ≤ p.most ∧
      ∀ fault, ((fetch p isCancelled url body).run serve s).1 = .error fault →
        0 < fault.attempts ∧ fault.attempts ≤ p.most := by
  have hmost : p.maxAttempts.toNat - 1 + 1 = p.most := by
    rw [RetryPolicy.most]
    omega
  have h := counted_attempts serve p isCancelled url body (p.maxAttempts.toNat - 1) 0 (.start p) s
  rwa [Nat.zero_add, hmost] at h

theorem most_lt (p : RetryPolicy) : p.most < 2 ^ 32 :=
  max_lt (by decide) p.maxAttempts.toNat_lt

end Http

/-! ## Sequence numbers -/

namespace Bridge

variable {σ : Type} (b : Bridge) (serve : Http.Request → σ → Http.Reply × σ) (now : Scene σ)
  (tx : Envelope) (mode : BroadcastMode)

/-- Behind a broadcast that comes to an id the account is held with the successor of the
    sequence number that was signed for. -/
theorem held_of_ok {id : TxId} (h : ((b.broadcast tx mode).play serve now).1 = .ok id) :
    ∃ used held, SignedFor (b.posted serve tx mode now) used ∧
      ((b.broadcast tx mode).play serve now).2.session.account = some held ∧
      held.number = used.number ∧ held.sequence.toNat = used.sequence.toNat + 1 := by
  obtain ⟨hend, -, -⟩ := b.concludes_broadcast serve now tx mode
  have hsigned {account : Account} (hsent : (b.sent serve tx mode now).1 = some (id, account)) :=
    b.signedFor_of_sent serve tx mode now hsent
  generalize (b.sent serve tx mode now).1 = sent at hend hsigned
  generalize ((b.broadcast tx mode).play serve now).2.session.account = kept at hend ⊢
  rw [h] at hend
  cases hend with
  | @accepted _ account held hnext =>
    have hsucc := Account.toNat_sequence_next? hnext
    obtain ⟨-, rfl⟩ := Account.next?_eq_some_iff.1 hnext
    exact ⟨account, _, hsigned rfl, rfl, rfl, hsucc⟩

/-- A broadcast breaks off only behind the greatest sequence number, which is held then. -/
theorem held_of_broken {why : Breakdown}
    (h : ((b.broadcast tx mode).play serve now).1 = .broken why) :
    why = .lastSequence ∧ ∃ used, SignedFor (b.posted serve tx mode now) used ∧
      ((b.broadcast tx mode).play serve now).2.session.account = some used ∧
      used.sequence.toNat + 1 = 2 ^ 64 := by
  obtain ⟨hend, -, -⟩ := b.concludes_broadcast serve now tx mode
  have hsigned {id : TxId} {account : Account}
      (hsent : (b.sent serve tx mode now).1 = some (id, account)) :=
    b.signedFor_of_sent serve tx mode now hsent
  generalize (b.sent serve tx mode now).1 = sent at hend hsigned
  generalize ((b.broadcast tx mode).play serve now).2.session.account = kept at hend ⊢
  rw [h] at hend
  cases hend with
  | @spent id account hnext =>
    exact ⟨rfl, account, hsigned rfl, rfl, Account.next?_eq_none_iff.1 hnext⟩

end Bridge

/-! ## All together -/

/-- What goes up by one is followed by the next number: the position of a scan, whatever it
    is answered, on its whole way to a head; the count of attempts, which is no greater than
    a policy allows; and the sequence number of an account behind a broadcast that comes to
    an id. One breaks off instead only behind the greatest sequence number. -/
theorem goes_up_by_one {σ : Type} (serve : Http.Request → σ → Http.Reply × σ) (startHeight : UInt64)
    (p : Http.RetryPolicy) (b : Bridge) :
    (∀ scan, Scan.Arises startHeight scan → ∀ position head,
      scan.taking? = some (position, head) →
        (position + 1).toNat = position.toNat + 1 ∧ (position + 1).toNat ≤ head.toNat) ∧
    (∀ position head : UInt64, (heights position head).map UInt64.toNat =
      List.range' (position.toNat + 1) (head.toNat - position.toNat)) ∧
    (∀ isCancelled url body s,
      ((Http.fetch p isCancelled url body).trace serve s).length ≤ p.most ∧
      (∀ fault, ((Http.fetch p isCancelled url body).run serve s).1 = .error fault →
        0 < fault.attempts ∧ fault.attempts ≤ p.most) ∧ p.most < 2 ^ 32) ∧
    (∀ tx mode now id, ((b.broadcast tx mode).play serve now).1 = .ok id →
      ∃ used held, Bridge.SignedFor (b.posted serve tx mode now) used ∧
        ((b.broadcast tx mode).play serve now).2.session.account = some held ∧
        held.number = used.number ∧ held.sequence.toNat = used.sequence.toNat + 1) ∧
    (∀ tx mode now why, ((b.broadcast tx mode).play serve now).1 = .broken why →
      why = .lastSequence ∧ ∃ used, Bridge.SignedFor (b.posted serve tx mode now) used ∧
        ((b.broadcast tx mode).play serve now).2.session.account = some used ∧
        used.sequence.toNat + 1 = 2 ^ 64) := by
  refine ⟨fun scan harises position head htaking => ?_, map_toNat_heights,
    fun isCancelled url body s => ?_, fun tx mode now id hid => ?_, fun tx mode now why hwhy => ?_⟩
  · have hlt := harises.isBelow position head htaking
    exact ⟨toNat_succ hlt, UInt64.le_iff_toNat_le.1 (succ_le hlt)⟩
  · obtain ⟨hlength, hcount⟩ := Http.counted_fetch serve p isCancelled url body s
    exact ⟨hlength, hcount, Http.most_lt p⟩
  · exact b.held_of_ok serve now tx mode hid
  · exact b.held_of_broken serve now tx mode hwhy

namespace Bridge

/-- The first transaction for an account that a node tells with some sequence number. -/
def told (sequence : Nat) : Scene Wire := ⟨.start, ⟨⟨4, sequence, []⟩, 0⟩⟩

/-- The node accepts it, signed for the account that it tells. -/
theorem sent_of_told (sequence : Nat) (h : sequence < Nat.pow 2 64) :
    let serve := Wording.plain.serve plain fun _ => .heard
    ∃ id, (plain.sent serve (.unsigned []) .checked (told sequence)).1
      = some (id, ⟨4, .ofNat sequence⟩) := by
  obtain ⟨u, hu⟩ := exists_accountUrl_plain
  have hposted : (Http.Url.parse (plain.url "/txs")).toOption.isSome := by decide +kernel
  obtain ⟨v, hv⟩ := Option.isSome_iff_exists.1 hposted
  have hagrees : (told sequence).Agrees := .inl rfl
  exact plain.sent_of_heard .plain (fun _ => .heard) (.unsigned []) .checked hagrees h hu
    (ok_of_toOption hv) fun _ => rfl

/-- Behind a transaction with the sequence number seven, eight is held. -/
theorem goes_up_by_one_after_seven :
    let serve := Wording.plain.serve plain fun _ => .heard
    ∃ used held, SignedFor (plain.posted serve (.unsigned []) .checked (told 7)) used ∧
      ((plain.broadcast (.unsigned []) .checked).play serve (told 7)).2.session.account
        = some held ∧ used.sequence = 7 ∧ held.sequence = 8 := by
  intro serve
  obtain ⟨id, hsent⟩ := sent_of_told 7 (by decide)
  have hend := (plain.concludes_broadcast serve (told 7) (.unsigned []) .checked).1
  rw [hsent] at hend
  obtain ⟨used, held, hused, hheld, -, hsucc⟩ :=
    (goes_up_by_one serve 0 plain.settings.policy plain).2.2.2.1 (.unsigned []) .checked (told 7) id
      (hend.of_next? rfl).1
  obtain rfl := hused.unique (plain.signedFor_of_sent serve (.unsigned []) .checked (told 7) hsent)
  exact ⟨_, held, hused, hheld, rfl, UInt64.toNat_inj.1 hsucc⟩

/-- A transaction with the greatest sequence number is accepted, and then the broadcast breaks
    off: that number is held, and not its successor. -/
theorem last_sequence_breaks_off :
    let serve := Wording.plain.serve plain fun _ => .heard
    let start := told 18446744073709551615
    let broadcast := (plain.broadcast (.unsigned []) .checked).play serve start
    ((∃ id, (plain.sent serve (.unsigned []) .checked start).1
        = some (id, ⟨4, 18446744073709551615⟩)) ∧
      broadcast.1 = .broken .lastSequence) ∧
    ¬ ∀ used held, SignedFor (plain.posted serve (.unsigned []) .checked start) used →
      broadcast.2.session.account = some held →
      held.sequence.toNat = used.sequence.toNat + 1 := by
  intro serve start broadcast
  obtain ⟨id, hsent⟩ := sent_of_told 18446744073709551615 (by decide)
  have hend := (plain.concludes_broadcast serve start (.unsigned []) .checked).1
  rw [hsent] at hend
  obtain ⟨hbroken, hheld⟩ := hend.of_last rfl
  refine ⟨⟨⟨id, hsent⟩, hbroken⟩, fun h => ?_⟩
  have hsigned := plain.signedFor_of_sent serve (.unsigned []) .checked start hsent
  exact absurd (h _ _ hsigned hheld) (by decide)

end Bridge

end ChainRelay
