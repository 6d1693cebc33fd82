import ChainRelay.Proofs.Http.Retry
import ChainRelay.Settings

/-!
# How often a fetch asks

Without a limit of time, a fetch that is not cancelled asks until the first answer of
use, but at most as often as its policy allows and at least once. What it comes to is
that answer, or the fault of the last one (`fetch_bounded`). A fetch that was cancelled
before asks once.

A server may reply what it likes, and differently each time, so the replies are told
apart by how often the request was sent before (`replyAfter`). Every attempt but the
last leaves the rest of the fetch with one reply less, and one attempt less
(`attempts_again`).
-/

namespace ChainRelay.Http

variable {σ : Type} (serve : Request → σ → Reply × σ)

/-- The reply to a request that was sent some times before. -/
def replyAfter (request : Request) : Nat → σ → Reply
  | 0, s => (serve request s).1
  | count + 1, s => replyAfter request count (serve request s).2

/-- A request that is sent some times, with the replies. -/
def sent (request : Request) (count : Nat) (s : σ) : List (Request × Reply) :=
  (List.range count).map fun i => (request, replyAfter serve request i s)

theorem sent_succ (request : Request) (count : Nat) (s : σ) :
    sent serve request (count + 1) s =
      (request, (serve request s).1) :: sent serve request count (serve request s).2 := by
  rw [sent, List.range_succ_eq_map, List.map_cons, List.map_map]
  rfl

/-- Nothing is of use but a whole body with status 200. -/
theorem Reply.body_eq_ok_iff {reply : Reply} {bytes : Bytes} :
    reply.body = .ok bytes ↔ reply = .answered .ok bytes := by
  cases reply with
  | answered status whole =>
    rw [Reply.body, Reply.answered.injEq]
    split_ifs with h <;> simp [h]
  | torn | lost => simp [Reply.body]

theorem Reply.exists_fault {reply : Reply} (h : ∀ bytes, reply ≠ .answered .ok bytes) :
    ∃ fault, reply.body = .error fault := by
  cases hbody : reply.body with
  | ok bytes => exact absurd (body_eq_ok_iff.1 hbody) (h bytes)
  | error fault => exact ⟨fault, rfl⟩

/-! ## One attempt -/

section Attempts

variable {url : String} {u : Url} (body : Option Bytes) {p : RetryPolicy} {isCancelled : Bool}
  (left made : Nat) (b : Backoff) (s : σ)

theorem trace_attempt (hu : Url.parse url = .ok u) :
    (attempt url body).trace serve s = [(⟨u, body⟩, (serve ⟨u, body⟩ s).1)] := by
  rw [attempt, hu]
  rfl

/-- The attempts end with an answer of use. -/
theorem attempts_answered (hu : Url.parse url = .ok u) {bytes : Bytes}
    (hbody : (serve ⟨u, body⟩ s).1.body = .ok bytes) :
    ((attempts p isCancelled url body left made b).run serve s).1 = .ok bytes ∧
      (attempts p isCancelled url body left made b).trace serve s = sent serve ⟨u, body⟩ 1 s := by
  rw [attempts.eq_def, Exchange.run_bind, Exchange.trace_bind, run_attempt serve body hu,
    trace_attempt serve body s hu, hbody]
  exact ⟨rfl, rfl⟩

/-- The attempts end when none is left. -/
theorem attempts_last (hu : Url.parse url = .ok u) {fault : AttemptFault}
    (hbody : (serve ⟨u, body⟩ s).1.body = .error fault) :
    ((attempts p isCancelled url body 0 made b).run serve s).1 =
        .error ⟨url, false, made + 1, fault⟩ ∧
      (attempts p isCancelled url body 0 made b).trace serve s = sent serve ⟨u, body⟩ 1 s := by
  rw [attempts, Exchange.run_bind, Exchange.trace_bind, run_attempt serve body hu,
    trace_attempt serve body s hu, hbody]
  exact ⟨rfl, rfl⟩

/-- The attempts end when they were cancelled. -/
theorem attempts_cancelled (hu : Url.parse url = .ok u) (hlimit : p.maxElapsed = none)
    {fault : AttemptFault} (hbody : (serve ⟨u, body⟩ s).1.body = .error fault) :
    ((attempts p true url body (left + 1) made b).run serve s).1 =
        .error ⟨url, true, made + 1, fault⟩ ∧
      (attempts p true url body (left + 1) made b).trace serve s =
        sent serve ⟨u, body⟩ 1 s := by
  rw [attempts, Exchange.run_bind, Exchange.trace_bind, run_attempt serve body hu,
    trace_attempt serve body s hu, hbody]
  simp only [Backoff.next?, hlimit]
  exact ⟨rfl, rfl⟩

/-- Otherwise the request is sent again. -/
theorem attempts_again (hu : Url.parse url = .ok u) (hlimit : p.maxElapsed = none)
    {fault : AttemptFault} (hbody : (serve ⟨u, body⟩ s).1.body = .error fault) :
    ∃ b', (attempts p false url body (left + 1) made b).run serve s =
        (attempts p false url body left (made + 1) b').run serve (serve ⟨u, body⟩ s).2 ∧
      (attempts p false url body (left + 1) made b).trace serve s =
        (⟨u, body⟩, (serve ⟨u, body⟩ s).1) ::
          (attempts p false url body left (made + 1) b').trace serve (serve ⟨u, body⟩ s).2 := by
  rw [attempts, Exchange.run_bind, Exchange.trace_bind, run_attempt serve body hu,
    trace_attempt serve body s hu, hbody]
  simp only [Backoff.next?, hlimit]
  exact ⟨_, rfl, rfl⟩

/-! ## All attempts -/

/-- The first answer of use is what attempts come to, if they get that far. -/
theorem attempts_of_first (hu : Url.parse url = .ok u) (hlimit : p.maxElapsed = none) {i : Nat}
    (hleft : i ≤ left) {bytes : Bytes} (hbody : (replyAfter serve ⟨u, body⟩ i s).body = .ok bytes)
    (hbefore : ∀ j < i, ∃ fault, (replyAfter serve ⟨u, body⟩ j s).body = .error fault) :
    ((attempts p false url body left made b).run serve s).1 = .ok bytes ∧
      (attempts p false url body left made b).trace serve s =
        sent serve ⟨u, body⟩ (i + 1) s := by
  -- The induction is on the replies before the first one of use.
  induction i generalizing left made b s with
  | zero => exact attempts_answered serve body left made b s hu hbody
  | succ i ih =>
    obtain ⟨fault, hfault⟩ := hbefore 0 (Nat.zero_lt_succ i)
    obtain ⟨left, rfl⟩ := Nat.exists_eq_add_of_lt (Nat.lt_of_lt_of_le (Nat.zero_lt_succ i) hleft)
    rw [Nat.zero_add] at hleft ⊢
    obtain ⟨b', hrun, htrace⟩ := attempts_again serve body left made b s hu hlimit hfault
    obtain ⟨hresult, hsent⟩ := ih left (made + 1) b' (serve ⟨u, body⟩ s).2
      (Nat.le_of_succ_le_succ hleft) hbody fun j hj => hbefore (j + 1) (Nat.succ_lt_succ hj)
    rw [hrun, htrace, hresult, hsent]
    exact ⟨rfl, (sent_succ ..).symm⟩

/-- If no answer is of use, attempts come to the fault of the last one. -/
theorem attempts_of_none (hu : Url.parse url = .ok u) (hlimit : p.maxElapsed = none)
    (hfaults : ∀ i ≤ left, ∃ fault, (replyAfter serve ⟨u, body⟩ i s).body = .error fault) :
    ∃ last, (replyAfter serve ⟨u, body⟩ left s).body = .error last ∧
      ((attempts p false url body left made b).run serve s).1 =
        .error ⟨url, false, made + left + 1, last⟩ ∧
      (attempts p false url body left made b).trace serve s =
        sent serve ⟨u, body⟩ (left + 1) s := by
  -- The induction is on the attempts that are left.
  induction left generalizing made b s with
  | zero =>
    obtain ⟨fault, hfault⟩ := hfaults 0 (Nat.le_refl 0)
    exact ⟨fault, hfault, attempts_last serve body made b s hu hfault⟩
  | succ left ih =>
    obtain ⟨fault, hfault⟩ := hfaults 0 (Nat.zero_le _)
    obtain ⟨b', hrun, htrace⟩ := attempts_again serve body left made b s hu hlimit hfault
    obtain ⟨last, hlast, hresult, hsent⟩ := ih (made + 1) b' (serve ⟨u, body⟩ s).2
      fun i hi => hfaults (i + 1) (Nat.succ_le_succ hi)
    refine ⟨last, hlast, ?_, ?_⟩
    · rw [hrun, hresult, Nat.add_right_comm made 1 left, Nat.add_assoc made left 1]
    · rw [htrace, hsent, ← sent_succ]

end Attempts

/-! ## Fetches -/

variable {url : String} {u : Url} {p : RetryPolicy}

/-- A fetch that was cancelled gives up after its first attempt. Whether that counts as
    having been cancelled depends on whether an attempt would have been left. -/
theorem fetch_cancelled (hu : Url.parse url = .ok u) (hlimit : p.maxElapsed = none)
    (body : Option Bytes) (s : σ) :
    (fetch p true url body).trace serve s = sent serve ⟨u, body⟩ 1 s ∧
      ((fetch p true url body).run serve s).1 =
        (replyAfter serve ⟨u, body⟩ 0 s).body.mapError fun last =>
          ⟨url, decide (1 < p.maxAttempts.toNat), 1, last⟩ := by
  rw [fetch]
  cases hbody : (replyAfter serve ⟨u, body⟩ 0 s).body with
  | ok bytes => exact (attempts_answered serve body _ 0 (.start p) s hu hbody).symm
  | error fault =>
    cases hleft : p.maxAttempts.toNat - 1 with
    | zero =>
      rw [decide_eq_false (by omega)]
      exact (attempts_last serve body 0 (.start p) s hu hbody).symm
    | succ left =>
      rw [decide_eq_true (by omega)]
      exact (attempts_cancelled serve body left 0 (.start p) s hu hlimit hbody).symm

/-- With at least one attempt and at most as many as its policy says, a fetch without a
    limit of time comes to the first answer of use, or else to the fault of the last
    attempt; all it sends is one request, as often as it took. Once cancelled, it gives
    up after the first attempt. -/
theorem fetch_bounded (hu : Url.parse url = .ok u) (hlimit : p.maxElapsed = none)
    (body : Option Bytes) (s : σ) :
    let most := max 1 p.maxAttempts.toNat
    let reply := fun i => replyAfter serve ⟨u, body⟩ i s
    (∀ i < most, ∀ bytes, reply i = .answered .ok bytes →
      (∀ j < i, ∀ earlier, reply j ≠ .answered .ok earlier) →
        ((fetch p false url body).run serve s).1 = .ok bytes ∧
          (fetch p false url body).trace serve s = sent serve ⟨u, body⟩ (i + 1) s) ∧
      ((∀ i < most, ∀ bytes, reply i ≠ .answered .ok bytes) →
        ∃ last, (reply (most - 1)).body = .error last ∧
          ((fetch p false url body).run serve s).1 = .error ⟨url, false, most, last⟩ ∧
          (fetch p false url body).trace serve s = sent serve ⟨u, body⟩ most s) ∧
      (fetch p true url body).trace serve s = sent serve ⟨u, body⟩ 1 s ∧
      (∀ bytes, reply 0 = .answered .ok bytes →
        ((fetch p true url body).run serve s).1 = .ok bytes) ∧
      (∀ last, (reply 0).body = .error last →
        ((fetch p true url body).run serve s).1 =
          .error ⟨url, decide (1 < p.maxAttempts.toNat), 1, last⟩) := by
  intro most reply
  obtain ⟨hsent, hcancelled⟩ := fetch_cancelled serve hu hlimit body s
  refine ⟨fun i hi bytes hreply hbefore => ?_, fun hnone => ?_, hsent, fun bytes hreply => ?_,
    fun last hlast => ?_⟩
  · have hleft : i ≤ p.maxAttempts.toNat - 1 := by omega
    exact attempts_of_first serve body _ 0 _ s hu hlimit hleft (Reply.body_eq_ok_iff.2 hreply)
      fun j hj => Reply.exists_fault (hbefore j hj)
  · have hmost : most = p.maxAttempts.toNat - 1 + 1 := by omega
    have hfaults : ∀ i ≤ p.maxAttempts.toNat - 1, ∃ fault, (reply i).body = .error fault :=
      fun i hi => Reply.exists_fault (hnone i (by omega))
    obtain ⟨last, hlast, hresult⟩ := attempts_of_none serve body _ 0 (.start p) s hu hlimit hfaults
    rw [Nat.zero_add, ← hmost] at hresult
    exact ⟨last, by rw [hmost]; exact hlast, hresult⟩
  · rw [hcancelled, Reply.body_eq_ok_iff.2 hreply]
    rfl
  · rw [hcancelled, hlast]
    rfl

/-- The third answer is the first of use. -/
theorem fetch_bounded_third :
    ∃ u, Url.parse "http://node/block" = .ok u ∧
      ((fetch { ScanSettings.standard.policy with maxAttempts := 3, maxElapsed := none } false
          "http://node/block" none).run scripted
        [.answered .internalServerError [], .torn .ok, .answered .ok [104, 105]]).1 =
          .ok [104, 105] := by
  have hurl : (Url.parse "http://node/block").toOption.isSome = true := by decide +kernel
  cases hu : Url.parse "http://node/block" with
  | error problem => rw [hu] at hurl; cases hurl
  | ok u =>
    refine ⟨u, rfl, ((fetch_bounded scripted hu rfl none _).1 2 (by decide) [104, 105] rfl ?_).1⟩
    exact fun
      | 0, _, _, h => absurd (Reply.answered.inj h).1 (by decide)
      | 1, _, _, h => Reply.noConfusion h

end ChainRelay.Http
