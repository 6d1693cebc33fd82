import ChainRelay.Http.Retry
import ChainRelay.Proofs.Http.Exchange
import Mathlib.Tactic.Common

/-!
# What a fetch does

A fetch sends one request, the same each time, until an answer is of use or it
gives up (`Fetched`). What holds of a fetch is shown by induction on that.
-/

namespace ChainRelay.Http

variable {σ : Type} (serve : Request → σ → Reply × σ) (request : Request)

/-- An answer with status 200 is of use. -/
theorem Reply.body_answered_ok (body : Bytes) : (Reply.answered .ok body).body = .ok body := by
  rw [Reply.body, if_pos rfl]

/-- Sending a request again and again, from a state of the server to another, with
    the body that is answered in the end, if any. -/
inductive Fetched : σ → Option Bytes → σ → Prop
  /-- The answer is of use. -/
  | answered {s s' : σ} {reply : Reply} {body : Bytes} (hserve : serve request s = (reply, s'))
    (hbody : reply.body = .ok body) : Fetched s (some body) s'
  /-- The answer is of no use, and nothing is sent any more. -/
  | gaveUp {s s' : σ} {reply : Reply} {fault : AttemptFault}
    (hserve : serve request s = (reply, s')) (hbody : reply.body = .error fault) :
    Fetched s none s'
  /-- The answer is of no use, and the request is sent again. -/
  | again {s s' last : σ} {reply : Reply} {fault : AttemptFault} {result : Option Bytes}
    (hserve : serve request s = (reply, s')) (hbody : reply.body = .error fault)
    (rest : Fetched s' result last) : Fetched s result last

variable {url : String} {u : Url} (body : Option Bytes)

theorem run_attempt (hu : Url.parse url = .ok u) (s : σ) :
    (attempt url body).run serve s = ((serve ⟨u, body⟩ s).1.body, (serve ⟨u, body⟩ s).2) := by
  rw [attempt, hu]
  rfl

theorem fetched_attempts (p : RetryPolicy) (isCancelled : Bool) (hu : Url.parse url = .ok u)
    (left made : Nat) (b : Backoff) (s : σ) :
    Fetched serve ⟨u, body⟩ s
      ((attempts p isCancelled url body left made b).run serve s).1.toOption
      ((attempts p isCancelled url body left made b).run serve s).2 := by
  -- The induction is on the attempts that are left, from any state of the server.
  induction left generalizing made b s with
  | zero =>
    rw [attempts, Exchange.run_bind, run_attempt serve body hu]
    rcases hserve : serve ⟨u, body⟩ s with ⟨reply, s'⟩
    cases hbody : reply.body with
    | ok bytes => exact .answered hserve hbody
    | error fault => exact .gaveUp hserve hbody
  | succ left ih =>
    rw [attempts, Exchange.run_bind, run_attempt serve body hu]
    rcases hserve : serve ⟨u, body⟩ s with ⟨reply, s'⟩
    cases hbody : reply.body with
    | ok bytes => exact .answered hserve hbody
    | error fault =>
      -- It is sent again unless there is no time left or the task is cancelled.
      simp only
      cases b.next? p with
      | none => exact .gaveUp hserve hbody
      | some b =>
        cases isCancelled with
        | true => exact .gaveUp hserve hbody
        | false => exact .again hserve hbody (ih _ _ _)

/-- A fetch from a usable URL sends its request again and again. -/
theorem fetched_fetch (p : RetryPolicy) (isCancelled : Bool) (hu : Url.parse url = .ok u) (s : σ) :
    Fetched serve ⟨u, body⟩ s ((fetch p isCancelled url body).run serve s).1.toOption
      ((fetch p isCancelled url body).run serve s).2 :=
  fetched_attempts serve body p isCancelled hu _ _ _ s

/-- A fetch that is answered at once sends nothing more. -/
theorem fetch_of_answered (p : RetryPolicy) (isCancelled : Bool) (hu : Url.parse url = .ok u)
    {s s' : σ} {reply : Reply} {bytes : Bytes} (hserve : serve ⟨u, body⟩ s = (reply, s'))
    (hbody : reply.body = .ok bytes) :
    (fetch p isCancelled url body).run serve s = (.ok bytes, s') := by
  rw [fetch, attempts.eq_def, Exchange.run_bind, run_attempt serve body hu, hserve, hbody]
  rfl

/-- Without a usable URL nothing is sent and nothing comes back. -/
theorem attempts_of_error (p : RetryPolicy) (isCancelled : Bool) {fault : Url.Fault}
    (hu : Url.parse url = .error fault) (left made : Nat) (b : Backoff) (s : σ) :
    ((attempts p isCancelled url body left made b).run serve s).1.toOption = none ∧
      ((attempts p isCancelled url body left made b).run serve s).2 = s := by
  have hattempt : attempt url body = .done (.error .noAnswer) := by rw [attempt, hu]
  induction left generalizing made b with
  | zero =>
    rw [attempts, hattempt]
    exact ⟨rfl, rfl⟩
  | succ left ih =>
    rw [attempts, hattempt]
    simp only [Exchange.bind]
    cases b.next? p with
    | none => exact ⟨rfl, rfl⟩
    | some b =>
      cases isCancelled with
      | true => exact ⟨rfl, rfl⟩
      | false => exact ih _ _

theorem fetch_of_error (p : RetryPolicy) (isCancelled : Bool) {fault : Url.Fault}
    (hu : Url.parse url = .error fault) (s : σ) :
    ((fetch p isCancelled url body).run serve s).1.toOption = none ∧
      ((fetch p isCancelled url body).run serve s).2 = s :=
  attempts_of_error serve body p isCancelled hu _ _ _ s

/-! ## Traces -/

/-- One request, sent again and again; what it comes to is the body of the last reply,
    if that has one. -/
structure Repeats (result : Option Bytes) (trace : List (Request × Reply)) : Prop where
  sent : ∀ exchanged ∈ trace, exchanged.1 = request
  ne_nil : trace ≠ []
  result : trace.getLast?.bind (fun exchanged => exchanged.2.body.toOption) = result

theorem Fetched.repeats {now now' : σ × List (Request × Reply)} {result : Option Bytes}
    (h : Fetched (recorded serve) request now result now') :
    ∃ trace, now'.2 = now.2 ++ trace ∧ Repeats request result trace := by
  induction h with
  | @answered now now' reply body hserve hbody =>
    obtain ⟨rfl, rfl⟩ := Prod.mk.inj hserve
    exact ⟨_, rfl, by simp, by simp, by simp [hbody, Except.toOption]⟩
  | @gaveUp now now' reply fault hserve hbody =>
    obtain ⟨rfl, rfl⟩ := Prod.mk.inj hserve
    exact ⟨_, rfl, by simp, by simp, by simp [hbody, Except.toOption]⟩
  | @again now next last reply fault result hserve hbody rest ih =>
    obtain ⟨rfl, rfl⟩ := Prod.mk.inj hserve
    obtain ⟨trace, hrecord, hrepeats⟩ := ih
    rw [List.append_assoc] at hrecord
    refine ⟨_, hrecord, ?_, by simp, ?_⟩
    · rintro exchanged (hmem | ⟨_, hmem⟩)
      · rfl
      · exact hrepeats.sent _ hmem
    · rw [List.singleton_append, List.getLast?_cons_of_ne_nil hrepeats.ne_nil]
      exact hrepeats.result

/-- What a fetch sends is one request again and again. -/
theorem repeats_fetch (p : RetryPolicy) (isCancelled : Bool) (hu : Url.parse url = .ok u) (s : σ) :
    Repeats ⟨u, body⟩ ((fetch p isCancelled url body).run serve s).1.toOption
      ((fetch p isCancelled url body).trace serve s) := by
  have h := fetched_fetch (recorded serve) body p isCancelled hu (s, [])
  rw [run_recorded] at h
  obtain ⟨trace, htrace, hrepeats⟩ := h.repeats
  obtain rfl : (fetch p isCancelled url body).trace serve s = trace := htrace
  exact hrepeats

/-- Without a usable URL nothing is sent. -/
theorem trace_fetch_of_error (p : RetryPolicy) (isCancelled : Bool) {fault : Url.Fault}
    (hu : Url.parse url = .error fault) (s : σ) :
    (fetch p isCancelled url body).trace serve s = [] := by
  have h := (fetch_of_error (recorded serve) body p isCancelled hu (s, [])).2
  rw [run_recorded] at h
  exact (Prod.mk.inj h).2

end ChainRelay.Http
