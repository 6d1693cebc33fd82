import ChainRelay.Duration
import ChainRelay.Failure
import ChainRelay.Http.Exchange
import ChainRelay.Number.Binary64

/-!
# Retrying

A fetch asks again until it gets a whole body with status 200, or its policy is
exhausted, or it is cancelled. Between attempts it waits, longer each time. Time
counts only where the policy limits it: each attempt takes some, and each wait as
long as it is.
-/

namespace ChainRelay.Http

/-- How a fetch is retried. -/
structure RetryPolicy where
  /-- The first wait. -/
  initialInterval : Duration
  /-- What each wait is multiplied by. -/
  multiplier : Binary64
  /-- How far waits vary. -/
  randomizationFactor : Binary64
  /-- The longest wait. -/
  maxInterval : Duration
  /-- The time after which no attempt is made. -/
  maxElapsed : Option Duration
  /-- How many attempts are made, with the first one. -/
  maxAttempts : UInt32
  /-- How long an attempt may take. -/
  requestTimeout : Duration
deriving DecidableEq, Repr

/-- The next wait and the time so far. -/
structure Backoff where
  /-- The next wait. -/
  interval : Duration
  /-- The time since the start. -/
  elapsed : Duration

namespace Backoff

/-- Before the first attempt. -/
def start (p : RetryPolicy) : Backoff := ⟨p.initialInterval, .zero⟩

/-- The wait after one of some length. -/
def grow (p : RetryPolicy) (interval : Duration) : Duration :=
  if p.multiplier.isNaN then .zero
  else if p.multiplier.isNegative ∨ ¬ p.multiplier.isFinite then p.maxInterval
  else
    let (num, den) := p.multiplier.ratio
    .min p.maxInterval ⟨interval.nanoseconds * num / den⟩

/-- After an attempt and the wait behind it; `none` if time does not allow for
    the wait. -/
def next? (p : RetryPolicy) (b : Backoff) : Option Backoff :=
  let elapsed := b.elapsed.add ⟨1⟩
  let after := elapsed.add b.interval
  match p.maxElapsed with
  | none => some ⟨grow p b.interval, after⟩
  | some limit =>
    if after.nanoseconds ≤ limit.nanoseconds then some ⟨grow p b.interval, after⟩ else none

end Backoff

/-- Why an attempt failed. -/
inductive AttemptFault
  /-- There was no answer, or nowhere to send the request. -/
  | noAnswer
  /-- The answer had another status than 200. -/
  | status (status : Status)
  /-- The answer broke off. -/
  | torn
deriving DecidableEq, Repr

/-- Why a fetch failed. -/
structure FetchFault where
  /-- What was to be fetched. -/
  url : String
  /-- Whether it was cancelled while attempts were left. -/
  isCancelled : Bool
  /-- How many attempts were made. -/
  attempts : Nat
  /-- Why the last one failed. -/
  last : AttemptFault
deriving DecidableEq, Repr

/-- The cause of a failed attempt. -/
def AttemptFault.cause (url : String) : AttemptFault → Cause
  | .noAnswer => .noAnswer url
  | .status s => .unexpectedStatus url s
  | .torn => .bodyTorn url

/-- The failure of a fetch. -/
def FetchFault.failure (f : FetchFault) : Failure where
  cause :=
    if f.isCancelled then .retriesCancelled f.url f.attempts
    else .retriesExhausted f.url f.attempts
  behind := [f.last.cause f.url]

/-- What a reply gives. -/
def Reply.body : Reply → Except AttemptFault Bytes
  | .answered s bytes => if s = .ok then .ok bytes else .error (.status s)
  | .torn s => .error (if s = .ok then .torn else .status s)
  | .lost => .error .noAnswer

/-- One attempt. Without a usable URL there is nothing to send. -/
def attempt (url : String) (body : Option Bytes) : Exchange (Except AttemptFault Bytes) :=
  match Url.parse url with
  | .error _ => .done (.error .noAnswer)
  | .ok u => .send ⟨u, body⟩ fun reply => .done reply.body

/-- Attempts one after the other: `left` more than the next one, which comes
    after `made`. -/
def attempts (p : RetryPolicy) (isCancelled : Bool) (url : String) (body : Option Bytes) :
    Nat → Nat → Backoff → Exchange (Except FetchFault Bytes)
  | left, made, b =>
    (attempt url body).bind fun
      | .ok bytes => .done (.ok bytes)
      | .error last =>
        match left with
        | 0 => .done (.error ⟨url, false, made + 1, last⟩)
        | left + 1 =>
          match b.next? p with
          | none => .done (.error ⟨url, false, made + 1, last⟩)
          | some b =>
            if isCancelled then .done (.error ⟨url, true, made + 1, last⟩)
            else attempts p isCancelled url body left (made + 1) b

/-- Fetches a URL, with at least one attempt. -/
def fetch (p : RetryPolicy) (isCancelled : Bool) (url : String) (body : Option Bytes) :
    Exchange (Except FetchFault Bytes) :=
  attempts p isCancelled url body (p.maxAttempts.toNat - 1) 0 (.start p)

end ChainRelay.Http
