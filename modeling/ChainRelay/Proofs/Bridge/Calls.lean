import ChainRelay.Bridge.Basic
import ChainRelay.Proofs.Crypto.LeastKey
import ChainRelay.Proofs.Http.Exchange
import Mathlib.Tactic.Common

/-!
# Carrying out calls

A call is carried out from a scene, which is the session of the bridge and the
state of the server (`Call.play`); it comes to an end and the next scene. One
equation for each way to make a call says how it is carried out.
-/

namespace ChainRelay

/-- What there is before and after a call. -/
structure Scene (σ : Type) where
  /-- What the bridge remembers. -/
  session : Session
  /-- The state of the server. -/
  server : σ

namespace Call

variable {α β σ : Type} (serve : Http.Request → σ → Http.Reply × σ)

/-- Carries out a call against a server. -/
def play (call : Call α) (now : Scene σ) : Ending α × Scene σ :=
  let result := (call.run now.session).run serve now.server
  (result.1.1, ⟨result.1.2, result.2⟩)

variable (now : Scene σ)

theorem play_get : (get : Call Session).play serve now = (.ok now.session, now) := rfl

theorem play_modify (f : Session → Session) :
    (modify f : Call Unit).play serve now = (.ok (), { now with session := f now.session }) := rfl

/-- A call that goes on from the result of another and its session. -/
theorem play_of_bind {call : Call α} {next : Call β}
    (go : Ending α × Session → Http.Exchange (Ending β × Session))
    (h : next.run now.session = (call.run now.session).bind go) :
    next.play serve now =
      (let result := (go ((call.play serve now).1, (call.play serve now).2.session)).run serve
        (call.play serve now).2.server
      (result.1.1, ⟨result.1.2, result.2⟩)) := by
  rw [play, h, Http.Exchange.run_bind]
  rfl

theorem play_bind (call : Call α) (f : α → Call β) :
    (call >>= f).play serve now =
      match call.play serve now with
      | (.ok a, next) => (f a).play serve next
      | (.error e, next) => (.error e, next)
      | (.broken why, next) => (.broken why, next) := by
  rw [play_of_bind serve now _ rfl]
  rcases call.play serve now with ⟨a | e | why, next⟩ <;> rfl

theorem play_tryCatch (call : Call α) (handle : Failure → Call α) :
    (tryCatch call handle).play serve now =
      match call.play serve now with
      | (.ok a, next) => (.ok a, next)
      | (.error e, next) => (handle e).play serve next
      | (.broken why, next) => (.broken why, next) := by
  rw [play_of_bind serve now _ rfl]
  rcases call.play serve now with ⟨a | e | why, next⟩ <;> rfl

theorem play_exchange (x : Http.Exchange α) :
    (exchange x).play serve now
      = (.ok (x.run serve now.server).1, ⟨now.session, (x.run serve now.server).2⟩) := by
  have h : (exchange x).run now.session = x.bind fun a => .done (.ok a, now.session) := rfl
  rw [play, h, Http.Exchange.run_bind]
  rfl

theorem play_within (context : String) (call : Call α) :
    (within context call).play serve now
      = ((call.play serve now).1.mapError (·.within context), (call.play serve now).2) := by
  rw [within, play_tryCatch]
  rcases call.play serve now with ⟨a | e | why, next⟩ <;> rfl

end Call

namespace Scene

variable {σ : Type}

/-- A scene after another: the server has come to a state, and the session is as it
    was but for its log. -/
structure Continues (next now : Scene σ) (server : σ) : Prop where
  /-- The account is kept. -/
  account : next.session.account = now.session.account
  /-- The bridge is stopped if it was before. -/
  isStopped : next.session.isStopped = now.session.isStopped
  /-- The state of the server. -/
  server : next.server = server

theorem Continues.trans {last next now : Scene σ} {server server' : σ}
    (h : next.Continues now server) (h' : last.Continues next server') :
    last.Continues now server' :=
  ⟨h'.account.trans h.account, h'.isStopped.trans h.isStopped, h'.server⟩

end Scene

/-! ## Calls that keep the account -/

/-- An end tells a result, or that there is none for a failure. -/
inductive Ending.Tells {α : Type} : Ending α → Option α → Prop
  /-- There is a result. -/
  | ok (a : α) : Tells (.ok a) (some a)
  /-- There is a failure. -/
  | error (e : Failure) : Tells (.error e) none

theorem Ending.Tells.mapError {α : Type} {ending : Ending α} {result : Option α}
    (h : ending.Tells result) (f : Failure → Failure) : (ending.mapError f).Tells result := by
  cases h with
  | ok a => exact .ok a
  | error e => exact .error (f e)

namespace Call

variable {α β σ : Type}

theorem toOption_mapError {ε ε' : Type} (f : ε → ε') (outcome : Except ε α) :
    (outcome.mapError f).toOption = outcome.toOption := by
  cases outcome with
  | ok a => rfl
  | error e => rfl

/-- A call gives a result, or fails if there is none, and brings the server to a
    state; the session is as before but for its log. -/
structure Gives (serve : Http.Request → σ → Http.Reply × σ) (call : Call α) (now : Scene σ)
    (result : Option α) (server : σ) : Prop where
  /-- The result. -/
  result : (call.play serve now).1.Tells result
  /-- The scene behind it. -/
  continues : (call.play serve now).2.Continues now server

/-- A call gives the same wherever it is carried out, and exchanges nothing. -/
def Decides (serve : Http.Request → σ → Http.Reply × σ) (call : Call α) (result : Option α) :
    Prop :=
  ∀ now, call.Gives serve now result now.server

variable {serve : Http.Request → σ → Http.Reply × σ} {call : Call α} {f : α → Call β}
  {now : Scene σ} {server : σ} {result : Option α}

namespace Gives

/-- A call gives what it comes to. -/
theorem of_play {ending : Ending α} {next : Scene σ} (h : call.play serve now = (ending, next))
    (hr : ending.Tells result) (hc : next.Continues now server) :
    call.Gives serve now result server := by
  refine ⟨?_, ?_⟩
  · rw [h]
    exact hr
  · rw [h]
    exact hc

/-- A call that gives something comes to a result or fails. -/
theorem cases (h : call.Gives serve now result server) :
    (∃ e next, result = none ∧ call.play serve now = (.error e, next) ∧
      next.Continues now server) ∨
    ∃ a next, result = some a ∧ call.play serve now = (.ok a, next) ∧
      next.Continues now server := by
  obtain ⟨hr, hc⟩ := h
  rcases hcall : call.play serve now with ⟨ending, next⟩
  rw [hcall] at hr hc
  cases hr with
  | ok a => exact .inr ⟨a, next, rfl, rfl, hc⟩
  | error e => exact .inl ⟨e, next, rfl, rfl, hc⟩

/-- A call that fails ends what it is part of; otherwise that goes on from the
    result. -/
theorem cases_bind (h : call.Gives serve now result server) (f : α → Call β) :
    (∃ e next, result = none ∧ (call >>= f).play serve now = (.error e, next) ∧
      next.Continues now server) ∨
    ∃ a next, result = some a ∧ (call >>= f).play serve now = (f a).play serve next ∧
      next.Continues now server := by
  have hplay := play_bind serve now call f
  rcases h.cases with ⟨e, next, hr, hcall, hc⟩ | ⟨a, next, hr, hcall, hc⟩
  · rw [hcall] at hplay
    exact .inl ⟨e, next, hr, hplay, hc⟩
  · rw [hcall] at hplay
    exact .inr ⟨a, next, hr, hplay, hc⟩

/-- What is decided after a call is decided from its result. -/
theorem bind {g : α → Option β} (h : call.Gives serve now result server)
    (hf : ∀ a, (f a).Decides serve (g a)) :
    (call >>= f).Gives serve now (result.bind g) server := by
  rcases h.cases_bind f with ⟨e, next, rfl, hplay, hc⟩ | ⟨a, next, rfl, hplay, hc⟩
  · exact of_play hplay (.error e) hc
  · obtain ⟨hr', hc'⟩ := hf a next
    exact of_play hplay hr' (hc.trans (hc.server ▸ hc'))

theorem within (context : String) (h : call.Gives serve now result server) :
    (within context call).Gives serve now result server :=
  of_play (play_within serve now context call) (h.result.mapError _) h.continues

theorem orCount (trouble : BridgeTrouble) (h : call.Gives serve now result server) :
    (call.orCount trouble).Gives serve now result server := by
  have hplay := play_tryCatch serve now call (fail trouble)
  rcases h.cases with ⟨e, next, rfl, hcall, hc⟩ | ⟨a, next, rfl, hcall, hc⟩
  · rw [hcall] at hplay
    exact of_play hplay (.error e) ⟨hc.account, hc.isStopped, hc.server⟩
  · rw [hcall] at hplay
    exact of_play hplay (.ok a) hc

end Gives

namespace Decides

theorem bind {g : α → Option β} (h : call.Decides serve result)
    (hf : ∀ a, (f a).Decides serve (g a)) : (call >>= f).Decides serve (result.bind g) :=
  fun now => (h now).bind hf

theorem pure (a : α) : (Pure.pure a : Call α).Decides serve (some a) :=
  fun _ => ⟨.ok a, rfl, rfl, rfl⟩

theorem ofThrow (e : Failure) : (throw e : Call α).Decides serve none :=
  fun _ => ⟨.error e, rfl, rfl, rfl⟩

theorem fail (trouble : BridgeTrouble) (e : Failure) :
    (Call.fail trouble e : Call α).Decides serve none := fun _ => ⟨.error e, rfl, rfl, rfl⟩

theorem ofOutcome (outcome : Outcome α) : (ofOutcome outcome).Decides serve outcome.toOption := by
  cases outcome with
  | ok a => exact .pure a
  | error e => exact .ofThrow e

end Decides

end Call

/-- A bridge with the least key. -/
def Bridge.plain : Bridge := ⟨.standard, ⟨"relay", .least⟩⟩

end ChainRelay
