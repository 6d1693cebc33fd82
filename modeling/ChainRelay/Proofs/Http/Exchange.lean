import ChainRelay.Http.Exchange

/-!
# Carrying out exchanges

An exchange that goes on with another is carried out by carrying out the one
after the other, the second from the state in which the first leaves the server.

The trace of an exchange is what is sent on the way, each request with its reply. A
server that keeps a record of that replies as it would without (`run_recorded`), so
what is known of how an exchange leaves any server is known of its trace.
-/

namespace ChainRelay.Http

namespace Exchange

variable {α β σ : Type} (serve : Request → σ → Reply × σ)

theorem run_bind (x : Exchange α) (f : α → Exchange β) (s : σ) :
    (x.bind f).run serve s = (f (x.run serve s).1).run serve (x.run serve s).2 := by
  induction x generalizing s with
  | done a => rfl
  | send request next ih => exact ih _ _

theorem run_bind' (x : Exchange α) (f : α → Exchange β) (s : σ) :
    (x >>= f).run serve s = (f (x.run serve s).1).run serve (x.run serve s).2 :=
  run_bind serve x f s

theorem bind_assoc {γ : Type} (x : Exchange α) (f : α → Exchange β) (g : β → Exchange γ) :
    (x.bind f).bind g = x.bind fun a => (f a).bind g := by
  induction x with
  | done a => rfl
  | send request next ih => exact congrArg (send request) (funext ih)

/-- What is sent when an exchange is carried out, with the replies. -/
def trace : Exchange α → σ → List (Request × Reply)
  | done _, _ => []
  | send request next, s =>
    (request, (serve request s).1) ::
      (next (serve request s).1).trace (serve request s).2

theorem trace_bind (x : Exchange α) (f : α → Exchange β) (s : σ) :
    (x.bind f).trace serve s =
      x.trace serve s ++ (f (x.run serve s).1).trace serve (x.run serve s).2 := by
  induction x generalizing s with
  | done a => rfl
  | send request next ih => exact congrArg (List.cons _) (ih _ _)

end Exchange

/-- A server that keeps a record of what is sent and replied. -/
def recorded {σ : Type} (serve : Request → σ → Reply × σ) (request : Request)
    (now : σ × List (Request × Reply)) : Reply × (σ × List (Request × Reply)) :=
  let (reply, s) := serve request now.1
  (reply, (s, now.2 ++ [(request, reply)]))

theorem run_recorded {α σ : Type} (serve : Request → σ → Reply × σ) (x : Exchange α) (s : σ)
    (record : List (Request × Reply)) :
    x.run (recorded serve) (s, record) =
      ((x.run serve s).1, ((x.run serve s).2, record ++ x.trace serve s)) := by
  induction x generalizing s record with
  | done a => simp [Exchange.run, Exchange.trace]
  | send request next ih =>
    rw [Exchange.run, Exchange.run, Exchange.trace, recorded]
    simp only [ih, List.append_assoc, List.singleton_append]

/-- A node that replies what a list holds, and then nothing more. -/
def scripted : Request → List Reply → Reply × List Reply
  | _, [] => (.lost, [])
  | _, reply :: replies => (reply, replies)

end ChainRelay.Http
