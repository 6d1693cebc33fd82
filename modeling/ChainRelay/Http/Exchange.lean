import ChainRelay.Http.Status
import ChainRelay.Http.Url

/-!
# Exchanges

A computation that talks to servers: it sends requests and goes on with what it
gets back. `Exchange.run` carries one out against a server, which is a function
of its own state and the request; nothing else happens in between, so what a
computation sends depends on the replies alone.
-/

namespace ChainRelay.Http

/-- What is asked. -/
structure Request where
  /-- Where the request goes. -/
  url : Url
  /-- The JSON text that is posted; without one, the request only gets. -/
  body : Option Bytes
deriving DecidableEq, Repr

/-- What comes back. -/
inductive Reply
  /-- An answer with its whole body. -/
  | answered (status : Status) (body : Bytes)
  /-- An answer that breaks off in its body. -/
  | torn (status : Status)
  /-- No answer. -/
  | lost
deriving DecidableEq, Repr

/-- A computation that sends requests. -/
inductive Exchange (α : Type)
  /-- It has ended. -/
  | done (result : α)
  /-- It sends a request and goes on with the reply. -/
  | send (request : Request) (next : Reply → Exchange α)

namespace Exchange

variable {α β σ : Type}

/-- One computation after the other. -/
def bind (x : Exchange α) (f : α → Exchange β) : Exchange β :=
  match x with
  | done a => f a
  | send request next => send request fun reply => (next reply).bind f

instance : Monad Exchange where
  pure := done
  bind := bind

/-- Carries out a computation against a server. -/
def run (serve : Request → σ → Reply × σ) : Exchange α → σ → α × σ
  | done a, s => (a, s)
  | send request next, s =>
    let (reply, s) := serve request s
    run serve (next reply) s

end Exchange

end ChainRelay.Http
