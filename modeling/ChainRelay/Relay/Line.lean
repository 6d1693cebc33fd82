import ChainRelay.Json.Reader
import ChainRelay.Relay.Basic

/-!
# Lines between a relay and its agent

A relay leaves it to an agent to carry its requests over the network and to keep
the time. Both talk in JSON texts, one a line: the relay writes requests, and the
agent writes what has happened.
-/

namespace ChainRelay

/-- The name of who waits for a reply. -/
def Asker.text : Asker → String
  | relay => "relay"
  | task .scan => "scan"
  | task .reoffer => "reoffer"
  | task (.worker index) => "worker " ++ toString index

/-- The line that has a request carried out. -/
def Asker.requestLine (asker : Asker) (request : Http.Request) : String :=
  (Json.object ([
    ("asker", .text asker.text),
    ("secure", .bool request.url.isSecure),
    ("host", .text request.url.host.text),
    ("port", match request.url.port with
      | some port => .ofNat port
      | none => .null),
    ("target", .text request.url.target)]
    ++ match request.body with
      | some body => [("body", .text (Utf8.lossy body))]
      | none => [])).render

/-- What an agent tells. -/
inductive Happening
  /-- A reply has come. -/
  | replied (asker : String) (reply : Http.Reply)
  /-- It is time to ask for the chain head again. -/
  | rested
  /-- Failed heights are due. -/
  | due
  /-- The relay is interrupted. -/
  | interrupted
deriving DecidableEq, Repr

namespace Happening

/-- The reply in a line: one without a status is lost, and one without a body has
    broken off. -/
def replyOf (line : Json) : Http.Reply :=
  match line.get "status", line.get "body" with
  | .number (.integer status), .text body => .answered ⟨status.toNat⟩ (Utf8.encode body)
  | .number (.integer status), _ => .torn ⟨status.toNat⟩
  | _, _ => .lost

/-- What a line tells. -/
def ofLine? (line : String) : Option Happening :=
  match Codec.value.ofBytes (Utf8.encode line) Doc.read with
  | .ok (.text "rested") => some rested
  | .ok (.text "due") => some due
  | .ok (.text "interrupted") => some interrupted
  | .ok line => (line.get? "asker").map fun asker => replied asker.string (replyOf line)
  | .error _ => none

end Happening

/-- The relay once something has happened. -/
def Relay.after (r : Relay) : Happening → Relay
  | .rested => r.rested
  | .due => r.due
  | .interrupted => r.interrupt
  | .replied asker reply =>
    match r.requests.find? fun (a, _) => a.text = asker with
    | some (a, _) => r.reply a reply
    | none => r

end ChainRelay
