import ChainRelay.Address
import ChainRelay.Json.Record

/-!
# Node accounts

How a node stands with THORChain. A status that is not known here is read as
`unknown`; neither that nor a disabled node may send transactions.
-/

namespace ChainRelay

/-- The standing of a node. -/
inductive NodeStatus
  | whitelisted
  | standby
  | ready
  | active
  | disabled
  | unknown
deriving DecidableEq, Repr

namespace NodeStatus

/-- The name of a status. -/
def text : NodeStatus → String
  | whitelisted => "whitelisted"
  | standby => "standby"
  | ready => "ready"
  | active => "active"
  | disabled => "disabled"
  | unknown => "unknown"

/-- The status with a name. -/
def ofText : String → NodeStatus
  | "whitelisted" => whitelisted
  | "standby" => standby
  | "ready" => ready
  | "active" => active
  | "disabled" => disabled
  | _ => unknown

/-- Statuses by their names. -/
def codec : Codec NodeStatus := .names text fun s => some (ofText s)

end NodeStatus

/-- A node. -/
structure NodeAccount where
  /-- Its address. -/
  address : Address
  /-- How it stands. -/
  status : NodeStatus
  /-- Who has put up its bond. -/
  bond : Option Address
deriving DecidableEq, Repr

namespace NodeAccount

/-- Whether the node may send transactions. -/
def isWhitelisted (a : NodeAccount) : Bool := a.status ≠ .disabled && a.status ≠ .unknown

/-- Nodes as objects. -/
def codec : Codec NodeAccount :=
  .record
    (.cons (.required "node_address" Address.codec) <|
      .cons (.required "status" NodeStatus.codec) <|
      .cons (.optional "bond_address" (.option Address.codec) none) .nil)
    (fun (address, status, bond, ()) => ⟨address, status, bond⟩)
    (fun a => (a.address, a.status, a.bond, ()))

end NodeAccount

end ChainRelay
