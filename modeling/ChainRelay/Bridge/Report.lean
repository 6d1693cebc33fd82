import ChainRelay.Bridge.Basic
import ChainRelay.Envelope

/-!
# Reports to THORChain

What a bridge tells THORChain, as unsigned transactions. Of observations, those
that pay into the vault they were seen at are told apart from those that pay out
of it.
-/

namespace ChainRelay

/-- Which way an observed transaction moves funds. -/
inductive Direction
  /-- Into the vault. -/
  | inbound
  /-- Out of the vault. -/
  | outbound
deriving DecidableEq, Repr

/-- Which way an observed transaction moves funds, as seen from its vault. -/
def Observation.direction (o : Observation) : Outcome Direction :=
  let chain := o.transaction.addressChain
  match o.vault.address? chain with
  | none => .error (.message (PublicKey.underivableMessage chain))
  | some vault =>
    if o.transaction.receiver.same vault then .ok .inbound
    else if o.transaction.sender.same vault then .ok .outbound
    else .error (.of (.ambiguousDirection o.transaction.id))

/-- Observations as they are reported. -/
structure Sorted where
  /-- Those that pay into their vaults. -/
  inbound : List Observation
  /-- Those that pay out of them. -/
  outbound : List Observation
deriving DecidableEq

/-- Sorts observations by their direction; each kind stays in order. -/
def Sorted.ofObservations : List Observation → Outcome Sorted
  | [] => .ok ⟨[], []⟩
  | o :: rest => do
    let direction ← o.direction
    let sorted ← ofObservations rest
    match direction with
    | .inbound => return { sorted with inbound := o :: sorted.inbound }
    | .outbound => return { sorted with outbound := o :: sorted.outbound }

/-- The messages about sorted observations, none of them empty. -/
def Sorted.messages (s : Sorted) (signer : Address) : List Message :=
  (if s.inbound.isEmpty then [] else [.inbound ⟨s.inbound, signer⟩])
    ++ if s.outbound.isEmpty then [] else [.outbound ⟨s.outbound, signer⟩]

namespace Bridge

/-- The report that the signing of a transaction has failed. -/
def keysignFailure (b : Bridge) (height : UInt64) (blame : Blame) (memo : String)
    (coins : List Coin) : Call Envelope := do
  Call.count .reportBuilt
  return .unsigned [.keysignFailed (.report height blame memo coins b.signer.address)]

/-- The report of how the making of a new vault has ended. -/
def keygenReport (b : Bridge) (members : List PublicKey) (poolKey : PublicKey) (kind : KeygenKind)
    (height : UInt64) (blame : Blame) : Call Envelope := do
  Call.count .reportBuilt
  return .unsigned [.keygen (.report members poolKey kind height blame b.signer.address)]

/-- The report of what was observed. -/
def observations (b : Bridge) (observed : List Observation) : Call Envelope := do
  if observed.isEmpty then Call.fail .nothingToSign (.of .nothingToSign)
  else do
    Call.count .reportBuilt
    let sorted ← Call.ofOutcome (Sorted.ofObservations observed)
    return .unsigned (sorted.messages b.signer.address)

end Bridge

end ChainRelay
