import ChainRelay.Json.Codec

/-!
# Addresses

Accounts on any chain. As chains disagree on the case of addresses, two that
differ only in the case of ASCII letters are the same account; each is still
shown as it was given.
-/

namespace ChainRelay

/-- An account on some chain. -/
structure Address where
  /-- The address as it was given. -/
  text : String
deriving DecidableEq, Repr

namespace Address

/-- Whether there is nothing to address. -/
def isEmpty (a : Address) : Bool := a.text = ""

/-- An upper-case ASCII letter as a lower-case one. -/
def lowerByte (b : UInt8) : UInt8 := if 65 ≤ b ∧ b ≤ 90 then b + 32 else b

/-- The bytes of the address, with ASCII letters in lower case. -/
def folded (a : Address) : Bytes := (Utf8.encode a.text).map lowerByte

/-- Whether two addresses are the same account. -/
def same (a b : Address) : Bool := a.folded = b.folded

/-- The bytes by which an address is found in a set: those that it shares with
    all addresses of the account, and one that is in no text to end them. -/
def hashInput (a : Address) : Bytes := a.folded ++ [0xff]

/-- Adds an address to a set unless its account is there. -/
def insert (set : List Address) (a : Address) : List Address :=
  if set.any a.same then set else set ++ [a]

/-- The set of some addresses, one for each account. -/
def setOf (addresses : List Address) : List Address := addresses.foldl insert []

/-- Addresses as texts. -/
def codec : Codec Address := .iso .text Address.mk Address.text

end Address

end ChainRelay
