import ChainRelay.Json.Codec

/-!
# Transaction ids

The hash of a transaction on any chain, in upper-case digits and without the
mark `0x`.
-/

namespace ChainRelay

/-- The hash of a transaction. -/
structure TxId where
  /-- Its digits, in upper case. -/
  text : String
deriving DecidableEq, Repr

namespace TxId

/-- Why a text is no id. -/
inductive Fault
  /-- No digit is left. -/
  | empty
  /-- Some character is no digit. -/
  | notHex (digits : String)
deriving DecidableEq, Repr

/-- What a message tells about the fault. -/
def Fault.message : Fault → String
  | .empty => "tx id is empty"
  | .notHex digits => "tx id " ++ digits ++ " is not hex"

/-- Characters without the marks at their start. -/
def dropMarks : List Char → List Char
  | '0' :: 'x' :: rest => dropMarks rest
  | cs => cs

/-- The id that a text stands for. -/
def parse (s : String) : Except Fault TxId :=
  let digits := dropMarks s.toList
  if digits.isEmpty then .error .empty
  else if digits.all fun c => (Numeral.digit? 16 c).isSome then
    .ok ⟨String.ofList (digits.map Char.toUpper)⟩
  else .error (.notHex (String.ofList digits))

/-- The id of a transaction whose hash was computed here. -/
def ofDigest (digest : Bytes) : TxId := ⟨Hex.upper digest⟩

/-- Ids by their texts. -/
def codec : Codec TxId := .written text fun s => (parse s).mapError Fault.message

end TxId

end ChainRelay
