import ChainRelay.Text.Quoted
import ChainRelay.Text.Utf8

/-!
# Hexadecimal bytes

Two digits a byte. Writing uses one case throughout; reading takes either and
tells the first byte that is no digit.
-/

namespace ChainRelay.Hex

/-- Why a text is no hexadecimal byte string. -/
inductive Fault
  /-- A byte lacks its second digit. -/
  | oddLength
  /-- The byte at a position is no digit. -/
  | invalidDigit (byte : UInt8) (position : Nat)
deriving DecidableEq, Repr

/-- What a message tells about the fault. -/
def Fault.message : Fault → String
  | .oddLength => "Odd number of digits"
  | .invalidDigit byte position =>
    "Invalid character " ++ Quoted.ofChar (Char.ofNat byte.toNat) ++ " at position "
      ++ toString position

/-- The digit for a number below sixteen, from `a` or `A` on for ten. -/
def digit (ten : Char) (n : Nat) : Char :=
  if n < 10 then Char.ofNat (48 + n) else Char.ofNat (ten.toNat + (n - 10))

/-- The digits of bytes. -/
def digits (ten : Char) (bytes : Bytes) : List Char :=
  bytes.flatMap fun b => [digit ten (b.toNat / 16), digit ten (b.toNat % 16)]

/-- Bytes in lower-case digits. -/
def lower (bytes : Bytes) : String := String.ofList (digits 'a' bytes)

/-- Bytes in upper-case digits. -/
def upper (bytes : Bytes) : String := String.ofList (digits 'A' bytes)

/-- The value of a digit of either case. -/
def value? (b : UInt8) : Option Nat :=
  if 48 ≤ b ∧ b ≤ 57 then some (b.toNat - 48)
  else if 97 ≤ b ∧ b ≤ 102 then some (b.toNat - 87)
  else if 65 ≤ b ∧ b ≤ 70 then some (b.toNat - 55)
  else none

/-- Reads pairs of digits, the first of them at `position`. -/
def pairs (position : Nat) : Bytes → Except Fault Bytes
  | a :: b :: rest =>
    match value? a, value? b with
    | none, _ => .error (.invalidDigit a position)
    | some _, none => .error (.invalidDigit b (position + 1))
    | some high, some low => do
      let bytes ← pairs (position + 2) rest
      return UInt8.ofNat (high * 16 + low) :: bytes
  | _ => .ok []

/-- The bytes that a text of digits stands for. -/
def decode (s : String) : Except Fault Bytes :=
  let bytes := Utf8.encode s
  if bytes.length % 2 = 1 then .error .oddLength else pairs 0 bytes

end ChainRelay.Hex
