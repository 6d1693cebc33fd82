import ChainRelay.Text.Utf8

/-!
# Bech32

Bytes under a label, with a checksum of six digits: `label1digits`. Digits carry
five bits each. Two checksums are in use, which differ in the constant that a
sound text leaves; reading takes either, writing uses the first.
-/

namespace ChainRelay.Bech32

/-- Why a text is not in this form. -/
inductive Fault
  /-- It has no label and digits in one case. -/
  | malformed
  /-- It fits neither checksum. -/
  | checksum
deriving DecidableEq, Repr

/-- What a message tells about the fault. -/
def Fault.message : Fault → String
  | .malformed => "parsing failed"
  | .checksum => "no valid bech32 or bech32m checksum"

/-- The digits in the order of their values. -/
def alphabet : List Char := "qpzry9x8gf2tvdw0s3jn54khce6mua7l".toList

/-- The digit for a number below thirty-two. -/
def digit (n : Nat) : Char := alphabet.getD n 'q'

/-- The value of a digit of either case. -/
def value? (c : Char) : Option Nat := alphabet.idxOf? c.toLower

/-- The generator of the checksum, one constant for each of the five bits that
    leave the register. -/
def generator : List Nat := [0x3B6A57B2, 0x26508E6D, 0x1EA119FA, 0x3D4233DD, 0x2A1462B3]

/-- Feeds one value of five bits into the checksum register. -/
def step (register value : Nat) : Nat :=
  let top := register / Nat.pow 2 25
  let shifted := (register % Nat.pow 2 25 * 32) ^^^ value
  (List.range 5).foldl
    (fun acc i => if top.testBit i then acc ^^^ generator.getD i 0 else acc) shifted

/-- The checksum register after some values. -/
def residue (values : List Nat) : Nat := values.foldl step 1

/-- What the residue of a sound text is, and the alternative. -/
def residues : List Nat := [1, 0x2BC830A3]

/-- A label as values: the high bits, a zero, the low bits. -/
def spread (label : List Char) : List Nat :=
  label.map (·.toNat / 32) ++ [0] ++ label.map (·.toNat % 32)

/-- The six values that complete a text. -/
def checksum (label : List Char) (values : List Nat) : List Nat :=
  let r := residue (spread label ++ values ++ List.replicate 6 0) ^^^ 1
  (List.range 6).map fun i => r / Nat.pow 32 (5 - i) % 32

/-- Cuts the number `held` of `width` bits and the bytes after it into values of
    five bits, the most significant first; the last one is filled up with
    zeros. -/
def toFives (held width : Nat) : Bytes → List Nat
  | [] => if width = 0 then [] else [held * Nat.pow 2 (5 - width) % 32]
  | b :: rest =>
    let held := held * 256 + b.toNat
    let width := width + 8
    if width < 10 then
      held / Nat.pow 2 (width - 5) % 32 :: toFives (held % Nat.pow 2 (width - 5)) (width - 5) rest
    else
      held / Nat.pow 2 (width - 5) % 32 :: held / Nat.pow 2 (width - 10) % 32
        :: toFives (held % Nat.pow 2 (width - 10)) (width - 10) rest

/-- Joins the number `held` of `width` bits and the values of five bits after it
    to bytes; bits that fill no byte are dropped. -/
def toBytes (held width : Nat) : List Nat → Bytes
  | [] => []
  | v :: rest =>
    let held := held * 32 + v
    let width := width + 5
    if width < 8 then toBytes held width rest
    else
      UInt8.ofNat (held / Nat.pow 2 (width - 8)) :: toBytes (held % Nat.pow 2 (width - 8)) (width - 8) rest

/-- The text of bytes under a label. -/
def encode (label : String) (bytes : Bytes) : String :=
  let values := toFives 0 0 bytes
  label ++ "1" ++ String.ofList ((values ++ checksum label.toList values).map digit)

/-- Splits at the last `1`. -/
def split? (cs : List Char) : Option (List Char × List Char) :=
  let digits := cs.reverse.takeWhile (· ≠ '1')
  match cs.reverse.dropWhile (· ≠ '1') with
  | [] => none
  | _ :: label => some (label.reverse, digits.reverse)

/-- Whether a text mixes upper and lower case. -/
def isMixed (cs : List Char) : Bool :=
  cs.any (fun c => 'a' ≤ c && c ≤ 'z') && cs.any (fun c => 'A' ≤ c && c ≤ 'Z')

/-- Whether characters make a label: one to 83 visible ASCII characters. -/
def isLabel (cs : List Char) : Bool :=
  1 ≤ cs.length && cs.length ≤ 83 && cs.all fun c => 33 ≤ c.toNat && c.toNat ≤ 126

/-- The longest text that the checksum covers. -/
def maxLength : Nat := 1023

/-- The label, as written, and the bytes of a text. -/
def decode (s : String) : Except Fault (String × Bytes) :=
  let cs := s.toList
  match split? cs with
  | none => .error .malformed
  | some (label, digits) =>
    match digits.mapM value? with
    | none => .error .malformed
    | some values =>
      if isMixed cs || !isLabel label then .error .malformed
      else if values.length < 6 || maxLength < cs.length then .error .checksum
      else if residues.contains (residue (spread (label.map Char.toLower) ++ values)) then
        .ok (String.ofList label, toBytes 0 0 (values.take (values.length - 6)))
      else .error .checksum

end ChainRelay.Bech32
