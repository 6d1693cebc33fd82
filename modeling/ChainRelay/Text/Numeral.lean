/-!
# Numerals

Natural numbers as text, read with a bound. `Numeral.read?` takes an optional
plus sign and digits up to a radix, and refuses a number of which some leading
part passes the bound; `Numeral.decimal` writes.
-/

namespace ChainRelay.Numeral

/-- Why a text is no number. -/
inductive Fault
  /-- There is no digit and no sign. -/
  | empty
  /-- A character is no digit. -/
  | invalidDigit
  /-- The number passes the bound. -/
  | tooLarge
deriving DecidableEq, Repr

/-- What a message tells about the fault. -/
def Fault.message : Fault → String
  | .empty => "cannot parse integer from empty string"
  | .invalidDigit => "invalid digit found in string"
  | .tooLarge => "number too large to fit in target type"

/-- The value of a digit, if it is one in `radix` (at most sixteen). -/
def digit? (radix : Nat) (c : Char) : Option Nat :=
  let value :=
    if '0' ≤ c ∧ c ≤ '9' then c.toNat - 48
    else if 'a' ≤ c ∧ c ≤ 'f' then c.toNat - 87
    else if 'A' ≤ c ∧ c ≤ 'F' then c.toNat - 55
    else radix
  if value < radix then some value else none

/-- Appends digits to the number read so far. -/
def readDigits (radix bound : Nat) : List Char → Nat → Except Fault Nat
  | [], value => .ok value
  | c :: rest, value =>
    match digit? radix c with
    | none => .error .invalidDigit
    | some d =>
      if value * radix + d < bound then readDigits radix bound rest (value * radix + d)
      else .error .tooLarge

/-- The number below `bound` that a text stands for. -/
def read (radix bound : Nat) : List Char → Except Fault Nat
  | [] => .error .empty
  | ['+'] => .error .invalidDigit
  | '+' :: rest => readDigits radix bound rest 0
  | cs => readDigits radix bound cs 0

/-- The 64-bit number that a text stands for. -/
def read64 (radix : Nat) (s : String) : Except Fault UInt64 :=
  (read radix (Nat.pow 2 64) s.toList).map UInt64.ofNat

/-- The 64-bit number that a decimal text stands for. -/
def readDecimal (s : String) : Except Fault UInt64 :=
  read64 10 s

/-- The decimal digits of a number. -/
def decimal (n : Nat) : String :=
  String.ofList (Nat.toDigits 10 n)

/-- The decimal digits of a 64-bit number. -/
def ofWord (n : UInt64) : String :=
  decimal n.toNat

end ChainRelay.Numeral
