/-!
# Binary floating-point numbers

The 64-bit format with its values as exact ratios. `Binary64.ofRatio` rounds a
ratio to the nearest number, half to the even one, and the operations that are
needed (`mul`, `div`) round the exact result in the same way.
-/

namespace ChainRelay

/-- A 64-bit floating-point number, by its bits: sign, eleven bits of exponent,
    fifty-two of fraction. -/
structure Binary64 where
  /-- The sixty-four bits. -/
  bits : UInt64
deriving DecidableEq, Repr

namespace Binary64

/-- The exponent field. -/
def exponentField (x : Binary64) : Nat := x.bits.toNat / Nat.pow 2 52 % Nat.pow 2 11

/-- The fraction field. -/
def fractionField (x : Binary64) : Nat := x.bits.toNat % Nat.pow 2 52

/-- Whether the sign bit is set. -/
def isNegative (x : Binary64) : Bool := Nat.pow 2 63 ≤ x.bits.toNat

/-- Whether the number is one, and no infinity. -/
def isFinite (x : Binary64) : Bool := x.exponentField ≠ 2047

/-- Whether this is no number at all. -/
def isNaN (x : Binary64) : Bool := x.exponentField = 2047 ∧ x.fractionField ≠ 0

/-- The natural number `m` of the magnitude `m * 2 ^ (q - 1074)`. -/
def mantissa (x : Binary64) : Nat :=
  if x.exponentField = 0 then x.fractionField else x.fractionField + Nat.pow 2 52

/-- The natural number `q` of the magnitude `m * 2 ^ (q - 1074)`. -/
def scale (x : Binary64) : Nat := x.exponentField - 1

/-- The magnitude of a finite number, as numerator and denominator. -/
def ratio (x : Binary64) : Nat × Nat := (x.mantissa * Nat.pow 2 x.scale, Nat.pow 2 1074)

/-- The number of other sign. -/
def neg (x : Binary64) : Binary64 := ⟨x.bits ^^^ 0x8000000000000000⟩

/-- Positive zero. -/
def zero : Binary64 := ⟨0⟩

/-- Positive infinity. -/
def infinity : Binary64 := ⟨0x7FF0000000000000⟩

/-- No number. -/
def nan : Binary64 := ⟨0x7FF8000000000000⟩

/-- The natural number nearest to `num / den`, half to the even one. -/
def roundDiv (num den : Nat) : Nat :=
  let q := num / den
  let r := num % den
  if 2 * r < den then q
  else if den < 2 * r then q + 1
  else if q % 2 = 0 then q else q + 1

/-- The number nearest to `num / den`, half to the even one; infinity beyond the
    greatest. -/
def ofRatio (num den : Nat) : Binary64 :=
  if num = 0 then zero
  else
    -- The magnitude over `2 ^ (q - 1074)` lies below `2 ^ 53`, and from `2 ^ 52` on unless `q = 0`.
    let guess := num.log2 + 1074 - den.log2 - 52
    let q := if num * Nat.pow 2 1074 < den * Nat.pow 2 (guess + 52) then guess - 1 else guess
    let bits := q * Nat.pow 2 52 + roundDiv (num * Nat.pow 2 1074) (den * Nat.pow 2 q)
    if bits < 2047 * Nat.pow 2 52 then ⟨UInt64.ofNat bits⟩ else infinity

/-- The number nearest to a natural number. -/
def ofNat (n : Nat) : Binary64 := ofRatio n 1

/-- The number nearest to an integer. -/
def ofInt (n : Int) : Binary64 := if n < 0 then (ofNat n.natAbs).neg else ofNat n.natAbs

/-- The number nearest to `10 ^ n`. -/
def powerOfTen (n : Nat) : Binary64 := ofNat (Nat.pow 10 n)

/-- The rounded product of two finite magnitudes. -/
def mul (x y : Binary64) : Binary64 :=
  ofRatio (x.ratio.1 * y.ratio.1) (x.ratio.2 * y.ratio.2)

/-- The rounded quotient of two finite magnitudes, the second not zero. -/
def div (x y : Binary64) : Binary64 :=
  ofRatio (x.ratio.1 * y.ratio.2) (x.ratio.2 * y.ratio.1)

end Binary64

end ChainRelay
