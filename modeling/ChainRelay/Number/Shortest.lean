import ChainRelay.Number.Binary64

/-!
# The shortest decimal of a floating-point number

Among the decimals that round to a number, the one with the fewest digits, and
of several the nearest. `Shortest.ofFinite` finds its digits; `Shortest.json`
and `Shortest.plain` are the two ways they are written.
-/

namespace ChainRelay

/-- The decimal `digits * 10 ^ exponent`. -/
structure Decimal where
  /-- The digits, read as one number without a trailing zero. -/
  digits : Nat
  /-- The power of ten of the last digit. -/
  exponent : Int
deriving DecidableEq, Repr

namespace Shortest

/-- A magnitude in units of `2 ^ (q - 1076)`: four times the mantissa, and the
    ends of the interval that rounds to it. -/
structure Interval where
  /-- The lower end. -/
  low : Nat
  /-- The magnitude. -/
  mid : Nat
  /-- The upper end. -/
  high : Nat
  /-- Whether the ends themselves round to the magnitude. -/
  closed : Bool

/-- The interval of a finite number. Below a power of two the next number is
    nearer. -/
def interval (x : Binary64) : Interval where
  low := if x.fractionField = 0 ∧ 1 < x.exponentField then 4 * x.mantissa - 1
    else 4 * x.mantissa - 2
  mid := 4 * x.mantissa
  high := 4 * x.mantissa + 2
  closed := x.mantissa % 2 = 0

/-- `units * 2 ^ (q - 1076) / 10 ^ k` as numerator and denominator. -/
def onGrid (q units : Nat) (k : Int) : Nat × Nat :=
  match k with
  | .ofNat k => (units * Nat.pow 2 q, Nat.pow 2 1076 * Nat.pow 10 k)
  | .negSucc k => (units * Nat.pow 2 q * Nat.pow 10 (k + 1), Nat.pow 2 1076)

/-- Whether the multiple `d` of `10 ^ k` lies in the interval. -/
def within (i : Interval) (q d : Nat) (k : Int) : Bool :=
  let low := onGrid q i.low k
  let high := onGrid q i.high k
  if i.closed then low.1 ≤ d * low.2 && d * high.2 ≤ high.1
  else low.1 < d * low.2 && d * high.2 < high.1

/-- The nearest multiple of `10 ^ k` in the interval, of the two next to the
    magnitude. -/
def candidate? (i : Interval) (q : Nat) (k : Int) : Option Nat :=
  let mid := onGrid q i.mid k
  let below := mid.1 / mid.2
  let rest := mid.1 % mid.2
  let nearest :=
    if 2 * rest < mid.2 ∨ (2 * rest = mid.2 ∧ below % 2 = 0) then [below, below + 1]
    else [below + 1, below]
  nearest.find? fun d => d ≠ 0 && within i q d k

/-- The power of ten of the leading digit of `num / den`, at least. -/
def leading (num den : Nat) : Int :=
  let guess : Int := ((Nat.toDigits 10 num).length : Int) - (Nat.toDigits 10 den).length
  let reached : Bool := match guess with
    | .ofNat k => den * Nat.pow 10 k ≤ num
    | .negSucc k => den ≤ num * Nat.pow 10 (k + 1)
  if reached then guess else guess - 1

/-- Takes trailing zeros off the digits. -/
def strip : Nat → Decimal → Decimal
  | 0, d => d
  | fuel + 1, d =>
    if d.digits ≠ 0 ∧ d.digits % 10 = 0 then strip fuel ⟨d.digits / 10, d.exponent + 1⟩ else d

/-- The shortest decimal of the magnitude of a finite number. Seventeen digits
    always suffice. -/
def ofFinite (x : Binary64) : Decimal :=
  if x.mantissa = 0 then ⟨0, 0⟩
  else
    let i := interval x
    let top := leading x.ratio.1 x.ratio.2
    let found := (List.range 17).findSome? fun (n : Nat) =>
      (candidate? i x.scale (top - n)).map fun d => (⟨d, top - n⟩ : Decimal)
    strip 20 (found.getD ⟨0, 0⟩)

/-- `digits * 10 ^ exponent` with a point and at least one digit on both sides
    of it. -/
def positional (d : Decimal) : String :=
  let ds := Nat.toDigits 10 d.digits
  let point : Int := ds.length + d.exponent
  if 0 ≤ d.exponent then
    String.ofList (ds ++ List.replicate d.exponent.toNat '0') ++ ".0"
  else if 0 < point then
    String.ofList (ds.take point.toNat ++ '.' :: ds.drop point.toNat)
  else
    "0." ++ String.ofList (List.replicate (-point).toNat '0' ++ ds)

/-- One digit before the point, none after it if there is no other, and the
    exponent with its sign. -/
def scientific (d : Decimal) : String :=
  let ds := Nat.toDigits 10 d.digits
  let exponent : Int := ds.length + d.exponent - 1
  let fraction := ds.drop 1
  String.ofList (ds.take 1) ++ (if fraction.isEmpty then "" else "." ++ String.ofList fraction)
    ++ "e" ++ (if exponent < 0 then "-" else "+") ++ toString exponent.natAbs

/-- The minus sign of a negative number. -/
def sign (x : Binary64) : String := if x.isNegative then "-" else ""

/-- The text of a number in JSON: positional from `1e-5` up to below `1e16`,
    otherwise scientific. JSON has no infinity. -/
def json (x : Binary64) : String :=
  if !x.isFinite then "null"
  else
    let d := ofFinite x
    let point : Int := (Nat.toDigits 10 d.digits).length + d.exponent
    sign x ++ (if -5 < point ∧ point ≤ 16 then positional d else scientific d)

/-- The text of a number in a message about a configuration: always positional. -/
def plain (x : Binary64) : String :=
  if x.isNaN then "NaN"
  else if !x.isFinite then sign x ++ "inf"
  else sign x ++ positional (ofFinite x)

end Shortest

end ChainRelay
