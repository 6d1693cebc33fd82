import ChainRelay.Crypto.Sha256

/-!
# The curve secp256k1

Points of `y² = x³ + 7` over the integers modulo `field`, other than the one at
infinity, and their multiples. `Point.ofBytes?` reads the standard encodings of a
point and `Point.compressed` writes the shortest one.
-/

namespace ChainRelay.Secp256k1

/-- The prime that coordinates are counted modulo. -/
def field : Nat := 0xFFFFFFFFFFFFFFFFFFFFFFFFFFFFFFFFFFFFFFFFFFFFFFFFFFFFFFFEFFFFFC2F

/-- The number of points, with the one at infinity. -/
def order : Nat := 0xFFFFFFFFFFFFFFFFFFFFFFFFFFFFFFFEBAAEDCE6AF48A03BBFD25E8CD0364141

/-- Whether coordinates satisfy the equation of the curve. -/
def OnCurve (x y : Nat) : Prop :=
  x < field ∧ y < field ∧ y * y % field = (x * x * x + 7) % field

instance (x y : Nat) : Decidable (OnCurve x y) := by
  unfold OnCurve; infer_instance

/-- A point of the curve with its coordinates. -/
structure Point where
  /-- The first coordinate. -/
  x : Nat
  /-- The second coordinate. -/
  y : Nat
  /-- They satisfy the equation. -/
  onCurve : OnCurve x y
deriving DecidableEq

/-- `b ^ e % m` by repeated squaring. -/
def powMod (m b e : Nat) : Nat :=
  if e = 0 then 1 % m
  else
    let half := powMod m (b * b % m) (e / 2)
    if e % 2 = 1 then half * b % m else half
termination_by e
decreasing_by omega

/-- The inverse modulo a prime. -/
def inverse (m a : Nat) : Nat := powMod m a (m - 2)

namespace Point

/-- The point with some coordinates, if there is one. -/
def ofCoordinates? (x y : Nat) : Option Point :=
  if h : OnCurve x y then some ⟨x, y, h⟩ else none

/-- The point with a first coordinate and the parity of the second. As `field` is
    three modulo four, a square root is a power. -/
def ofParity? (x : Nat) (odd : Bool) : Option Point :=
  let y := powMod field ((x * x * x + 7) % field) ((field + 1) / 4)
  if (y % 2 = 1) = (odd = true) then ofCoordinates? x y else ofCoordinates? x (field - y)

/-- Whether the second coordinate is odd. -/
def isOdd (p : Point) : Bool := p.y % 2 = 1

/-- The number that bytes stand for, most significant first. -/
def number (bytes : Bytes) : Nat := bytes.foldl (fun n b => n * 256 + b.toNat) 0

/-- Reads a point: a tag byte and one or both coordinates. Tags 2 and 3 give the
    parity of the second coordinate, tag 5 leaves it at even, and tag 4 has both
    coordinates. -/
def ofBytes? : Bytes → Option Point
  | [] => none
  | tag :: rest =>
    if rest.length = 32 ∧ (tag = 2 ∨ tag = 3 ∨ tag = 5) then
      ofParity? (number rest) (tag = 3)
    else if rest.length = 64 ∧ tag = 4 then
      ofCoordinates? (number (rest.take 32)) (number (rest.drop 32))
    else none

/-- The encoding with the parity of the second coordinate: thirty-three bytes. -/
def compressed (p : Point) : Bytes :=
  (if p.isOdd then 3 else 2) :: Sha256.bigEndian 32 p.x

/-- Both coordinates, of thirty-two bytes each. -/
def coordinates (p : Point) : Bytes :=
  Sha256.bigEndian 32 p.x ++ Sha256.bigEndian 32 p.y

end Point

/-- The point `(X / Z², Y / Z³)`, at infinity if `Z` is zero. -/
structure Jacobian where
  (X Y Z : Nat)

namespace Jacobian

/-- The point at infinity. -/
def infinity : Jacobian := ⟨1, 1, 0⟩

/-- A point in these coordinates. -/
def ofPoint (p : Point) : Jacobian := ⟨p.x, p.y, 1⟩

/-- `a - b` modulo `field`, for `b` below it. -/
def sub (a b : Nat) : Nat := (a + field - b) % field

/-- The double of a point. -/
def double (p : Jacobian) : Jacobian :=
  if p.Z = 0 ∨ p.Y = 0 then infinity
  else
    let yy := p.Y * p.Y % field
    let s := 4 * p.X * yy % field
    let m := 3 * p.X * p.X % field
    let x := sub (m * m) (2 * s % field)
    ⟨x, sub (m * sub s x) (8 * yy * yy % field), 2 * p.Y * p.Z % field⟩

/-- The sum of two points. -/
def add (p q : Jacobian) : Jacobian :=
  if p.Z = 0 then q
  else if q.Z = 0 then p
  else
    let zp := p.Z * p.Z % field
    let zq := q.Z * q.Z % field
    let u := p.X * zq % field
    let v := q.X * zp % field
    let s := p.Y * zq % field * q.Z % field
    let t := q.Y * zp % field * p.Z % field
    if u = v then
      if s = t then double p else infinity
    else
      let h := sub v u
      let r := sub t s
      let hh := h * h % field
      let hhh := h * hh % field
      let w := u * hh % field
      let x := sub (r * r) ((hhh + 2 * w) % field)
      ⟨x, sub (r * sub w x) (s * hhh % field), p.Z * q.Z % field * h % field⟩

/-- The point in plain coordinates, unless it is at infinity. -/
def toPoint? (p : Jacobian) : Option Point :=
  let z := inverse field p.Z
  let zz := z * z % field
  Point.ofCoordinates? (p.X * zz % field) (p.Y * zz % field * z % field)

/-- The `n`th multiple, by doubling and adding. -/
def multiple (p : Jacobian) (n : Nat) : Jacobian :=
  if n = 0 then infinity
  else
    let half := multiple p (n / 2)
    if n % 2 = 1 then (double half).add p else double half
termination_by n
decreasing_by omega

end Jacobian

/-- The point whose multiples the keys are. -/
def generator : Jacobian where
  X := 0x79BE667EF9DCBBAC55A06295CE870B07029BFCDB2DCE28D959F2815B16F81798
  Y := 0x483ADA7726A3C4655DA4FBFC0E1108A8FD17B448A68554199C47D08FFB10D4B8
  Z := 1

end ChainRelay.Secp256k1
