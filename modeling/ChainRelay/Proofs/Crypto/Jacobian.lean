import Mathlib.AlgebraicGeometry.EllipticCurve.Affine.Point
import Mathlib.Tactic.LinearCombination

/-!
# Adding points without division

On a curve `y² = x³ + b` over a field, three elements stand for a point if they give its
coordinates up to powers of the third one (`StandFor`). What stands for the double of a
point and for the sum of two is computed without division, and once more by the slope of a
line: of the tangent (`StandFor.double`), or of the chord (`StandFor.add`). Where the line
is upright, the sum is at infinity.
-/

namespace ChainRelay.Secp256k1

open WeierstrassCurve.Affine

variable {F : Type} [Field F]

/-- The curve `y² = x³ + b`. -/
def short (b : F) : WeierstrassCurve.Affine F := ⟨0, 0, 0, 0, b⟩

variable {b x y x' y' : F}

theorem equation_short_iff : (short b).Equation x y ↔ y * y = x * x * x + b := by
  rw [equation_iff]
  simp only [short]
  constructor
  · intro h
    linear_combination h
  · intro h
    linear_combination h

theorem negY_short : (short b).negY x y = -y := by
  simp [negY, short]

theorem addX_short (slope : F) : (short b).addX x x' slope = slope ^ 2 - x - x' := by
  simp [addX, short]

theorem addY_short (slope : F) :
    (short b).addY x x' y slope = slope * (x - (slope ^ 2 - x - x')) - y := by
  rw [addY, negY_short, negAddY, addX_short]
  ring

/-- A point is its own negative only if its second coordinate vanishes. -/
theorem eq_negY_short_iff (h2 : (2 : F) ≠ 0) : y = (short b).negY x y ↔ y = 0 := by
  rw [negY_short, eq_neg_iff_add_eq_zero, ← two_mul, mul_eq_zero, or_iff_right h2]

variable [DecidableEq F]

/-- The slope of the tangent. -/
theorem slope_self_mul (h2 : (2 : F) ≠ 0) (hy : y ≠ 0) :
    (short b).slope x x y y * (2 * y) = 3 * x ^ 2 := by
  have h2y : y - -y = 2 * y := by ring
  rw [slope_of_Y_ne rfl (mt (eq_negY_short_iff h2).1 hy), negY_short, h2y,
    div_mul_cancel₀ _ (mul_ne_zero h2 hy)]
  simp [short]

/-- The slope of the chord. -/
theorem slope_mul (hx : x ≠ x') : (short b).slope x x' y y' * (x - x') = y - y' := by
  rw [slope_of_X_ne hx, div_mul_cancel₀ _ (sub_ne_zero.2 hx)]

/-- Three elements stand for a point: they give its coordinates up to powers of the last. -/
structure StandFor (X Y Z : F) (P : (short b).Point) : Prop where
  /-- The last one does not vanish. -/
  ne_zero : Z ≠ 0
  /-- The others give the coordinates. -/
  exists_some : ∃ x y h, P = Point.some x y h ∧ X = x * Z ^ 2 ∧ Y = y * Z ^ 3

namespace StandFor

variable {P Q : (short b).Point} {X Y Z X' Y' Z' : F}

omit [DecidableEq F] in
theorem point_ne_zero (h : StandFor X Y Z P) : P ≠ 0 := by
  obtain ⟨-, x, y, hns, rfl, -, -⟩ := h
  exact Point.some_ne_zero hns

/-- A point on the axis is its own negative. -/
theorem add_self_eq_zero (h2 : (2 : F) ≠ 0) (h : StandFor X Y Z P) (hY : Y = 0) : P + P = 0 := by
  obtain ⟨hZ, x, y, hns, rfl, rfl, rfl⟩ := h
  have hy : y = 0 := (mul_eq_zero.1 hY).resolve_right (pow_ne_zero 3 hZ)
  exact Point.add_self_of_Y_eq ((eq_negY_short_iff h2).2 hy)

/-- What stands for the double of a point; `m / z` is the slope of the tangent. -/
theorem double (h2 : (2 : F) ≠ 0) (h : StandFor X Y Z P) (hY : Y ≠ 0) :
    let s := 4 * X * (Y * Y)
    let m := 3 * X * X
    let u := m * m - 2 * s
    StandFor u (m * (s - u) - 8 * (Y * Y) * (Y * Y)) (2 * Y * Z) (P + P) := by
  intro s m u
  obtain ⟨hZ, x, y, hns, rfl, rfl, rfl⟩ := h
  have hy : y ≠ 0 := left_ne_zero_of_mul hY
  refine ⟨mul_ne_zero (mul_ne_zero h2 hY) hZ, _, _, _,
    Point.add_self_of_Y_ne (mt (eq_negY_short_iff h2).1 hy), ?_⟩
  have hslope : (short b).slope x x y y * (2 * y) = 3 * x ^ 2 := slope_self_mul h2 hy
  rw [addX_short, addY_short]
  generalize (short b).slope x x y y = slope at hslope
  have hm : m = slope * (2 * (y * Z ^ 3) * Z) := by linear_combination (-Z ^ 4) * hslope
  have hu : u = (slope ^ 2 - x - x) * (2 * (y * Z ^ 3) * Z) ^ 2 := by
    simp only [u, hm, s]
    ring
  refine ⟨hu, ?_⟩
  simp only [hu, hm, s]
  ring

/-- Points with the first coordinate in common are the same or each other's negative. -/
theorem eq_or_add_eq_zero (hp : StandFor X Y Z P) (hq : StandFor X' Y' Z' Q)
    (hX : X * (Z' * Z') = X' * (Z * Z)) :
    P = Q ∧ Y * (Z' * Z') * Z' = Y' * (Z * Z) * Z ∨
      P + Q = 0 ∧ Y * (Z' * Z') * Z' ≠ Y' * (Z * Z) * Z := by
  obtain ⟨hZ, x, y, hns, rfl, rfl, rfl⟩ := hp
  obtain ⟨hZ', x', y', hns', rfl, rfl, rfl⟩ := hq
  have hx : x = x' := by
    have hzz : Z ^ 2 * Z' ^ 2 ≠ 0 := mul_ne_zero (pow_ne_zero 2 hZ) (pow_ne_zero 2 hZ')
    refine mul_right_cancel₀ hzz ?_
    linear_combination hX
  have hy : y * Z ^ 3 * (Z' * Z') * Z' = y' * Z' ^ 3 * (Z * Z) * Z ↔ y = y' := by
    have hzzz : Z ^ 3 * Z' ^ 3 ≠ 0 := mul_ne_zero (pow_ne_zero 3 hZ) (pow_ne_zero 3 hZ')
    rw [show y * Z ^ 3 * (Z' * Z') * Z' = y * (Z ^ 3 * Z' ^ 3) by ring,
      show y' * Z' ^ 3 * (Z * Z) * Z = y' * (Z ^ 3 * Z' ^ 3) by ring, mul_left_inj' hzzz]
  subst hx
  by_cases heq : y = y'
  · subst heq
    exact .inl ⟨rfl, hy.2 rfl⟩
  · exact .inr ⟨Point.add_of_Y_eq rfl ((Y_eq_of_X_eq hns.1 hns'.1 rfl).resolve_left heq),
      mt hy.1 heq⟩

/-- What stands for the sum of two points; `r / z` is the slope of the chord. -/
theorem add (hp : StandFor X Y Z P) (hq : StandFor X' Y' Z' Q)
    (hX : X * (Z' * Z') ≠ X' * (Z * Z)) :
    let u := X * (Z' * Z')
    let s := Y * (Z' * Z') * Z'
    let h := X' * (Z * Z) - u
    let r := Y' * (Z * Z) * Z - s
    let w := u * (h * h)
    let v := r * r - (h * (h * h) + 2 * w)
    StandFor v (r * (w - v) - s * (h * (h * h))) (Z * Z' * h) (P + Q) := by
  intro u s h r w v
  obtain ⟨hZ, x, y, hns, rfl, rfl, rfl⟩ := hp
  obtain ⟨hZ', x', y', hns', rfl, rfl, rfl⟩ := hq
  have hx : x ≠ x' := by
    rintro rfl
    exact hX (by ring)
  have hh : h ≠ 0 := sub_ne_zero.2 hX.symm
  refine ⟨mul_ne_zero (mul_ne_zero hZ hZ') hh, _, _, _, Point.add_of_X_ne hx, ?_⟩
  have hslope : (short b).slope x x' y y' * (x - x') = y - y' := slope_mul hx
  rw [addX_short, addY_short]
  generalize (short b).slope x x' y y' = slope at hslope
  have hu : u = x * (Z * Z') ^ 2 := by
    simp only [u]
    ring
  have hs : s = y * (Z * Z') ^ 3 := by
    simp only [s]
    ring
  have hhx : h = (x' - x) * (Z * Z') ^ 2 := by
    simp only [h, hu]
    ring
  have hr : r = slope * (Z * Z' * h) := by
    rw [hhx]
    simp only [r, hs]
    linear_combination (Z * Z') ^ 3 * hslope
  have hv : v = (slope ^ 2 - x - x') * (Z * Z' * h) ^ 2 := by
    have hsum : h + 2 * u = (x + x') * (Z * Z') ^ 2 := by
      rw [hu, hhx]
      ring
    simp only [v, w]
    linear_combination (r + slope * (Z * Z' * h)) * hr - h * h * hsum
  refine ⟨hv, ?_⟩
  simp only [hv, hr, hs, w, hu]
  ring

end StandFor

end ChainRelay.Secp256k1
