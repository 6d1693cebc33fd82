import ChainRelay.Proofs.Crypto.Jacobian
import ChainRelay.Proofs.Crypto.LeastKey
import ChainRelay.Proofs.Crypto.OrderPrime
import Mathlib.FieldTheory.Finite.Basic
import Mathlib.GroupTheory.OrderOfElement

/-!
# Multiples of the generator

Numbers stand for a point of the curve over the field, and for the one at infinity if the
last of them is zero (`Jacobian.Represents`). What is computed of them is the group law
(`Jacobian.Represents.double`, `Jacobian.Represents.add`), so `Jacobian.multiple` gives
multiples in the group, by induction along the halves of the number
(`Jacobian.Represents.multiple`).

The generator taken `order` times is at infinity, which is seen by computing it, and `order`
is a prime: a multiple is at infinity only if `order` divides its number
(`nsmul_base_eq_zero_iff`). So every secret in range has a key
(`SigningKey.exists_ofSecret?`).
-/

namespace ChainRelay.Secp256k1

open WeierstrassCurve.Affine

/-- The curve over the field of its coordinates. -/
abbrev curve : WeierstrassCurve.Affine (ZMod field) := short 7

/-! ## Numbers for elements of the field -/

theorem cast_eq_zero_iff {n : Nat} (h : n < field) : (n : ZMod field) = 0 ↔ n = 0 := by
  rw [ZMod.natCast_eq_zero_iff]
  exact ⟨fun hdvd => Nat.eq_zero_of_dvd_of_lt hdvd h, fun h0 => h0 ▸ dvd_zero _⟩

theorem two_ne_zero : (2 : ZMod field) ≠ 0 := by
  exact_mod_cast mt (cast_eq_zero_iff (by decide : 2 < field)).1 (by decide)

theorem cast_sub_mod (a b : Nat) :
    ((Jacobian.sub a (b % field) : Nat) : ZMod field) = a - b := by
  have hle : b % field ≤ a + field := (Nat.mod_lt b prime_field.pos).le.trans (Nat.le_add_left _ _)
  rw [Jacobian.sub, ZMod.natCast_mod, Nat.cast_sub hle, ZMod.natCast_mod, Nat.cast_add,
    ZMod.natCast_self, add_zero]

theorem cast_sub_sub (a b c : Nat) :
    ((Jacobian.sub a (Jacobian.sub b c) : Nat) : ZMod field) = a - (Jacobian.sub b c : Nat) := by
  rw [Jacobian.sub.eq_def b c, cast_sub_mod, ZMod.natCast_mod]

theorem cast_inverse {n : Nat} (h : (n : ZMod field) ≠ 0) :
    ((inverse field n : Nat) : ZMod field) = (n : ZMod field)⁻¹ := by
  have hexponent : field - 2 + 1 = field - 1 := by decide
  refine eq_inv_of_mul_eq_one_left ?_
  rw [inverse, powMod_eq, ZMod.natCast_mod, Nat.cast_pow, ← pow_succ, hexponent,
    ZMod.pow_card_sub_one_eq_one h]

theorem onCurve_iff {x y : Nat} :
    OnCurve x y ↔ x < field ∧ y < field ∧ curve.Equation (x : ZMod field) y := by
  rw [OnCurve, equation_short_iff, ← ZMod.natCast_eq_natCast_iff']
  push_cast
  rfl

/-- The curve has a tangent everywhere. -/
theorem nonsingular_of_equation {x y : ZMod field} (h : curve.Equation x y) :
    curve.Nonsingular x y := by
  refine (curve.equation_iff_nonsingular_of_Δ_ne_zero ?_).1 h
  have hΔ : curve.Δ = -(21168 : Nat) := by
    simp only [WeierstrassCurve.Δ, WeierstrassCurve.b₂, WeierstrassCurve.b₄, WeierstrassCurve.b₆,
      WeierstrassCurve.b₈, short]
    norm_num
  rw [hΔ]
  exact neg_ne_zero.2 (mt (cast_eq_zero_iff (by decide)).1 (by decide))

/-- A point in the group of the curve. -/
def Point.inGroup (p : Point) : curve.Point :=
  .some (p.x : ZMod field) p.y (nonsingular_of_equation (onCurve_iff.1 p.onCurve).2.2)

theorem Point.exists_ofCoordinates? {x y : ZMod field} (h : curve.Nonsingular x y) {u v : Nat}
    (hu : u < field) (hv : v < field) (hx : (u : ZMod field) = x) (hy : (v : ZMod field) = y) :
    ∃ point, ofCoordinates? u v = some point ∧ point.inGroup = .some x y h := by
  subst hx hy
  have hon : OnCurve u v := onCurve_iff.2 ⟨hu, hv, h.1⟩
  exact ⟨⟨u, v, hon⟩, dif_pos hon, rfl⟩

namespace Jacobian

/-- Numbers stand for a point, and for the one at infinity if the last of them is zero. -/
inductive Represents : Jacobian → curve.Point → Prop
  /-- The last number is zero. -/
  | infinity {p : Jacobian} (hZ : p.Z = 0) : Represents p 0
  /-- The numbers give coordinates. -/
  | finite {p : Jacobian} {P : curve.Point} (hY : p.Y < field) (hZ : p.Z < field)
      (h : StandFor (p.X : ZMod field) p.Y p.Z P) : Represents p P

variable {p q : Jacobian} {P Q : curve.Point}

theorem ne_zero_of_standFor (h : StandFor (p.X : ZMod field) p.Y p.Z P) : p.Z ≠ 0 :=
  fun hZ => h.ne_zero (by rw [hZ, Nat.cast_zero])

namespace Represents

theorem eq_zero_iff (h : p.Represents P) : P = 0 ↔ p.Z = 0 := by
  cases h with
  | infinity hZ => exact iff_of_true rfl hZ
  | finite _ _ h => exact iff_of_false h.point_ne_zero (ne_zero_of_standFor h)

theorem ofPoint (p : Point) : (Jacobian.ofPoint p).Represents p.inGroup :=
  .finite p.onCurve.2.1 (show 1 < field by decide)
    ⟨by simp [Jacobian.ofPoint], _, _, _, rfl, by simp [Jacobian.ofPoint],
      by simp [Jacobian.ofPoint]⟩

/-- Doubling is the group law. -/
theorem double (h : p.Represents P) : p.double.Represents (P + P) := by
  by_cases hcases : p.Z = 0 ∨ p.Y = 0
  · rw [Jacobian.double, if_pos hcases]
    cases h with
    | infinity hZ =>
      rw [add_zero]
      exact .infinity rfl
    | finite _ _ h =>
      -- The tangent is upright.
      have hY := hcases.resolve_left (ne_zero_of_standFor h)
      rw [h.add_self_eq_zero two_ne_zero (by rw [hY, Nat.cast_zero])]
      exact .infinity rfl
  · rw [Jacobian.double, if_neg hcases]
    rw [not_or] at hcases
    cases h with
    | infinity hZ => exact absurd hZ hcases.1
    | finite hY _ h =>
      refine .finite (Nat.mod_lt _ prime_field.pos) (Nat.mod_lt _ prime_field.pos) ?_
      have hdouble := h.double two_ne_zero (mt (cast_eq_zero_iff hY).1 hcases.2)
      simpa only [cast_sub_mod, cast_sub_sub, ZMod.natCast_mod, Nat.cast_mul, Nat.cast_ofNat]
        using hdouble

/-- Adding is the group law. -/
theorem add (hp : p.Represents P) (hq : q.Represents Q) : (p.add q).Represents (P + Q) := by
  cases hp with
  | infinity hZ =>
    rw [Jacobian.add, if_pos hZ, zero_add]
    exact hq
  | finite hY hZ hP =>
    have hpZ := ne_zero_of_standFor hP
    cases hq with
    | infinity hZ' =>
      rw [Jacobian.add, if_neg hpZ, if_pos hZ', add_zero]
      exact .finite hY hZ hP
    | finite hY' hZ' hQ =>
      have hqZ := ne_zero_of_standFor hQ
      -- Numbers below the modulus are compared like the elements that they are taken for.
      have hX : p.X * (q.Z * q.Z % field) % field = q.X * (p.Z * p.Z % field) % field ↔
          (p.X : ZMod field) * (q.Z * q.Z) = q.X * (p.Z * p.Z) := by
        rw [← ZMod.natCast_eq_natCast_iff']
        simp only [Nat.cast_mul, ZMod.natCast_mod]
      have hsame : p.Y * (q.Z * q.Z % field) % field * q.Z % field =
            q.Y * (p.Z * p.Z % field) % field * p.Z % field ↔
          (p.Y : ZMod field) * (q.Z * q.Z) * q.Z = q.Y * (p.Z * p.Z) * p.Z := by
        rw [← ZMod.natCast_eq_natCast_iff']
        simp only [Nat.cast_mul, ZMod.natCast_mod]
      rw [Jacobian.add, if_neg hpZ, if_neg hqZ]
      dsimp only
      by_cases hu : (p.X : ZMod field) * (q.Z * q.Z) = q.X * (p.Z * p.Z)
      · -- The points are the same, or the chord is upright.
        rw [if_pos (hX.2 hu)]
        rcases hP.eq_or_add_eq_zero hQ hu with ⟨rfl, hs⟩ | ⟨hzero, hs⟩
        · rw [if_pos (hsame.2 hs)]
          exact double (.finite hY hZ hP)
        · rw [if_neg (mt hsame.1 hs), hzero]
          exact .infinity rfl
      · rw [if_neg (mt hX.1 hu)]
        refine .finite (Nat.mod_lt _ prime_field.pos) (Nat.mod_lt _ prime_field.pos) ?_
        have hadd := hP.add hQ hu
        simpa only [cast_sub_mod, cast_sub_sub, ZMod.natCast_mod, Nat.cast_mul, Nat.cast_add,
          Nat.cast_ofNat] using hadd

/-- Doubling and adding along the halves of a number gives the multiple by it. -/
theorem multiple (h : p.Represents P) (n : Nat) : (p.multiple n).Represents (n • P) := by
  induction n using Nat.strongRecOn with
  | ind n ih =>
    rw [Jacobian.multiple]
    split_ifs with hn hodd
    · rw [hn, zero_nsmul]
      exact .infinity rfl
    · have hsum : n • P = (n / 2) • P + (n / 2) • P + P := by
        rw [← add_nsmul, ← succ_nsmul]
        congr 1
        omega
      rw [hsum]
      exact (ih (n / 2) (by omega)).double.add h
    · have hsum : n • P = (n / 2) • P + (n / 2) • P := by
        rw [← add_nsmul]
        congr 1
        omega
      rw [hsum]
      exact (ih (n / 2) (by omega)).double

/-- A point that is not at infinity is brought to plain coordinates. -/
theorem exists_toPoint? (h : p.Represents P) (hP : P ≠ 0) :
    ∃ point, p.toPoint? = some point ∧ point.inGroup = P := by
  cases h with
  | infinity => exact absurd rfl hP
  | finite hY hZ h =>
    obtain ⟨hne, x, y, hns, rfl, hX, hY⟩ := h
    refine Point.exists_ofCoordinates? hns (Nat.mod_lt _ prime_field.pos)
      (Nat.mod_lt _ prime_field.pos) ?_ ?_
    · simp only [ZMod.natCast_mod, Nat.cast_mul, cast_inverse hne, hX]
      field_simp
    · simp only [ZMod.natCast_mod, Nat.cast_mul, cast_inverse hne, hY]
      field_simp

end Represents

end Jacobian

/-! ## The order of the generator -/

theorem order_nsmul_base : order • base.inGroup = 0 := by
  have h := (Jacobian.Represents.ofPoint base).multiple order
  have hZ : ((Jacobian.ofPoint base).multiple order).Z = 0 := by decide +kernel
  exact h.eq_zero_iff.2 hZ

theorem addOrderOf_base : addOrderOf base.inGroup = order :=
  addOrderOf_eq_prime order_nsmul_base (Point.some_ne_zero _)

/-- A multiple of the generator is at infinity only if the order divides its number. -/
theorem nsmul_base_eq_zero_iff {n : Nat} : n • base.inGroup = 0 ↔ order ∣ n := by
  rw [← addOrderOf_dvd_iff_nsmul_eq_zero, addOrderOf_base]

/-- So the multiples by smaller numbers have coordinates. -/
theorem exists_toPoint?_multiple {n : Nat} (h : 0 < n ∧ n < order) :
    ∃ point, (generator.multiple n).toPoint? = some point ∧
      point.inGroup = n • base.inGroup :=
  ((Jacobian.Represents.ofPoint base).multiple n).exists_toPoint? fun h0 =>
    Nat.not_dvd_of_pos_of_lt h.1 h.2 (nsmul_base_eq_zero_iff.1 h0)

end ChainRelay.Secp256k1

namespace ChainRelay.SigningKey

open Secp256k1

/-- Every secret in range has a key. -/
theorem exists_ofSecret? {secret : Nat} (h : 0 < secret ∧ secret < order) :
    ∃ key, ofSecret? secret = some key ∧ key.secret = secret := by
  obtain ⟨point, hpoint, -⟩ := exists_toPoint?_multiple h
  rw [ofSecret?, dif_pos h]
  split
  · exact ⟨_, rfl, rfl⟩
  · next hnone => cases hnone.symm.trans hpoint

end ChainRelay.SigningKey
