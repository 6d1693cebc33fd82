import ChainRelay.Proofs.Crypto.FieldPrime
import Mathlib.FieldTheory.Finite.Basic

/-!
# Points in thirty-three bytes

The bytes of a point tell it (`Point.compressed_injective`): thirty-two of them are
the first coordinate, whose number is read back from them (`Point.number_bigEndian`),
and the parity of the second coordinate picks one of two square roots, since `field`
is odd. Reading the bytes gives the point (`Point.ofBytes?_compressed`): as `field` is
three modulo four, the power that is computed is a square root (`Point.root_mul_self`).
-/

namespace ChainRelay.Secp256k1

namespace Point

theorem bigEndian_succ (count n : Nat) :
    Sha256.bigEndian (count + 1) n
      = UInt8.ofNat (n / 256 ^ count) :: Sha256.bigEndian count n := by
  rw [Sha256.bigEndian, List.range_succ_eq_map, List.map_cons, List.map_map, Sha256.bigEndian]
  congr 1
  refine List.map_congr_left fun i hi => ?_
  rw [Function.comp_apply, show count + 1 - 1 - i.succ = count - 1 - i by omega]

/-- Bytes that follow others count after them. -/
theorem foldl_bigEndian (count n before : Nat) :
    (Sha256.bigEndian count n).foldl (fun n b => n * 256 + b.toNat) before
      = before * 256 ^ count + n % 256 ^ count := by
  induction count generalizing before with
  | zero => simp [Sha256.bigEndian, Nat.mod_one]
  | succ count ih =>
    rw [bigEndian_succ, List.foldl_cons, ih, Nat.mod_pow_succ, UInt8.toNat_ofNat']
    ring

/-- The bytes of a number stand for it, if it is not too large for them. -/
theorem number_bigEndian (count n : Nat) :
    number (Sha256.bigEndian count n) = n % 256 ^ count := by
  rw [number, foldl_bigEndian, Nat.zero_mul, Nat.zero_add]

theorem length_bigEndian (count n : Nat) : (Sha256.bigEndian count n).length = count := by
  rw [Sha256.bigEndian, List.length_map, List.length_range]

/-- A coordinate is the number of its bytes. -/
theorem number_bigEndian_of_lt {n : Nat} (h : n < field) : number (Sha256.bigEndian 32 n) = n := by
  rw [number_bigEndian, Nat.mod_eq_of_lt (h.trans (by decide))]

/-- Points with the first coordinate and the parity of the second in common are
    the same. -/
theorem eq_of_isOdd {p q : Point} (hx : p.x = q.x) (hodd : p.isOdd = q.isOdd) : p = q := by
  obtain ⟨x, y, hxp, hyp, hp⟩ := p
  obtain ⟨x', y', hxq, hyq, hq⟩ := q
  obtain rfl : x = x' := hx
  have hfield : field % 2 = 1 := by decide
  rcases eq_or_add_eq_field hyp hyq (hp.trans hq.symm) with heq | hneg
  · subst heq
    rfl
  · simp only [isOdd, decide_eq_decide] at hodd
    omega

theorem compressed_injective : Function.Injective compressed := by
  intro p q h
  rw [compressed, compressed, List.cons.injEq] at h
  obtain ⟨htag, hbytes⟩ := h
  have hx : p.x = q.x := by
    have hnumber := congrArg number hbytes
    rwa [number_bigEndian_of_lt p.onCurve.1, number_bigEndian_of_lt q.onCurve.1] at hnumber
  refine eq_of_isOdd hx ?_
  cases hp : p.isOdd <;> cases hq : q.isOdd <;> simp [hp, hq] at htag ⊢

/-! ## Reading bytes that were written -/

theorem powMod_lt (n exponent : Nat) : powMod field n exponent < field := by
  rw [powMod_eq]
  exact Nat.mod_lt _ prime_field.pos

/-- The power that is taken for a square root of a square is one. -/
theorem root_mul_self {y : Nat} (hy : y < field) :
    let z := powMod field (y * y % field) ((field + 1) / 4)
    z * z % field = y * y % field := by
  intro z
  rcases Nat.eq_zero_or_pos y with rfl | hpos
  · decide +kernel
  have hne : (y : ZMod field) ≠ 0 := by
    rw [Ne, ZMod.natCast_eq_zero_iff]
    exact Nat.not_dvd_of_pos_of_lt hpos hy
  have hz : (z : ZMod field) = (y * y) ^ ((field + 1) / 4) := by
    change ((powMod field (y * y % field) ((field + 1) / 4) : Nat) : ZMod field) = _
    rw [powMod_eq, ZMod.natCast_mod, Nat.cast_pow, ZMod.natCast_mod, Nat.cast_mul]
  have hexponent : (field + 1) / 4 * 2 * 2 = field - 1 + 2 := by decide
  have hroot : (z : ZMod field) * z = y * y := by
    calc (z : ZMod field) * z = y ^ ((field + 1) / 4 * 2 * 2) := by rw [hz]; ring
      _ = y ^ (field - 1) * y ^ 2 := by rw [hexponent, pow_add]
      _ = y * y := by rw [ZMod.pow_card_sub_one_eq_one hne, one_mul, sq]
  exact (ZMod.natCast_eq_natCast_iff' _ _ _).1 (by exact_mod_cast hroot)

theorem ofCoordinates?_self (p : Point) : ofCoordinates? p.x p.y = some p := by
  rw [ofCoordinates?, dif_pos p.onCurve]

/-- The parity of the second coordinate picks the right root. -/
theorem ofParity?_self (p : Point) : ofParity? p.x p.isOdd = some p := by
  have hroot := root_mul_self p.onCurve.2.1
  rw [p.onCurve.2.2] at hroot
  have hlt := powMod_lt ((p.x * p.x * p.x + 7) % field) ((field + 1) / 4)
  rw [ofParity?]
  generalize powMod field ((p.x * p.x * p.x + 7) % field) ((field + 1) / 4) = z at hroot hlt
  have hodd : field % 2 = 1 := by decide
  dsimp only at hroot ⊢
  simp only [isOdd, decide_eq_true_eq, eq_iff_iff]
  rcases eq_or_add_eq_field hlt p.onCurve.2.1 (hroot.trans p.onCurve.2.2.symm) with heq | hneg
  · rw [heq, if_pos Iff.rfl, ofCoordinates?_self]
  · rw [if_neg (by omega), show field - z = p.y by omega, ofCoordinates?_self]

/-- A point is read from its thirty-three bytes. -/
theorem ofBytes?_compressed (p : Point) : ofBytes? p.compressed = some p := by
  have hself := ofParity?_self p
  rw [compressed, ofBytes?, length_bigEndian, number_bigEndian_of_lt p.onCurve.1]
  cases hp : p.isOdd with
  | true => simpa [hp] using hself
  | false => simpa [hp] using hself

end Point

end ChainRelay.Secp256k1
