import ChainRelay.Crypto.Secp256k1
import Mathlib.Data.List.Prime
import Mathlib.NumberTheory.LucasPrimality
import Mathlib.Tactic.NormNum.Prime

/-!
# The modulus of coordinates is a prime

Powers are computed by squaring (`powMod_eq`), which is fast enough to carry out
Lucas's test: `p` is a prime if some number has order `p - 1` modulo `p`, and for
that only the powers `(p - 1) / q` matter, for the prime factors `q` of `p - 1`
(`prime_of_generator`). The largest factor of `field - 1` is shown to be a prime by
the same test, and so are its factors in turn, down to numbers that are checked by
division.

In a field a number has at most two square roots, and one is the negative of the
other (`eq_or_add_eq_field`).
-/

namespace ChainRelay.Secp256k1

/-- Squaring gives the power. -/
theorem powMod_eq (m b e : Nat) : powMod m b e = b ^ e % m := by
  induction e using Nat.strongRecOn generalizing b with
  | ind e ih =>
    rw [powMod]
    split_ifs with he ho
    · rw [he, pow_zero]
    · rw [ih (e / 2) (by omega), ← Nat.pow_mod, Nat.mod_mul_mod, ← sq, ← pow_mul, ← pow_succ]
      congr 2
      omega
    · dsimp only
      rw [ih (e / 2) (by omega), ← Nat.pow_mod, ← sq, ← pow_mul]
      congr 2
      omega

/-- A power of `g` is one modulo `p` at `p - 1`, but not yet where a factor is left out. -/
def Generates (p g : Nat) (factors : List Nat) : Prop :=
  powMod p g (p - 1) = 1 ∧ ∀ q ∈ factors, powMod p g ((p - 1) / q) ≠ 1

instance (p g : Nat) (factors : List Nat) : Decidable (Generates p g factors) :=
  inferInstanceAs (Decidable (_ ∧ _))

theorem cast_pow_eq_one_iff {p : Nat} (hp : 1 < p) (g e : Nat) :
    (g : ZMod p) ^ e = 1 ↔ powMod p g e = 1 := by
  rw [powMod_eq, ← Nat.cast_pow, ← Nat.cast_one, ZMod.natCast_eq_natCast_iff',
    Nat.mod_eq_of_lt hp]

/-- Lucas's test. -/
theorem prime_of_generator {p g : Nat} {factors : List Nat} (hp : 1 < p)
    (hprime : ∀ q ∈ factors, q.Prime) (hprod : factors.prod = p - 1)
    (hg : Generates p g factors) : p.Prime := by
  refine lucas_primality p g ((cast_pow_eq_one_iff hp g _).2 hg.1) fun q hq hdvd => ?_
  rw [← hprod, hq.prime.dvd_prod_iff] at hdvd
  obtain ⟨r, hr, hqr⟩ := hdvd
  have heq : q = r := (Nat.prime_dvd_prime_iff_eq hq (hprime r hr)).1 hqr
  subst heq
  exact mt (cast_pow_eq_one_iff hp g _).1 (hg.2 q hr)

/-! ## The chain of primes

In each list the factors that take too long to check by division come first. -/

/-- The largest factor of `field - 1`. -/
def cofactor : Nat := 205115282021455665897114700593932402728804164701536103180137503955397371

/-- All powers that the tests need, the numbers in the order of their proofs. -/
theorem generates_chain :
    Generates 173378833005251801 6 [2, 2, 2, 5, 5, 2621, 24809, 13331831] ∧
    Generates 22149492674086928081353 5 [173378833005251801, 2, 2, 2, 3, 5323] ∧
    Generates 132896956044521568488119 6 [22149492674086928081353, 2, 3] ∧
    Generates 255515944373312847190720520512484175977 3
      [2, 2, 2, 7, 7, 11, 1627, 2657, 4423, 41201, 96557, 7240687, 107590001] ∧
    Generates cofactor 10 [132896956044521568488119,
      255515944373312847190720520512484175977, 2, 3, 5, 29, 29, 31, 7723] ∧
    Generates field 3 [cofactor, 2, 3, 7, 13441] := by
  decide +kernel

theorem prime_173378833005251801 : Nat.Prime 173378833005251801 := by
  obtain ⟨hg, -⟩ := generates_chain
  exact prime_of_generator (by decide) (by norm_num) rfl hg

theorem prime_22149492674086928081353 : Nat.Prime 22149492674086928081353 := by
  obtain ⟨-, hg, -⟩ := generates_chain
  refine prime_of_generator (by decide) (List.forall_mem_cons.2 ⟨?_, by norm_num⟩) rfl hg
  exact prime_173378833005251801

theorem prime_132896956044521568488119 : Nat.Prime 132896956044521568488119 := by
  obtain ⟨-, -, hg, -⟩ := generates_chain
  refine prime_of_generator (by decide) (List.forall_mem_cons.2 ⟨?_, by norm_num⟩) rfl hg
  exact prime_22149492674086928081353

theorem prime_255515944373312847190720520512484175977 :
    Nat.Prime 255515944373312847190720520512484175977 := by
  obtain ⟨-, -, -, hg, -⟩ := generates_chain
  exact prime_of_generator (by decide) (by norm_num) rfl hg

theorem prime_cofactor : cofactor.Prime := by
  obtain ⟨-, -, -, -, hg, -⟩ := generates_chain
  refine prime_of_generator (by decide)
    (List.forall_mem_cons.2 ⟨?_, List.forall_mem_cons.2 ⟨?_, by norm_num⟩⟩) rfl hg
  · exact prime_132896956044521568488119
  · exact prime_255515944373312847190720520512484175977

theorem prime_field : field.Prime := by
  obtain ⟨-, -, -, -, -, hg⟩ := generates_chain
  refine prime_of_generator (by decide) (List.forall_mem_cons.2 ⟨?_, by norm_num⟩) rfl hg
  exact prime_cofactor

/-! ## Square roots -/

instance : Fact field.Prime := ⟨prime_field⟩

/-- Numbers with one square are the same or each other's negative. -/
theorem eq_or_add_eq_field {y z : Nat} (hy : y < field) (hz : z < field)
    (h : y * y % field = z * z % field) : y = z ∨ y + z = field := by
  have hsq : (y : ZMod field) * y = z * z := by
    exact_mod_cast (ZMod.natCast_eq_natCast_iff' _ _ _).2 h
  rcases mul_self_eq_mul_self_iff.1 hsq with heq | hneg
  · rw [ZMod.natCast_eq_natCast_iff', Nat.mod_eq_of_lt hy, Nat.mod_eq_of_lt hz] at heq
    exact .inl heq
  · have hdvd : field ∣ y + z := by
      rw [← ZMod.natCast_eq_zero_iff, Nat.cast_add, hneg, neg_add_cancel]
    by_cases hzero : y + z = 0
    · exact .inl (by omega)
    · exact .inr (Nat.eq_of_dvd_of_lt_two_mul hzero hdvd (by omega))

end ChainRelay.Secp256k1
