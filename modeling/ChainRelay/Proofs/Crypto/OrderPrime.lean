import ChainRelay.Proofs.Crypto.FieldPrime

/-!
# The order of the curve is a prime

By Lucas's test once more (`prime_of_generator`), with a chain of primes of its own: the
largest factors of `order - 1` have factors that need the test in turn. A curve of prime
order has no points of any smaller order but the one at infinity.
-/

namespace ChainRelay.Secp256k1

/-- All powers that the tests need, the numbers in the order of their proofs. -/
theorem generates_chain_order :
    Generates 107361793816595537 3 [2, 2, 2, 2, 16699, 85831, 4681609] ∧
    Generates 174723607534414371449 3 [2, 2, 2, 17, 59, 4051, 120233, 44706919] ∧
    Generates 297159362677 2 [2, 2, 3, 3, 11, 461, 1627771] ∧
    Generates 545358713 5 [2, 2, 2, 41, 59, 28181] ∧
    Generates 29047611873442575647497758179 2 [297159362677, 545358713, 2, 293, 305873] ∧
    Generates 341948486974166000522343609283189 2
      [29047611873442575647497758179, 2, 2, 3, 3, 3, 109] ∧
    Generates order 7 [107361793816595537, 174723607534414371449,
      341948486974166000522343609283189, 2, 2, 2, 2, 2, 2, 3, 149, 631] := by
  decide +kernel

theorem prime_107361793816595537 : Nat.Prime 107361793816595537 := by
  obtain ⟨hg, -⟩ := generates_chain_order
  exact prime_of_generator (by decide) (by norm_num) rfl hg

theorem prime_174723607534414371449 : Nat.Prime 174723607534414371449 := by
  obtain ⟨-, hg, -⟩ := generates_chain_order
  exact prime_of_generator (by decide) (by norm_num) rfl hg

theorem prime_297159362677 : Nat.Prime 297159362677 := by
  obtain ⟨-, -, hg, -⟩ := generates_chain_order
  exact prime_of_generator (by decide) (by norm_num) rfl hg

theorem prime_545358713 : Nat.Prime 545358713 := by
  obtain ⟨-, -, -, hg, -⟩ := generates_chain_order
  exact prime_of_generator (by decide) (by norm_num) rfl hg

theorem prime_29047611873442575647497758179 : Nat.Prime 29047611873442575647497758179 := by
  obtain ⟨-, -, -, -, hg, -⟩ := generates_chain_order
  refine prime_of_generator (by decide)
    (List.forall_mem_cons.2 ⟨?_, List.forall_mem_cons.2 ⟨?_, by norm_num⟩⟩) rfl hg
  · exact prime_297159362677
  · exact prime_545358713

theorem prime_341948486974166000522343609283189 :
    Nat.Prime 341948486974166000522343609283189 := by
  obtain ⟨-, -, -, -, -, hg, -⟩ := generates_chain_order
  refine prime_of_generator (by decide) (List.forall_mem_cons.2 ⟨?_, by norm_num⟩) rfl hg
  exact prime_29047611873442575647497758179

theorem prime_order : order.Prime := by
  obtain ⟨-, -, -, -, -, -, hg⟩ := generates_chain_order
  refine prime_of_generator (by decide) (List.forall_mem_cons.2 ⟨?_, List.forall_mem_cons.2
    ⟨?_, List.forall_mem_cons.2 ⟨?_, by norm_num⟩⟩⟩) rfl hg
  · exact prime_107361793816595537
  · exact prime_174723607534414371449
  · exact prime_341948486974166000522343609283189

instance : Fact order.Prime := ⟨prime_order⟩

end ChainRelay.Secp256k1
