import ChainRelay.Proofs.Text.Bech32
import Mathlib.Data.List.Induction

/-!
# Reading the text of bytes under a label

The checksum register is linear: what is in its low bits when a value is fed leaves it
shifted, beside what the rest would have become (`step_xor`). So six digits fed instead
of six zeros add the number of thirty bits that they spell (`foldl_step`), and the six
digits of a checksum spell what is missing to one: a text that was written is sound
(`residue_checksum`), and its label and its bytes are read from it
(`decode_encode`).
-/

namespace ChainRelay.Bech32

/-! ## The register -/

/-- What leaves the register at the top. -/
def fold (top acc : Nat) : Nat :=
  (List.range 5).foldl
    (fun acc i => if top.testBit i then acc ^^^ generator.getD i 0 else acc) acc

theorem step_eq_fold (register value : Nat) :
    step register value = fold (register / 2 ^ 25) ((register % 2 ^ 25 * 32) ^^^ value) := rfl

theorem fold_xor (top a b : Nat) : fold top (a ^^^ b) = fold top a ^^^ b := by
  rw [fold, fold]
  generalize List.range 5 = positions
  induction positions generalizing a with
  | nil => rfl
  | cons i positions ih =>
    rw [List.foldl_cons, List.foldl_cons]
    split_ifs
    · rw [Nat.xor_assoc, Nat.xor_comm b, ← Nat.xor_assoc, ih]
    · exact ih a

theorem mul_add_eq_xor (a : Nat) {b : Nat} (h : b < 32) : a * 32 + b = a * 32 ^^^ b := by
  have hb : b < 2 ^ 5 := h
  rw [show a * 32 = 2 ^ 5 * a by omega]
  refine Nat.eq_of_testBit_eq fun i => ?_
  rw [Nat.testBit_xor, Nat.testBit_two_pow_mul_add a hb, Nat.testBit_two_pow_mul]
  split_ifs with hi
  · simp [Nat.not_le.2 hi]
  · have hlt : b < 2 ^ i := hb.trans_le (Nat.pow_le_pow_right (by decide) (by omega))
    simp [Nat.testBit_lt_two_pow hlt, Nat.not_lt.1 hi]

theorem xor_mul_32 (a b : Nat) : (a ^^^ b) * 32 = a * 32 ^^^ b * 32 := by
  have h := Nat.shiftLeft_xor_distrib (a := a) (b := b) (i := 5)
  simpa only [Nat.shiftLeft_eq] using h

/-- What is in the low bits is shifted, beside what the rest becomes. -/
theorem step_xor {register low value : Nat} (h : low < 2 ^ 25) (hv : value < 32) :
    step (register ^^^ low) value = step register 0 ^^^ (low * 32 + value) := by
  have hdiv : (register ^^^ low) / 2 ^ 25 = register / 2 ^ 25 := by
    rw [Nat.xor_div_two_pow, Nat.div_eq_of_lt h, Nat.xor_zero]
  have hmod : (register ^^^ low) % 2 ^ 25 = register % 2 ^ 25 ^^^ low := by
    rw [Nat.xor_mod_two_pow, Nat.mod_eq_of_lt h]
  rw [step_eq_fold, step_eq_fold, hdiv, hmod, xor_mul_32, Nat.xor_assoc, fold_xor, Nat.xor_zero,
    mul_add_eq_xor low hv]

theorem step_lt (register : Nat) {value : Nat} (hv : value < 32) :
    step register value < 2 ^ 30 := by
  have hstart : (register % 2 ^ 25 * 32) ^^^ value < 2 ^ 30 :=
    Nat.xor_lt_two_pow (by omega) (by omega)
  have hgenerator : ∀ i, generator.getD i 0 < 2 ^ 30 := by
    intro i
    match i with
    | 0 | 1 | 2 | 3 | 4 => decide
    | i + 5 => simp [generator]
  rw [step_eq_fold, fold]
  refine List.foldlRecOn (motive := (· < 2 ^ 30)) _ _ hstart fun acc hacc i _ => ?_
  split_ifs
  · exact Nat.xor_lt_two_pow hacc (hgenerator i)
  · exact hacc

/-! ## Digits -/

/-- The number that values of five bits spell. -/
def spelled (values : List Nat) : Nat := values.foldl (fun n v => n * 32 + v) 0

theorem spelled_append (values : List Nat) (v : Nat) :
    spelled (values ++ [v]) = spelled values * 32 + v := by
  rw [spelled, List.foldl_append]
  rfl

theorem spelled_lt {values : List Nat} (h : ∀ v ∈ values, v < 32) :
    spelled values < 32 ^ values.length := by
  induction values using List.reverseRecOn with
  | nil => exact Nat.zero_lt_one
  | append_singleton values v ih =>
    have hlt := ih fun w hw => h w (List.mem_append_left _ hw)
    have hv := h v (List.mem_append_right _ List.mem_cons_self)
    rw [spelled_append, List.length_append, List.length_singleton, Nat.pow_succ]
    omega

/-- Values fed instead of zeros add the number that they spell. -/
theorem foldl_step {values : List Nat} (h : ∀ v ∈ values, v < 32) (hlength : values.length ≤ 6)
    (register : Nat) :
    values.foldl step register
      = (List.replicate values.length 0).foldl step register ^^^ spelled values := by
  induction values using List.reverseRecOn with
  | nil => exact (Nat.xor_zero register).symm
  | append_singleton values v ih =>
    have hvalues : ∀ w ∈ values, w < 32 := fun w hw => h w (List.mem_append_left _ hw)
    have hv := h v (List.mem_append_right _ List.mem_cons_self)
    rw [List.length_append, List.length_singleton] at hlength
    -- Up to five values stay below the bits that leave the register.
    have hlow : spelled values < 2 ^ 25 := by
      refine (spelled_lt hvalues).trans_le ?_
      rw [show 2 ^ 25 = 32 ^ 5 by decide]
      exact Nat.pow_le_pow_right (by decide) (by omega)
    rw [List.foldl_append, ih hvalues (by omega), List.length_append, List.length_singleton,
      List.replicate_succ', List.foldl_append, spelled_append]
    exact step_xor hlow hv

/-- The values that a number of some digits is spelled by. -/
def digitsOf (count n : Nat) : List Nat :=
  (List.range count).map fun i => n / 32 ^ (count - 1 - i) % 32

theorem spelled_digitsOf (count n : Nat) : spelled (digitsOf count n) = n % 32 ^ count := by
  induction count generalizing n with
  | zero => simp [digitsOf, spelled, Nat.mod_one]
  | succ count ih =>
    have hdigits : digitsOf (count + 1) n = digitsOf count (n / 32) ++ [n % 32] := by
      rw [digitsOf, List.range_succ, List.map_append, List.map_singleton, digitsOf]
      congr 1
      · refine List.map_congr_left fun i hi => ?_
        rw [List.mem_range] at hi
        rw [Nat.div_div_eq_div_mul, ← Nat.pow_succ',
          show count + 1 - 1 - i = count - 1 - i + 1 by omega]
      · simp
    rw [hdigits, spelled_append, ih, Nat.pow_succ', Nat.mod_mul]
    omega

theorem checksum_eq_digitsOf (label : List Char) (values : List Nat) :
    checksum label values
      = digitsOf 6 (residue (spread label ++ values ++ List.replicate 6 0) ^^^ 1) := rfl

theorem checksum_lt (label : List Char) (values : List Nat) :
    ∀ v ∈ checksum label values, v < 32 := by
  intro v hv
  obtain ⟨i, -, rfl⟩ := List.mem_map.1 hv
  exact Nat.mod_lt _ (by decide)

/-- Behind its checksum a text leaves one. -/
theorem residue_checksum (label : List Char) (values : List Nat) :
    residue (spread label ++ values ++ checksum label values) = 1 := by
  have hlt : residue (spread label ++ values ++ List.replicate 6 0) ^^^ 1 < 32 ^ 6 := by
    refine Nat.xor_lt_two_pow (n := 30) ?_ (by decide)
    rw [residue, List.foldl_append, List.replicate_succ', List.foldl_append]
    exact step_lt _ (by decide)
  rw [residue, List.foldl_append, foldl_step (checksum_lt label values)
    (length_checksum label values).le, length_checksum, ← List.foldl_append, ← residue,
    checksum_eq_digitsOf, spelled_digitsOf, Nat.mod_eq_of_lt hlt, ← Nat.xor_assoc,
    Nat.xor_self, Nat.zero_xor]

/-! ## Texts -/

theorem value?_digit : ∀ n < 32, value? (digit n) = some n := by decide

theorem digit_ne_one : ∀ n < 32, digit n ≠ '1' := by decide

theorem not_upper_digit : ∀ n < 32, ¬ ('A' ≤ digit n ∧ digit n ≤ 'Z') := by decide

theorem mapM_value?_digit {values : List Nat} (h : ∀ v ∈ values, v < 32) :
    (values.map digit).mapM value? = some values := by
  induction values with
  | nil => rfl
  | cons v values ih =>
    rw [List.forall_mem_cons] at h
    rw [List.map_cons, List.mapM_cons, value?_digit v h.1, ih h.2]
    rfl

/-- A text is split before its digits, of which none looks like the mark. -/
theorem split?_append (label : List Char) {values : List Nat} (h : ∀ v ∈ values, v < 32) :
    split? (label ++ '1' :: values.map digit) = some (label, values.map digit) := by
  have hne : ∀ c ∈ (values.map digit).reverse, decide (c ≠ '1') = true := by
    intro c hc
    obtain ⟨v, hv, rfl⟩ := List.mem_map.1 (List.mem_reverse.1 hc)
    exact decide_eq_true (digit_ne_one v (h v hv))
  have hreverse : (label ++ '1' :: values.map digit).reverse
      = (values.map digit).reverse ++ '1' :: label.reverse := by simp
  rw [split?, hreverse, List.takeWhile_append_of_pos hne, List.dropWhile_append_of_pos hne]
  simp

theorem not_upper_of_toLower {c : Char} (h : c.toLower = c) : ¬ ('A' ≤ c ∧ c ≤ 'Z') := by
  intro hc
  have hrange : 'A'.val ≤ c.val ∧ c.val ≤ 'Z'.val := hc
  have hval : c.val + ('a'.val - 'A'.val) = c.val :=
    (congrArg Char.val (dif_pos hrange)).symm.trans (congrArg Char.val h)
  -- A letter in upper case would have been shifted.
  have hne : ∀ v : UInt32, v + ('a'.val - 'A'.val) ≠ v := by
    intro v heq
    have hshift : ('a'.val - 'A'.val).toNat = 32 := rfl
    rw [UInt32.ext_iff, UInt32.toNat_add, hshift] at heq
    omega
  exact hne c.val hval

/-- A text under a label in lower case does not mix both cases. -/
theorem isMixed_eq_false {label : List Char} (hlower : label.map Char.toLower = label)
    {values : List Nat} (h : ∀ v ∈ values, v < 32) :
    isMixed (label ++ '1' :: values.map digit) = false := by
  have hupper : ∀ c ∈ label ++ '1' :: values.map digit, ¬ ('A' ≤ c ∧ c ≤ 'Z') := by
    intro c hc
    rcases List.mem_append.1 hc with hc | hc
    · exact not_upper_of_toLower (List.map_inj_left.1 (hlower.trans (List.map_id _).symm) c hc)
    · rcases List.mem_cons.1 hc with rfl | hc
      · decide
      · obtain ⟨v, hv, rfl⟩ := List.mem_map.1 hc
        exact not_upper_digit v (h v hv)
  rw [isMixed, Bool.and_eq_false_iff]
  refine .inr (List.any_eq_false.2 fun c hc => ?_)
  simpa using hupper c hc

/-- The label and the bytes are read from their text, if it is not too long. -/
theorem decode_encode {label : String} {bytes : Bytes} (hlabel : isLabel label.toList = true)
    (hlower : label.toList.map Char.toLower = label.toList)
    (hlength : (encode label bytes).toList.length ≤ maxLength) :
    decode (encode label bytes) = .ok (label, bytes) := by
  have hvalues : ∀ v ∈ toFives 0 0 bytes ++ checksum label.toList (toFives 0 0 bytes), v < 32 :=
    fun v hv => (List.mem_append.1 hv).elim (toFives_lt 0 0 bytes v) (checksum_lt _ _ v)
  have htext : (encode label bytes).toList = label.toList ++ '1' ::
      (toFives 0 0 bytes ++ checksum label.toList (toFives 0 0 bytes)).map digit := by
    simp [encode, String.toList_append]
  have hsound : residues.contains (residue (spread (label.toList.map Char.toLower)
      ++ (toFives 0 0 bytes ++ checksum label.toList (toFives 0 0 bytes)))) = true := by
    rw [hlower, ← List.append_assoc, residue_checksum]
    decide
  rw [htext] at hlength
  rw [decode, htext]
  simp only [split?_append _ hvalues, mapM_value?_digit hvalues, isMixed_eq_false hlower hvalues,
    hlabel, hsound]
  simpa [toBytes_toFives, String.ofList_toList, length_checksum] using hlength

end ChainRelay.Bech32
