import ChainRelay.Proofs.Text.Checksum
import Mathlib.Data.List.TakeWhile

/-!
# What texts in Bech32 carry

A text is its label, the last `1` in it, and digits of either case. The bits of the digits
but for the last six are those of the bytes that the text carries, one after the other,
and less than one byte more, whatever these are (`toBytes_eq_iff`). The last six
complete one of two checksums. What is read from a text is its label and the bytes that
it carries, and nothing else is read (`decode_eq_ok_iff`).
-/

namespace ChainRelay.Bech32

/-! ## Bits -/

/-- The low bits of a number, the most significant first. -/
def bits : Nat → Nat → List Bool
  | 0, _ => []
  | count + 1, n => n.testBit count :: bits count n

/-- The bits of some bytes. -/
def bitsOf (bytes : Bytes) : List Bool := bytes.flatMap fun b => bits 8 b.toNat

theorem length_bits (count n : Nat) : (bits count n).length = count := by
  induction count with
  | zero => rfl
  | succ count ih => rw [bits, List.length_cons, ih]

theorem bits_eq_iff {count m n : Nat} :
    bits count m = bits count n ↔ ∀ i < count, m.testBit i = n.testBit i := by
  induction count with
  | zero => simp [bits]
  | succ count ih =>
    rw [bits, bits, List.cons.injEq, ih]
    constructor
    · rintro ⟨hfirst, hrest⟩ i hi
      rcases Nat.lt_succ_iff_lt_or_eq.1 hi with hlt | rfl
      · exact hrest i hlt
      · exact hfirst
    · exact fun h => ⟨h count count.lt_succ_self, fun i hi => h i (Nat.lt_succ_of_lt hi)⟩

/-- The bits of two numbers, one after the other, are those of the number that both make. -/
theorem bits_append (high low : Nat) {width : Nat} (h : low < 2 ^ width) (count : Nat) :
    bits (count + width) (high * 2 ^ width + low) = bits count high ++ bits width low := by
  induction count with
  | zero =>
    rw [Nat.zero_add, bits, List.nil_append, bits_eq_iff]
    intro i hi
    rw [Nat.mul_comm, Nat.testBit_two_pow_mul_add high h, if_pos hi]
  | succ count ih =>
    rw [show count + 1 + width = count + width + 1 by omega, bits, bits, ih, Nat.mul_comm,
      Nat.testBit_two_pow_mul_add high h, if_neg (by omega), Nat.add_sub_cancel, List.cons_append]

theorem bits_cut (count width n : Nat) :
    bits (count + width) n = bits count (n / 2 ^ width) ++ bits width (n % 2 ^ width) := by
  rw [← bits_append _ _ (Nat.mod_lt n (by positivity)), Nat.div_add_mod']

/-- A number is told by its bits. -/
theorem bits_inj {count m n : Nat} (hm : m < 2 ^ count) (hn : n < 2 ^ count)
    (h : bits count m = bits count n) : m = n := by
  refine Nat.eq_of_testBit_eq fun i => ?_
  rcases Nat.lt_or_ge i count with hi | hi
  · exact bits_eq_iff.1 h i hi
  · have hle : 2 ^ count ≤ 2 ^ i := Nat.pow_le_pow_right (by decide) hi
    rw [Nat.testBit_lt_two_pow (hm.trans_le hle), Nat.testBit_lt_two_pow (hn.trans_le hle)]

theorem length_bitsOf (bytes : Bytes) : (bitsOf bytes).length = 8 * bytes.length := by
  induction bytes with
  | nil => rfl
  | cons b bytes ih =>
    rw [bitsOf, List.flatMap_cons, List.length_append, length_bits, ← bitsOf, ih, List.length_cons]
    omega

/-- Bytes are told by their bits, even if less than one byte more follows. -/
theorem eq_of_bitsOf_append {bytes bytes' : Bytes} {padding padding' : List Bool}
    (hpadding : padding.length < 8) (hpadding' : padding'.length < 8)
    (h : bitsOf bytes ++ padding = bitsOf bytes' ++ padding') : bytes = bytes' := by
  have hlength : bytes.length = bytes'.length := by
    have hbits := congrArg List.length h
    rw [List.length_append, List.length_append, length_bitsOf, length_bitsOf] at hbits
    omega
  replace h := List.append_inj_left h (by rw [length_bitsOf, length_bitsOf, hlength])
  induction bytes generalizing bytes' with
  | nil => exact (List.length_eq_zero_iff.1 hlength.symm).symm
  | cons b bytes ih =>
    cases bytes' with
    | nil => exact absurd hlength nofun
    | cons b' bytes' =>
      have hlengths : (bits 8 b.toNat).length = (bits 8 b'.toNat).length := by
        rw [length_bits, length_bits]
      obtain ⟨hfirst, hrest⟩ := List.append_inj h hlengths
      rw [UInt8.toNat_inj.1 (bits_inj b.toNat_lt b'.toNat_lt hfirst),
        ih (Nat.succ.inj hlength) hrest]

/-! ## Joining values to bytes -/

/-- The bits that are held and those of the values make the bytes, and less than one byte
    more. -/
theorem exists_bits_toBytes (held width : Nat) (values : List Nat) (hwidth : width < 8)
    (hheld : held < 2 ^ width) (hvalues : ∀ v ∈ values, v < 32) :
    ∃ padding, padding.length < 8 ∧
      bits width held ++ values.flatMap (bits 5) =
        bitsOf (toBytes held width values) ++ padding := by
  -- Either way the bits of the next value join those that are held.
  have hjoin : ∀ held width v, v < 32 →
      bits width held ++ bits 5 v = bits (width + 5) (held * 32 + v) :=
    fun held width v hv => (bits_append held v hv width).symm
  have hfits : ∀ held width v, held < 2 ^ width → v < 32 → held * 32 + v < 2 ^ (width + 5) := by
    intro held width v hheld hv
    rw [Nat.pow_add]
    omega
  fun_induction toBytes held width values with
  | case1 held width => exact ⟨bits width held, by rwa [length_bits], List.append_nil _⟩
  | case2 held width v rest held' width' hlt ih =>
    obtain ⟨hv, hrest⟩ := List.forall_mem_cons.1 hvalues
    obtain ⟨padding, hpadding, hbits⟩ := ih hlt (hfits held width v hheld hv) hrest
    refine ⟨padding, hpadding, ?_⟩
    rw [List.flatMap_cons, ← List.append_assoc, hjoin held width v hv]
    exact hbits
  | case3 held width v rest held' width' hge ih =>
    simp only [Nat.pow_eq] at ih ⊢
    obtain ⟨hv, hrest⟩ := List.forall_mem_cons.1 hvalues
    have hheld' : held' < 2 ^ width' := hfits held width v hheld hv
    have hwidth' : 8 + (width' - 8) = width' := Nat.add_sub_cancel' (Nat.not_lt.1 hge)
    -- The first eight of the joined bits are those of the next byte.
    have hhigh : held' / 2 ^ (width' - 8) < 256 := by
      rw [← hwidth', Nat.pow_add] at hheld'
      exact Nat.div_lt_of_lt_mul (by rwa [Nat.mul_comm] at hheld')
    have hbyte : (UInt8.ofNat (held' / 2 ^ (width' - 8))).toNat = held' / 2 ^ (width' - 8) := by
      rw [UInt8.toNat_ofNat']
      exact Nat.mod_eq_of_lt hhigh
    obtain ⟨padding, hpadding, hbits⟩ := ih (by omega) (Nat.mod_lt _ (by positivity)) hrest
    refine ⟨padding, hpadding, ?_⟩
    calc bits width held ++ (v :: rest).flatMap (bits 5)
        = bits width' held' ++ rest.flatMap (bits 5) := by
          rw [List.flatMap_cons, ← List.append_assoc, hjoin held width v hv]
      _ = bits 8 (held' / 2 ^ (width' - 8)) ++
            (bits (width' - 8) (held' % 2 ^ (width' - 8)) ++ rest.flatMap (bits 5)) := by
          rw [← List.append_assoc, ← bits_cut, hwidth']
      _ = _ := by
          rw [hbits, bitsOf, bitsOf, List.flatMap_cons, hbyte, List.append_assoc]

/-- Values are joined to the bytes that have the same bits, but for less than one byte
    more. -/
theorem toBytes_eq_iff {values : List Nat} (h : ∀ v ∈ values, v < 32) {bytes : Bytes} :
    toBytes 0 0 values = bytes ↔
      ∃ padding, padding.length < 8 ∧ values.flatMap (bits 5) = bitsOf bytes ++ padding := by
  obtain ⟨padding, hpadding, hbits⟩ := exists_bits_toBytes 0 0 values (by decide) (by decide) h
  rw [bits, List.nil_append] at hbits
  constructor
  · rintro rfl
    exact ⟨padding, hpadding, hbits⟩
  · rintro ⟨padding', hpadding', hbits'⟩
    exact eq_of_bitsOf_append hpadding hpadding' (hbits.symm.trans hbits')

/-! ## Texts -/

/-- A text has a last mark exactly if it is split there. -/
theorem split?_eq_some_iff {cs label digits : List Char} :
    split? cs = some (label, digits) ↔ cs = label ++ '1' :: digits ∧ '1' ∉ digits := by
  constructor
  · intro h
    rw [split?] at h
    have hsplit : cs.reverse.takeWhile (· ≠ '1') ++ cs.reverse.dropWhile (· ≠ '1') = cs.reverse :=
      List.takeWhile_append_dropWhile
    have hnone : '1' ∉ cs.reverse.takeWhile (· ≠ '1') := fun hmem =>
      absurd (List.mem_takeWhile_imp hmem) (by decide)
    cases hrest : cs.reverse.dropWhile (· ≠ '1') with
    | nil => rw [hrest] at h; cases h
    | cons c rest =>
      -- What is left starts where the search ended.
      have hne : cs.reverse.dropWhile (· ≠ '1') ≠ [] := hrest ▸ List.cons_ne_nil c rest
      have hhead := List.head_dropWhile_not _ hne
      simp only [hrest, List.head_cons] at hhead
      obtain rfl : c = '1' := by simpa using hhead
      rw [hrest] at h hsplit
      generalize cs.reverse.takeWhile (· ≠ '1') = found at h hsplit hnone
      cases h
      refine ⟨?_, fun hmem => hnone (List.mem_reverse.1 hmem)⟩
      rw [← List.reverse_reverse cs, ← hsplit]
      simp
  · rintro ⟨rfl, hdigits⟩
    have hne : ∀ c ∈ digits.reverse, decide (c ≠ '1') = true := by
      intro c hc
      exact decide_eq_true fun heq => hdigits (heq ▸ List.mem_reverse.1 hc)
    have hreverse : (label ++ '1' :: digits).reverse = digits.reverse ++ '1' :: label.reverse := by
      simp
    rw [split?, hreverse, List.takeWhile_append_of_pos hne, List.dropWhile_append_of_pos hne]
    simp

theorem lt_of_value? {c : Char} {v : Nat} (h : value? c = some v) : v < 32 := by
  rw [value?, List.idxOf?, List.findIdx?_eq_some_iff_findIdx_eq] at h
  exact h.1

theorem value?_one : value? '1' = none := by decide

/-- Digits have values of five bits, and the mark is none of them. -/
theorem of_mapM_value? {digits : List Char} {values : List Nat}
    (h : digits.mapM value? = some values) : (∀ v ∈ values, v < 32) ∧ '1' ∉ digits := by
  induction digits generalizing values with
  | nil =>
    cases h
    exact ⟨nofun, nofun⟩
  | cons c digits ih =>
    rw [List.mapM_cons] at h
    obtain ⟨v, hv, h⟩ := Option.bind_eq_some_iff.1 h
    obtain ⟨rest, hrest, h⟩ := Option.bind_eq_some_iff.1 h
    cases h
    obtain ⟨hlt, hnone⟩ := ih hrest
    refine ⟨List.forall_mem_cons.2 ⟨lt_of_value? hv, hlt⟩, fun hmem => ?_⟩
    rcases List.mem_cons.1 hmem with rfl | hmem
    · exact absurd (value?_one.symm.trans hv) nofun
    · exact hnone hmem

/-- What a text carries under a label. -/
structure Carries (s label : String) (bytes : Bytes) : Prop where
  named : isLabel label.toList
  unmixed : isMixed s.toList = false
  length : s.toList.length ≤ maxLength
  /-- The digits behind the label and the mark are values and one of the two checksums,
      and the values are the bytes with less than one byte more. -/
  digits : ∃ digits values sum padding,
    s.toList = label.toList ++ '1' :: digits ∧
    digits.mapM value? = some (values ++ sum) ∧ sum.length = 6 ∧
    residue (spread (label.toList.map Char.toLower) ++ (values ++ sum)) ∈ residues ∧
    values.flatMap (bits 5) = bitsOf bytes ++ padding ∧ padding.length < 8

/-- A text is read as the bytes that it carries under its label, and in no other way. -/
theorem decode_eq_ok_iff {s label : String} {bytes : Bytes} :
    decode s = .ok (label, bytes) ↔ Carries s label bytes := by
  constructor
  · intro h
    rw [decode] at h
    cases hsplit : split? s.toList with
    | none => rw [hsplit] at h; cases h
    | some parts =>
      obtain ⟨found, digits⟩ := parts
      cases hvalues : digits.mapM value? with
      | none => simp only [hsplit, hvalues] at h; cases h
      | some values =>
        simp only [hsplit, hvalues] at h
        split_ifs at h with hform hlength hsound
        cases h
        simp only [Bool.or_eq_true, Bool.not_eq_true', not_or, Bool.not_eq_true,
          Bool.not_eq_false] at hform
        simp only [Bool.or_eq_true, decide_eq_true_eq, not_or, Nat.not_lt] at hlength
        obtain ⟨htext, -⟩ := split?_eq_some_iff.1 hsplit
        obtain ⟨hlt, -⟩ := of_mapM_value? hvalues
        obtain ⟨padding, hpadding, hbits⟩ :=
          (toBytes_eq_iff fun v hv => hlt v (List.mem_of_mem_take hv)).1 rfl
        exact {
          named := by rw [String.toList_ofList]; exact hform.2
          unmixed := hform.1
          length := hlength.2
          digits := ⟨digits, values.take (values.length - 6), values.drop (values.length - 6),
            padding, by rw [String.toList_ofList]; exact htext,
            by rw [List.take_append_drop]; exact hvalues,
            by rw [List.length_drop]; omega,
            by rw [List.take_append_drop, String.toList_ofList]; simpa using hsound, hbits,
            hpadding⟩ }
  · rintro ⟨hlabel, hmixed, hlength, digits, values, sum, padding, htext, hvalues, hsum, hsound,
      hbits, hpadding⟩
    obtain ⟨hlt, hnone⟩ := of_mapM_value? hvalues
    have hsplit : split? s.toList = some (label.toList, digits) :=
      split?_eq_some_iff.2 ⟨htext, hnone⟩
    have hbytes : toBytes 0 0 values = bytes :=
      (toBytes_eq_iff fun v hv => hlt v (List.mem_append_left _ hv)).2 ⟨padding, hpadding, hbits⟩
    have htake : (values ++ sum).take ((values ++ sum).length - 6) = values := by
      rw [List.length_append, hsum, Nat.add_sub_cancel, List.take_left]
    rw [decode]
    simp only [hsplit, hvalues, hmixed, hlabel, htake, hbytes]
    rw [if_neg (by decide), if_neg (by simp [hsum, hlength]), if_pos (by simpa using hsound),
      String.ofList_toList]

/-- Whatever is read from a text is read under the label before the last mark. -/
theorem label_of_decode {s label : String} {bytes : Bytes} (h : decode s = .ok (label, bytes)) :
    ∃ digits, s.toList = label.toList ++ '1' :: digits ∧ '1' ∉ digits := by
  obtain ⟨-, -, -, digits, values, sum, padding, htext, hvalues, -⟩ := decode_eq_ok_iff.1 h
  exact ⟨digits, htext, (of_mapM_value? hvalues).2⟩

end ChainRelay.Bech32
