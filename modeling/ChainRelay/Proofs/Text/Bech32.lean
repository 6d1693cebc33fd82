import ChainRelay.Text.Bech32
import Mathlib.Tactic.IntervalCases

/-!
# Reading back what Bech32 writes

Bytes are cut into values of five bits, and joined again from values
(`toBytes_toFives`). When a byte has been cut but for its last bits, its first bits
have been joined already; both parts together are that byte, which is what a step
from byte to byte keeps (`ReadsBack`). Digits tell values, so the text under a label
tells the bytes (`encode_injective`), whatever the checksum is.
-/

namespace ChainRelay.Bech32

/-- Values of the bytes are joined to these bytes, also behind a byte of which
    `width` bits are held and the others, `room` of them, are joined. -/
def ReadsBack (bytes : Bytes) : Prop :=
  toBytes 0 0 (toFives 0 0 bytes) = bytes ∧
  ∀ {joined held : Nat} (room width : Nat), 0 < width → width < 5 → room + width = 8 →
    joined < 2 ^ room → held < 2 ^ width →
    toBytes joined room (toFives held width bytes)
      = UInt8.ofNat (joined * 2 ^ width + held) :: bytes

namespace ReadsBack

/-- At the end the last value is filled up, and the bits that fill it are dropped. -/
theorem nil : ReadsBack [] := by
  refine ⟨rfl, fun {joined held} room width hpos hlt hroom _ hheld => ?_⟩
  obtain rfl : room = 8 - width := by omega
  interval_cases width
  all_goals
    simp only [pow_one, Nat.add_one_sub_one, toFives, one_ne_zero, OfNat.ofNat_ne_zero,
      ↓reduceIte, Nat.pow_eq, Nat.reducePow, toBytes, Nat.reduceAdd, Nat.reduceLT, Nat.reduceSub,
      List.cons.injEq, and_true] at hheld ⊢
    exact congrArg UInt8.ofNat (by omega)

theorem cons {b : UInt8} {rest : Bytes} (h : ReadsBack rest) : ReadsBack (b :: rest) := by
  obtain ⟨hwhole, hheld⟩ := h
  have hb := b.toNat_lt
  have hnext {joined held : Nat} (room width : Nat) (hpos : 0 < width) (hlt : width < 5)
      (hroom : room + width = 8) (hj : joined < 2 ^ room) (hh : held < 2 ^ width)
      (hbyte : joined * 2 ^ width + held = b.toNat) :
      toBytes joined room (toFives held width rest) = b :: rest := by
    rw [hheld room width hpos hlt hroom hj hh, hbyte, UInt8.ofNat_toNat]
  constructor
  · simp only [toFives, zero_add, Nat.reduceLT, ↓reduceIte, zero_mul, Nat.reduceSub, Nat.pow_eq,
      Nat.reducePow, toBytes]
    exact hnext 5 3 (by decide) (by decide) rfl (by omega) (by omega) (by omega)
  · intro joined held room width hpos hlt hroom hj hh
    obtain rfl : room = 8 - width := by omega
    -- Each number of held bits has its own cut, and leads to another number.
    interval_cases width
    · simp only [Nat.add_one_sub_one, Nat.reducePow, pow_one, toFives, Nat.reduceAdd,
        Nat.lt_add_one, ↓reduceIte, Nat.reduceSub, Nat.pow_eq, toBytes, Nat.reduceLT,
        List.cons.injEq] at hj hh ⊢
      refine ⟨congrArg UInt8.ofNat (by omega), ?_⟩
      exact hnext 4 4 (by decide) (by decide) rfl (by omega) (by omega) (by omega)
    · simp only [Nat.reduceSub, Nat.reducePow, toFives, Nat.reduceAdd, lt_self_iff_false,
        ↓reduceIte, Nat.pow_eq, tsub_self, pow_zero, Nat.div_one, Nat.mod_one, toBytes,
        Nat.reduceLT, List.cons.injEq] at hj hh ⊢
      refine ⟨congrArg UInt8.ofNat (by omega), ?_, hwhole⟩
      rw [← UInt8.toNat_inj, UInt8.toNat_ofNat']
      omega
    · simp only [Nat.reduceSub, Nat.reducePow, toFives, Nat.reduceAdd, Nat.reduceLT, ↓reduceIte,
        Nat.pow_eq, pow_one, toBytes, Nat.lt_add_one, List.cons.injEq] at hj hh ⊢
      refine ⟨congrArg UInt8.ofNat (by omega), ?_⟩
      exact hnext 7 1 (by decide) (by decide) rfl (by omega) (by omega) (by omega)
    · simp only [Nat.reduceSub, Nat.reducePow, toFives, Nat.reduceAdd, Nat.reduceLT, ↓reduceIte,
        Nat.pow_eq, toBytes, pow_one, List.cons.injEq] at hj hh ⊢
      refine ⟨congrArg UInt8.ofNat (by omega), ?_⟩
      exact hnext 6 2 (by decide) (by decide) rfl (by omega) (by omega) (by omega)

end ReadsBack

theorem readsBack (bytes : Bytes) : ReadsBack bytes := by
  induction bytes with
  | nil => exact .nil
  | cons _ _ ih => exact ih.cons

/-- Bytes are joined again from the values that they were cut into. -/
theorem toBytes_toFives (bytes : Bytes) : toBytes 0 0 (toFives 0 0 bytes) = bytes :=
  (readsBack bytes).1

/-! ## Digits -/

theorem toFives_lt (held width : Nat) (bytes : Bytes) : ∀ v ∈ toFives held width bytes, v < 32 := by
  fun_induction toFives held width bytes with
  | case1 held => simp
  | case2 held width hw => simp [Nat.mod_lt]
  | case3 held width b rest held' width' hlt ih => simpa [Nat.mod_lt] using ih
  | case4 held width b rest held' width' hge ih => simpa [Nat.mod_lt] using ih

theorem idxOf_digit : ∀ n < 32, alphabet.idxOf (digit n) = n := by decide

/-- Values are found again from their digits. -/
theorem map_idxOf_digit {values : List Nat} (h : ∀ v ∈ values, v < 32) :
    (values.map digit).map alphabet.idxOf = values := by
  rw [List.map_map]
  exact (List.map_congr_left fun v hv => idxOf_digit v (h v hv)).trans (List.map_id' values)

theorem length_checksum (label : List Char) (values : List Nat) :
    (checksum label values).length = 6 := by
  rw [checksum, List.length_map, List.length_range]

/-- Every five bits make a value, and what is left makes one more. -/
theorem length_toFives {width : Nat} (h : width < 5) (held : Nat) (bytes : Bytes) :
    (toFives held width bytes).length = (width + 8 * bytes.length + 4) / 5 := by
  fun_induction toFives held width bytes with
  | case1 held => rfl
  | case2 held width hw =>
    simp only [List.length_singleton, List.length_nil]
    omega
  | case3 held width b rest held' width' hlt ih =>
    simp only [List.length_cons, ih (by omega)]
    omega
  | case4 held width b rest held' width' hge ih =>
    simp only [List.length_cons, ih (by omega)]
    omega

/-- The text of bytes is as long as its label and their number say. -/
theorem length_encode (label : String) (bytes : Bytes) :
    (encode label bytes).toList.length
      = label.toList.length + 1 + ((8 * bytes.length + 4) / 5 + 6) := by
  simp only [encode, String.toList_append, String.toList_ofList, List.length_append,
    List.length_map, length_checksum, length_toFives (by decide : 0 < 5), Nat.zero_add]
  rfl

/-- Under one label, different bytes have different texts. -/
theorem encode_injective (label : String) : Function.Injective (encode label) := by
  intro bytes bytes' h
  have hdigits := congrArg String.toList h
  simp only [encode, String.toList_append, String.toList_ofList, List.append_assoc,
    List.append_cancel_left_eq, List.map_append] at hdigits
  have hvalues := congrArg (List.map alphabet.idxOf)
    (List.append_inj_left' hdigits (by simp only [List.length_map, length_checksum]))
  rw [map_idxOf_digit (toFives_lt 0 0 bytes), map_idxOf_digit (toFives_lt 0 0 bytes')] at hvalues
  rw [← toBytes_toFives bytes, hvalues, toBytes_toFives]

end ChainRelay.Bech32
