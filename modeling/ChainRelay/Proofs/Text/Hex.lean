import ChainRelay.Text.Hex
import Mathlib.Data.List.Basic
import Mathlib.Tactic.Common

/-!
# What hexadecimal digits tell

Both digits of a byte are found again, so the upper-case text of bytes tells the bytes
(`upper_injective`). Their lower-case text is read as these bytes (`decode_lower`).
-/

namespace ChainRelay.Hex

theorem digit_inj : ∀ m < 16, ∀ n < 16, digit 'A' m = digit 'A' n → m = n := by decide

theorem digits_injective : Function.Injective (digits 'A') := by
  intro bytes bytes' h
  induction bytes generalizing bytes' with
  | nil =>
    cases bytes' with
    | nil => rfl
    | cons b' rest' => exact absurd h nofun
  | cons b rest ih =>
    cases bytes' with
    | nil => exact absurd h nofun
    | cons b' rest' =>
      obtain ⟨hhigh, hlow, hrest⟩ : digit 'A' (b.toNat / 16) = digit 'A' (b'.toNat / 16) ∧
          digit 'A' (b.toNat % 16) = digit 'A' (b'.toNat % 16) ∧
            digits 'A' rest = digits 'A' rest' := by
        simpa [digits] using h
      have hb := b.toNat_lt
      have hb' := b'.toNat_lt
      have hhigh := digit_inj _ (by omega) _ (by omega) hhigh
      have hlow := digit_inj _ (by omega) _ (by omega) hlow
      rw [ih hrest, UInt8.toNat_inj.1 (by omega : b.toNat = b'.toNat)]

/-- The upper-case text of bytes tells the bytes. -/
theorem upper_injective : Function.Injective upper := by
  intro bytes bytes' h
  exact digits_injective (String.ofList_injective h)

/-! ## Reading lower-case digits -/

/-- The digits of a byte, as bytes of their own. -/
def digitBytes (b : UInt8) : Bytes :=
  [UInt8.ofNat (digit 'a' (b.toNat / 16)).toNat, UInt8.ofNat (digit 'a' (b.toNat % 16)).toNat]

theorem utf8EncodeChar_digit :
    ∀ n < 16, String.utf8EncodeChar (digit 'a' n) = [UInt8.ofNat (digit 'a' n).toNat] := by
  decide

theorem value?_digit :
    ∀ n < 16, value? (UInt8.ofNat (digit 'a' n).toNat) = some n := by
  decide

theorem encode_lower (bytes : Bytes) : Utf8.encode (lower bytes) = bytes.flatMap digitBytes := by
  rw [lower, Utf8.encode, String.toList_ofList, digits, List.flatMap_assoc]
  refine List.flatMap_congr fun b _ => ?_
  have hb := b.toNat_lt
  rw [List.flatMap_cons, List.flatMap_singleton, utf8EncodeChar_digit _ (by omega),
    utf8EncodeChar_digit _ (by omega), digitBytes, List.singleton_append]

theorem length_flatMap_digitBytes (bytes : Bytes) :
    (bytes.flatMap digitBytes).length = 2 * bytes.length := by
  induction bytes with
  | nil => rfl
  | cons b bytes ih =>
    rw [List.flatMap_cons, List.length_append, ih, List.length_cons, digitBytes]
    simp only [List.length_cons, List.length_nil]
    omega

theorem pairs_digitBytes (position : Nat) (bytes : Bytes) :
    pairs position (bytes.flatMap digitBytes) = .ok bytes := by
  induction bytes generalizing position with
  | nil => rfl
  | cons b bytes ih =>
    have hb := b.toNat_lt
    have hsum : b.toNat / 16 * 16 + b.toNat % 16 = b.toNat := by omega
    rw [List.flatMap_cons, digitBytes, List.cons_append, List.cons_append, List.nil_append, pairs,
      value?_digit _ (by omega), value?_digit _ (by omega)]
    simp only [ih, hsum, UInt8.ofNat_toNat]
    rfl

/-- Bytes are read from their lower-case digits. -/
theorem decode_lower (bytes : Bytes) : decode (lower bytes) = .ok bytes := by
  have heven : (bytes.flatMap digitBytes).length % 2 ≠ 1 := by
    rw [length_flatMap_digitBytes]
    omega
  rw [decode, encode_lower, if_neg heven, pairs_digitBytes]

/-- The lower-case text of bytes tells the bytes. -/
theorem lower_injective : Function.Injective lower := by
  intro bytes bytes' h
  have hread := decode_lower bytes
  rw [h, decode_lower] at hread
  exact (Except.ok.inj hread).symm

end ChainRelay.Hex
