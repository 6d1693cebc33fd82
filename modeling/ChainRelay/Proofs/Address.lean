import ChainRelay.Address
import ChainRelay.Proofs.Text.Utf8
import Mathlib.Tactic.Common

/-!
# Addresses of one account

Addresses are compared byte by byte, with the bytes of ASCII letters in lower case. In UTF-8
such a byte occurs in no other character, so this compares the texts of the addresses with
their ASCII letters in lower case (`Address.same_iff_alike`).
-/

namespace ChainRelay.Address

variable {a b : Address}

/-- Two addresses differ at most in the case of ASCII letters. -/
def Alike (a b : Address) : Prop := a.text.toLower = b.text.toLower

instance (a b : Address) : Decidable (a.Alike b) :=
  inferInstanceAs (Decidable (a.text.toLower = b.text.toLower))

theorem lowerByte_ofNat {n : Nat} (h : 0x80 ≤ n) (hn : n < 256) :
    lowerByte (UInt8.ofNat n) = UInt8.ofNat n := by
  refine if_neg fun ⟨_, hle⟩ => ?_
  rw [UInt8.le_iff_toNat_le, Utf8.toNat_ofNat hn] at hle
  exact absurd (Nat.le_trans h hle) (by decide)

theorem map_lowerByte_ascii : ∀ n < 0x80,
    (String.utf8EncodeChar (Char.ofNat n)).map lowerByte
      = String.utf8EncodeChar (Char.ofNat n).toLower := by
  decide

/-- The bytes of a character in lower case are those of its lower case. -/
theorem map_lowerByte_encodeChar (c : Char) :
    (String.utf8EncodeChar c).map lowerByte = String.utf8EncodeChar c.toLower := by
  rcases Nat.lt_or_ge c.toNat 0x80 with hc | hc
  · rw [← Char.ofNat_toNat c]
    exact map_lowerByte_ascii _ hc
  · have hlower : c.toLower = c := dif_neg fun ⟨_, hle⟩ =>
      absurd (Nat.le_trans hc (UInt32.le_iff_toNat_le.1 hle)) (by decide)
    have hv : c.val.toNat < 0xD800 ∨ 0xDFFF < c.val.toNat ∧ c.val.toNat < 0x110000 := c.valid
    rw [hlower]
    -- All bytes of the character are beyond ASCII.
    simp only [String.utf8EncodeChar]
    split_ifs with h₁ h₂ h₃
    · exact absurd h₁ (Nat.not_le.2 hc)
    all_goals
      simp only [List.map_cons, List.map_nil]
      repeat rw [lowerByte_ofNat (by omega) (by omega)]

/-- What addresses are compared by are their texts in lower case. -/
theorem folded_eq_encode (a : Address) : a.folded = Utf8.encode a.text.toLower := by
  have hchar : (fun c => (String.utf8EncodeChar c).map lowerByte)
      = fun c => String.utf8EncodeChar c.toLower := funext map_lowerByte_encodeChar
  have htext : a.text.toLower.toList = a.text.toList.map Char.toLower := String.toList_map
  rw [folded, Utf8.encode, Utf8.encode, htext, List.flatMap_map, List.map_flatMap, hchar]

/-- Addresses are the same account exactly if they differ at most in the case of ASCII
    letters. -/
theorem same_iff_alike : a.same b = true ↔ a.Alike b := by
  rw [same, decide_eq_true_eq, folded_eq_encode, folded_eq_encode,
    Utf8.encode_injective.eq_iff, Alike]

end ChainRelay.Address
