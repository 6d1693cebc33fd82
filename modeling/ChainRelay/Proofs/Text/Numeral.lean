import ChainRelay.Text.Numeral
import Mathlib.Data.Nat.Digits.Defs
import Mathlib.Tactic.Common

/-!
# Reading numbers that were written

The digits of a number below the bound, to any base up to sixteen, are read as that
number (`read_toDigits`), so a 64-bit number survives being written and read
(`readDecimal_ofWord`).
-/

namespace ChainRelay.Numeral

variable {radix bound : Nat}

theorem digit?_digitChar :
    ∀ radix ≤ 16, ∀ d < radix, digit? radix (Nat.digitChar d) = some d := by decide

/-- Digits are ASCII. -/
theorem toNat_lt_of_digit? {c : Char} (h : (digit? radix c).isSome = true) : c.toNat < 128 := by
  by_contra hc
  have hnot {d : Char} (hd : d.toNat < 128) : ¬ c ≤ d := fun hle => hc (Nat.lt_of_le_of_lt hle hd)
  simp [digit?, hnot (d := '9') (by decide), hnot (d := 'f') (by decide),
    hnot (d := 'F') (by decide)] at h

/-- What holds of the ASCII digits holds of all digits. -/
theorem forall_digit? {p : Char → Prop}
    (hp : ∀ n < 128, (digit? radix (Char.ofNat n)).isSome = true → p (Char.ofNat n)) :
    ∀ c, (digit? radix c).isSome = true → p c := by
  intro c h
  have hc := hp c.toNat (toNat_lt_of_digit? h)
  rw [Char.ofNat_toNat] at hc
  exact hc h

/-- A sign is no digit. -/
theorem digit?_plus (radix : Nat) : digit? radix '+' = none := if_neg (Nat.lt_irrefl radix)

/-- More digits are appended to the number that is read so far. -/
theorem readDigits_append {cs ds : List Char} {value number : Nat}
    (h : readDigits radix bound cs value = .ok number) :
    readDigits radix bound (cs ++ ds) value = readDigits radix bound ds number := by
  induction cs generalizing value with
  | nil =>
    rw [readDigits, Except.ok.injEq] at h
    rw [List.nil_append, h]
  | cons c cs ih =>
    rw [List.cons_append, readDigits]
    rw [readDigits] at h
    cases hd : digit? radix c with
    | none => simp [hd] at h
    | some d =>
      simp only [hd] at h ⊢
      split_ifs at h ⊢ with hb
      exact ih h

theorem readDigits_digitChar {d value : Nat} (hradix : radix ≤ 16) (hd : d < radix)
    (h : value * radix + d < bound) :
    readDigits radix bound [Nat.digitChar d] value = .ok (value * radix + d) := by
  simp [readDigits, digit?_digitChar radix hradix d hd, h]

theorem readDigits_toDigits {n : Nat} (hone : 1 < radix) (hradix : radix ≤ 16) (h : n < bound) :
    readDigits radix bound (Nat.toDigits radix n) 0 = .ok n := by
  -- The last digit is read behind the digits of the number without it.
  induction n using Nat.strongRecOn with
  | ind n ih =>
    rcases Nat.lt_or_ge n radix with hn | hn
    · rw [Nat.toDigits_of_lt_base hn, readDigits_digitChar hradix hn (by omega)]
      simp
    · have hlt : n / radix < n := Nat.div_lt_self (by omega) hone
      rw [Nat.toDigits_of_base_le hone hn, readDigits_append (ih (n / radix) hlt (by omega)),
        readDigits_digitChar hradix (Nat.mod_lt _ (by omega)) (by rwa [Nat.div_add_mod']),
        Nat.div_add_mod']

/-- The digits of a number below the bound are read as that number. -/
theorem read_toDigits {n : Nat} (hone : 1 < radix) (hradix : radix ≤ 16) (h : n < bound) :
    read radix bound (Nat.toDigits radix n) = .ok n := by
  have hread := readDigits_toDigits hone hradix h
  match hn : Nat.toDigits radix n with
  | [] => exact absurd hn Nat.toDigits_ne_nil
  | c :: cs =>
    rw [hn] at hread
    -- A sign would be passed over, but no digit is one.
    have hc : c ≠ '+' := by
      rintro rfl
      rw [readDigits, digit?_plus] at hread
      cases hread
    rw [read]
    · exact hread
    all_goals simp [hc]

/-- A 64-bit number is read as it was written. -/
theorem readDecimal_ofWord (n : UInt64) : readDecimal (ofWord n) = .ok n := by
  rw [readDecimal, read64, ofWord, decimal, String.toList_ofList,
    read_toDigits (by decide) (by decide) n.toNat_lt]
  rw [Except.map, UInt64.ofNat_toNat]

/-- Different 64-bit numbers are written differently. -/
theorem ofWord_injective : Function.Injective ofWord := by
  intro m n h
  have hread := readDecimal_ofWord m
  rw [h, readDecimal_ofWord] at hread
  exact (Except.ok.inj hread).symm

theorem length_ofWord_le (n : UInt64) : (ofWord n).toList.length ≤ 20 := by
  rw [ofWord, decimal, String.toList_ofList]
  exact Nat.toDigits_length 10 n.toNat 20 (by decide) (n.toNat_lt.trans (by decide))

theorem isDigit_of_mem_ofWord {n : UInt64} {c : Char} (h : c ∈ (ofWord n).toList) :
    c.isDigit = true := by
  rw [ofWord, decimal, String.toList_ofList] at h
  exact Nat.isDigit_of_mem_toDigits (by decide) (by decide) h

end ChainRelay.Numeral
