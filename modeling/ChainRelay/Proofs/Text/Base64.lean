import ChainRelay.Proofs.Text.Utf8
import ChainRelay.Text.Base64

/-!
# Base64 is written in one way

What is read as bytes is the text of these bytes, and the text of bytes is read as them
(`decode?_eq_some_iff`). So no two texts stand for the same bytes: the padding must be
there, and the bits that fill up the last digit are zero.
-/

namespace ChainRelay.Base64

/-! ## Digits -/

theorem value?_digit : ∀ n < 64, value? (digit n) = some n := by decide

theorem digit_ne_padding : ∀ n < 64, digit n ≠ '=' := by decide

theorem ofNat_toNat_sub {c : Char} {low : Nat} (h : low ≤ c.toNat) :
    Char.ofNat (low + (c.toNat - low)) = c := by
  rw [Nat.add_sub_cancel' h, Char.ofNat_toNat]

/-- What has a value is the digit for it. -/
theorem digit_of_value? {c : Char} {n : Nat} (h : value? c = some n) : n < 64 ∧ digit n = c := by
  rw [value?] at h
  split_ifs at h with hupper hlower hnumber hplus hslash <;> cases h
  · have hlow : 65 ≤ c.toNat := hupper.1
    have hhigh : c.toNat ≤ 90 := hupper.2
    rw [digit, if_pos (by omega), ofNat_toNat_sub hlow]
    exact ⟨by omega, rfl⟩
  · have hlow : 97 ≤ c.toNat := hlower.1
    have hhigh : c.toNat ≤ 122 := hlower.2
    rw [digit, if_neg (by omega), if_pos (by omega), Nat.add_sub_cancel, ofNat_toNat_sub hlow]
    exact ⟨by omega, rfl⟩
  · have hlow : 48 ≤ c.toNat := hnumber.1
    have hhigh : c.toNat ≤ 57 := hnumber.2
    rw [digit, if_neg (by omega), if_neg (by omega), if_pos (by omega), Nat.add_sub_cancel,
      ofNat_toNat_sub hlow]
    exact ⟨by omega, rfl⟩
  · exact ⟨by decide, hplus.symm⟩
  · exact ⟨by decide, hslash.symm⟩

/-! ## Groups of digits -/

theorem ofNat_eq {n : Nat} {b : UInt8} (h : n = b.toNat) : UInt8.ofNat n = b := by
  rw [h, UInt8.ofNat_toNat]

/-- A group in which the last digit is no padding stands for three bytes. -/
theorem bytes?_cons {s : Char} (hs : s ≠ '=') (p q r : Char) (rest : List Char) :
    bytes? (p :: q :: r :: s :: rest) = (do
      let p ← value? p
      let q ← value? q
      let r ← value? r
      let s ← value? s
      let more ← bytes? rest
      some (UInt8.ofNat (p * 4 + q / 16) :: UInt8.ofNat (q % 16 * 16 + r / 4)
        :: UInt8.ofNat (r % 4 * 64 + s) :: more)) := by
  rw [bytes?]
  · exact fun _ h => absurd h hs
  · exact fun h => absurd h hs

/-- A group in which only the last digit is padding stands for two bytes. -/
theorem bytes?_pad {r : Char} (hr : r ≠ '=') (p q : Char) :
    bytes? [p, q, r, '='] = (do
      let p ← value? p
      let q ← value? q
      let r ← value? r
      if r % 4 = 0 then
        some [UInt8.ofNat (p * 4 + q / 16), UInt8.ofNat (q % 16 * 16 + r / 4)]
      else none) := by
  rw [bytes?]
  exact hr

/-- The text of bytes is read as these bytes. -/
theorem bytes?_digits (bytes : Bytes) : bytes? (digits bytes) = some bytes := by
  fun_induction digits bytes with
  | case1 => rfl
  | case2 a =>
    have ha := a.toNat_lt
    have hp := value?_digit (a.toNat / 4) (by omega)
    have hq := value?_digit (a.toNat % 4 * 16) (by omega)
    simp only [bytes?, hp, hq, Option.bind_eq_bind, Option.bind_some, Nat.mul_mod_left,
      if_true]
    rw [ofNat_eq (b := a) (by omega)]
  | case3 a b =>
    have ha := a.toNat_lt
    have hb := b.toNat_lt
    have hp := value?_digit (a.toNat / 4) (by omega)
    have hq := value?_digit (a.toNat % 4 * 16 + b.toNat / 16) (by omega)
    have hr := value?_digit (b.toNat % 16 * 4) (by omega)
    rw [bytes?_pad (digit_ne_padding _ (by omega))]
    simp only [hp, hq, hr, Option.bind_eq_bind, Option.bind_some, Nat.mul_mod_left, if_true]
    rw [ofNat_eq (b := a) (by omega), ofNat_eq (b := b) (by omega)]
  | case4 a b c rest ih =>
    have ha := a.toNat_lt
    have hb := b.toNat_lt
    have hc := c.toNat_lt
    have hp := value?_digit (a.toNat / 4) (by omega)
    have hq := value?_digit (a.toNat % 4 * 16 + b.toNat / 16) (by omega)
    have hr := value?_digit (b.toNat % 16 * 4 + c.toNat / 64) (by omega)
    have hs := value?_digit (c.toNat % 64) (by omega)
    rw [bytes?_cons (digit_ne_padding _ (by omega))]
    simp only [hp, hq, hr, hs, ih, Option.bind_eq_bind, Option.bind_some]
    rw [ofNat_eq (b := a) (by omega), ofNat_eq (b := b) (by omega),
      ofNat_eq (b := c) (by omega)]

/-- What is read as bytes is the text of these bytes. -/
theorem digits_of_bytes? {cs : List Char} {bytes : Bytes} (h : bytes? cs = some bytes) :
    digits bytes = cs := by
  fun_induction bytes? cs generalizing bytes with
  | case1 =>
    cases h
    rfl
  | case2 p q =>
    simp only [Option.bind_eq_bind, Option.bind_eq_some_iff, Option.ite_none_right_eq_some,
      Option.some.injEq] at h
    obtain ⟨m, hm, n, hn, hfilled, rfl⟩ := h
    obtain ⟨hm, rfl⟩ := digit_of_value? hm
    obtain ⟨hn, rfl⟩ := digit_of_value? hn
    have ha := Utf8.toNat_ofNat (show m * 4 + n / 16 < 256 by omega)
    rw [digits, ha, show (m * 4 + n / 16) / 4 = m by omega,
      show (m * 4 + n / 16) % 4 * 16 = n by omega]
  | case3 p q r hr =>
    simp only [Option.bind_eq_bind, Option.bind_eq_some_iff, Option.ite_none_right_eq_some,
      Option.some.injEq] at h
    obtain ⟨m, hm, n, hn, k, hk, hfilled, rfl⟩ := h
    obtain ⟨hm, rfl⟩ := digit_of_value? hm
    obtain ⟨hn, rfl⟩ := digit_of_value? hn
    obtain ⟨hk, rfl⟩ := digit_of_value? hk
    have ha := Utf8.toNat_ofNat (show m * 4 + n / 16 < 256 by omega)
    have hb := Utf8.toNat_ofNat (show n % 16 * 16 + k / 4 < 256 by omega)
    rw [digits, ha, hb, show (m * 4 + n / 16) / 4 = m by omega,
      show (m * 4 + n / 16) % 4 * 16 + (n % 16 * 16 + k / 4) / 16 = n by omega,
      show (n % 16 * 16 + k / 4) % 16 * 4 = k by omega]
  | case4 p q r s rest _ _ ih =>
    simp only [Option.bind_eq_bind, Option.bind_eq_some_iff, Option.some.injEq] at h
    obtain ⟨m, hm, n, hn, k, hk, l, hl, more, hmore, rfl⟩ := h
    obtain ⟨hm, rfl⟩ := digit_of_value? hm
    obtain ⟨hn, rfl⟩ := digit_of_value? hn
    obtain ⟨hk, rfl⟩ := digit_of_value? hk
    obtain ⟨hl, rfl⟩ := digit_of_value? hl
    have ha := Utf8.toNat_ofNat (show m * 4 + n / 16 < 256 by omega)
    have hb := Utf8.toNat_ofNat (show n % 16 * 16 + k / 4 < 256 by omega)
    have hc := Utf8.toNat_ofNat (show k % 4 * 64 + l < 256 by omega)
    rw [digits, ha, hb, hc, ih hmore, show (m * 4 + n / 16) / 4 = m by omega,
      show (m * 4 + n / 16) % 4 * 16 + (n % 16 * 16 + k / 4) / 16 = n by omega,
      show (n % 16 * 16 + k / 4) % 16 * 4 + (k % 4 * 64 + l) / 64 = k by omega,
      show (k % 4 * 64 + l) % 64 = l by omega]
  | case5 => cases h

/-- A text stands for bytes exactly if it is the text of these bytes. -/
theorem decode?_eq_some_iff {s : String} {bytes : Bytes} :
    decode? s = some bytes ↔ s = encode bytes := by
  constructor
  · intro h
    rw [encode, digits_of_bytes? h, String.ofList_toList]
  · rintro rfl
    rw [decode?, encode, String.toList_ofList, bytes?_digits]

end ChainRelay.Base64
