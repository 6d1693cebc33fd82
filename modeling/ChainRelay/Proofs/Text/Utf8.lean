import ChainRelay.Text.Utf8
import Mathlib.Data.String.Basic
import Mathlib.Tactic.Common

/-!
# Reading text that was written

The bytes of a character are read as that character, whatever follows them
(`scan_append`), so the bytes of a text are read as its characters and as nothing
else (`scan_encode`). Hence no two texts have the same bytes.
-/

namespace ChainRelay.Utf8

variable {a b c d least greatest : UInt8} {rest : Bytes}

theorem toNat_ofNat {n : Nat} (h : n < 256) : (UInt8.ofNat n).toNat = n :=
  UInt8.toNat_ofNat_of_lt' h

/-- A byte below `0x80` is a character. -/
theorem scan_one (ha : a < 0x80) : scan (a :: rest) = some (Char.ofNat a.toNat) :: scan rest := by
  rw [scan, if_pos ha]

/-- Two bytes make a character. -/
theorem scan_two (ha : ¬ a < 0x80) (hl : lead? a = some (2, least, greatest))
    (hb : least ≤ b ∧ b ≤ greatest) :
    scan (a :: b :: rest) = some (Char.ofNat (a.toNat % 32 * 64 + low b)) :: scan rest := by
  rw [scan, if_neg ha]
  simp [hl, hb]

/-- Three bytes make a character. -/
theorem scan_three (ha : ¬ a < 0x80) (hl : lead? a = some (3, least, greatest))
    (hb : least ≤ b ∧ b ≤ greatest) (hc : isTail c) :
    scan (a :: b :: c :: rest)
      = some (Char.ofNat ((a.toNat % 16 * 64 + low b) * 64 + low c)) :: scan rest := by
  rw [scan, if_neg ha]
  simp [hl, hb, hc]

/-- Four bytes make a character. -/
theorem scan_four (ha : ¬ a < 0x80) (hl : lead? a = some (4, least, greatest))
    (hb : least ≤ b ∧ b ≤ greatest) (hc : isTail c) (hd : isTail d) :
    scan (a :: b :: c :: d :: rest)
      = some (Char.ofNat (((a.toNat % 8 * 64 + low b) * 64 + low c) * 64 + low d))
        :: scan rest := by
  rw [scan, if_neg ha]
  simp [hl, hb, hc, hd]

/-- The six bits of a byte that continues a character. -/
theorem low_tail (n : Nat) : low (UInt8.ofNat (n % 64 + 128)) = n % 64 := by
  rw [low, toNat_ofNat (by omega)]
  omega

theorem isTail_tail (n : Nat) : isTail (UInt8.ofNat (n % 64 + 128)) := by
  rw [isTail, decide_eq_true_eq, UInt8.le_iff_toNat_le, UInt8.le_iff_toNat_le,
    toNat_ofNat (by omega)]
  constructor
  · change 128 ≤ _
    omega
  · change _ ≤ 191
    omega

/-- What a byte starts is told by its number. -/
theorem lead?_ofNat {n : Nat} (h : n < 256) :
    lead? (UInt8.ofNat n) =
      if n < 0xC2 then none
      else if n < 0xE0 then some (2, .ofNat 0x80, .ofNat 0xBF)
      else if n = 0xE0 then some (3, .ofNat 0xA0, .ofNat 0xBF)
      else if n = 0xED then some (3, .ofNat 0x80, .ofNat 0x9F)
      else if n < 0xF0 then some (3, .ofNat 0x80, .ofNat 0xBF)
      else if n = 0xF0 then some (4, .ofNat 0x90, .ofNat 0xBF)
      else if n < 0xF4 then some (4, .ofNat 0x80, .ofNat 0xBF)
      else if n = 0xF4 then some (4, .ofNat 0x80, .ofNat 0x8F)
      else none := by
  rw [lead?]
  simp only [UInt8.lt_iff_toNat_lt, ← UInt8.toNat_inj, toNat_ofNat h]
  rfl

theorem not_lt_ofNat {n : Nat} (h : 0x80 ≤ n) (hn : n < 256) : ¬ UInt8.ofNat n < 0x80 := by
  rw [UInt8.lt_iff_toNat_lt, toNat_ofNat hn]
  exact Nat.not_lt.2 h

theorem ofNat_between {l n g : Nat} (hl : l ≤ n) (hg : n ≤ g) (h : g < 256) :
    UInt8.ofNat l ≤ UInt8.ofNat n ∧ UInt8.ofNat n ≤ UInt8.ofNat g := by
  rw [UInt8.le_iff_toNat_le, UInt8.le_iff_toNat_le, toNat_ofNat (by omega),
    toNat_ofNat (by omega), toNat_ofNat h]
  exact ⟨hl, hg⟩

/-- The first byte of three admits the second one, unless they stand for a
    surrogate. -/
theorem lead?_three {n : Nat} (hn : 0x7FF < n) (hn' : n ≤ 0xFFFF)
    (hs : n < 0xD800 ∨ 0xDFFF < n) :
    ∃ least greatest, lead? (UInt8.ofNat (n / 4096 % 16 + 0xE0)) = some (3, least, greatest) ∧
      least ≤ UInt8.ofNat (n / 64 % 64 + 0x80) ∧
      UInt8.ofNat (n / 64 % 64 + 0x80) ≤ greatest := by
  rw [lead?_ofNat (by omega), if_neg (by omega), if_neg (by omega)]
  split_ifs with h₁ h₂ h₃
  · exact ⟨_, _, rfl, ofNat_between (by omega) (by omega) (by omega)⟩
  · exact ⟨_, _, rfl, ofNat_between (by omega) (by omega) (by omega)⟩
  · exact ⟨_, _, rfl, ofNat_between (by omega) (by omega) (by omega)⟩
  all_goals omega

/-- The first byte of four admits the second one. -/
theorem lead?_four {n : Nat} (hn : 0xFFFF < n) (hn' : n < 0x110000) :
    ∃ least greatest, lead? (UInt8.ofNat (n / 262144 % 8 + 0xF0)) = some (4, least, greatest) ∧
      least ≤ UInt8.ofNat (n / 4096 % 64 + 0x80) ∧
      UInt8.ofNat (n / 4096 % 64 + 0x80) ≤ greatest := by
  rw [lead?_ofNat (by omega), if_neg (by omega), if_neg (by omega), if_neg (by omega),
    if_neg (by omega), if_neg (by omega)]
  split_ifs with h₁ h₂ h₃
  · exact ⟨_, _, rfl, ofNat_between (by omega) (by omega) (by omega)⟩
  · exact ⟨_, _, rfl, ofNat_between (by omega) (by omega) (by omega)⟩
  · exact ⟨_, _, rfl, ofNat_between (by omega) (by omega) (by omega)⟩
  · omega

/-- The bytes of a character are read as that character. -/
theorem scan_encodeChar (c : Char) (rest : Bytes) :
    scan (String.utf8EncodeChar c ++ rest) = some c :: scan rest := by
  have hv : c.val.toNat < 0xD800 ∨ 0xDFFF < c.val.toNat ∧ c.val.toNat < 0x110000 := c.valid
  have hc : Char.ofNat c.val.toNat = c := Char.ofNat_toNat c
  simp only [String.utf8EncodeChar]
  -- One case for each number of bytes; the bits are put together again in each.
  split_ifs with h₁ h₂ h₃
  · rw [List.singleton_append, scan_one, toNat_ofNat (by omega), hc]
    rw [UInt8.lt_iff_toNat_lt, toNat_ofNat (by omega)]
    exact Nat.lt_succ_of_le h₁
  · have hl : lead? (UInt8.ofNat (c.val.toNat / 64 % 32 + 0xC0)) = some (2, 0x80, 0xBF) := by
      rw [lead?_ofNat (by omega), if_neg (by omega), if_pos (by omega)]
      rfl
    have hb := isTail_tail c.val.toNat
    rw [isTail, decide_eq_true_eq] at hb
    rw [List.cons_append, List.singleton_append,
      scan_two (not_lt_ofNat (by omega) (by omega)) hl hb, toNat_ofNat (by omega), low_tail]
    rw [show (c.val.toNat / 64 % 32 + 0xC0) % 32 * 64 + c.val.toNat % 64 = c.val.toNat by omega, hc]
  · obtain ⟨least, greatest, hl, hb⟩ := lead?_three (n := c.val.toNat) (by omega) h₃ (by omega)
    rw [List.cons_append, List.cons_append, List.singleton_append,
      scan_three (not_lt_ofNat (by omega) (by omega)) hl hb (isTail_tail _),
      toNat_ofNat (by omega), low_tail, low_tail]
    rw [show ((c.val.toNat / 4096 % 16 + 0xE0) % 16 * 64 + c.val.toNat / 64 % 64) * 64
      + c.val.toNat % 64 = c.val.toNat by omega, hc]
  · obtain ⟨least, greatest, hl, hb⟩ := lead?_four (n := c.val.toNat) (by omega) (by omega)
    rw [List.cons_append, List.cons_append, List.cons_append, List.singleton_append,
      scan_four (not_lt_ofNat (by omega) (by omega)) hl hb (isTail_tail _) (isTail_tail _),
      toNat_ofNat (by omega), low_tail, low_tail, low_tail]
    rw [show (((c.val.toNat / 262144 % 8 + 0xF0) % 8 * 64 + c.val.toNat / 4096 % 64) * 64
      + c.val.toNat / 64 % 64) * 64 + c.val.toNat % 64 = c.val.toNat by omega, hc]

/-- The bytes of characters are read as these characters, whatever follows. -/
theorem scan_append (cs : List Char) (rest : Bytes) :
    scan (cs.flatMap String.utf8EncodeChar ++ rest) = cs.map some ++ scan rest := by
  induction cs with
  | nil => rfl
  | cons c cs ih =>
    rw [List.flatMap_cons, List.append_assoc, scan_encodeChar, ih, List.map_cons, List.cons_append]

/-- The bytes of a text are read as its characters. -/
theorem scan_encode (s : String) : scan (encode s) = s.toList.map some := by
  have h := scan_append s.toList []
  rwa [List.append_nil, scan, List.append_nil] at h

/-- Texts with the same bytes are the same. -/
theorem encode_injective : Function.Injective encode := by
  intro s t h
  have hmap : s.toList.map some = t.toList.map some := by
    rw [← scan_encode, ← scan_encode, h]
  exact String.toList_injective ((List.map_inj_right fun _ _ => Option.some.inj).1 hmap)

/-! ## The order of bytes -/

/-- The lesser of two numbers has a lesser quotient, or the same one and a lesser rest. -/
theorem div_lt_or_mod_lt {n m : Nat} (h : n < m) (k : Nat) :
    n / k < m / k ∨ n / k = m / k ∧ n % k < m % k := by
  rcases Nat.lt_or_ge (n / k) (m / k) with hlt | hge
  · exact .inl hlt
  · have heq := Nat.le_antisymm (Nat.div_le_div_right h.le) hge
    have hn := Nat.div_add_mod n k
    have hm := Nat.div_add_mod m k
    rw [heq] at hn
    exact .inr ⟨heq, by omega⟩

/-- The bytes of the lesser of two characters are less, whatever follows them. -/
theorem encodeChar_append_lt {c d : Char} (h : c < d) (xs ys : Bytes) :
    String.utf8EncodeChar c ++ xs < String.utf8EncodeChar d ++ ys := by
  have hlt : c.val.toNat < d.val.toNat := h
  have hd : d.val.toNat < 0xD800 ∨ 0xDFFF < d.val.toNat ∧ d.val.toNat < 0x110000 := d.valid
  simp only [String.utf8EncodeChar]
  generalize c.val.toNat = n at hlt ⊢
  generalize d.val.toNat = m at hlt hd ⊢
  -- One case for each two numbers of bytes; fewer bytes start with a lesser one.
  split_ifs
  all_goals simp (disch := omega) only [List.cons_append, List.nil_append, List.cons_lt_cons_iff,
    UInt8.lt_iff_toNat_lt, ← UInt8.toNat_inj, toNat_ofNat]
  any_goals omega
  -- Four bytes each are left, which are told apart from the first one on.
  rcases div_lt_or_mod_lt hlt 262144 with h | ⟨h, hlt⟩
  · exact .inl (by omega)
  · refine .inr ⟨by omega, ?_⟩
    rcases div_lt_or_mod_lt hlt 4096 with h | ⟨h, hlt⟩
    · exact .inl (by omega)
    · exact .inr ⟨by omega, by omega⟩

theorem flatMap_encodeChar_lt {cs ds : List Char} (h : cs < ds) :
    cs.flatMap String.utf8EncodeChar < ds.flatMap String.utf8EncodeChar := by
  induction h with
  | @nil d ds =>
    obtain ⟨b, bs, hb⟩ := List.exists_cons_of_ne_nil (String.utf8EncodeChar_ne_nil (c := d))
    rw [List.flatMap_nil, List.flatMap_cons, hb]
    exact List.nil_lt_cons b _
  | rel h => exact encodeChar_append_lt h _ _
  | cons _ ih => exact List.append_left_lt ih

/-- The bytes of the lesser of two texts are less. -/
theorem encode_lt {s t : String} (h : s < t) : encode s < encode t :=
  flatMap_encodeChar_lt (String.lt_iff_toList_lt.1 h)

end ChainRelay.Utf8
