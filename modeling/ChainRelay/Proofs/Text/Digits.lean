import ChainRelay.Proofs.Text.Numeral
import Mathlib.Data.List.Induction

/-!
# What digits spell

The digits of a text spell a number, whatever its size (`Spells`). A reader with a bound goes
through them one by one, and comes to an end in one of three ways (`spells_or_fails`): they
spell a number below the bound, or there is a character that is no digit before they pass
the bound, or they pass it. The number is then read as it is, without any digit lost
(`read_eq_ok_iff`), and otherwise the fault tells which of the other two it was
(`read_eq_error_iff`).
-/

namespace ChainRelay.Numeral

variable {radix bound n : Nat} {c : Char} {cs : List Char}

/-! ## Digits -/

/-- A character is the digit for some number, in either case. -/
def IsDigit (radix : Nat) (c : Char) (d : Nat) : Prop :=
  d < radix ∧ (c = d.digitChar ∨ c = d.digitChar.toUpper)

theorem digit?_eq_some_iff_sixteen (hradix : radix ≤ 16) {d : Nat} :
    digit? radix c = some d ↔ digit? 16 c = some d ∧ d < radix := by
  simp only [digit?]
  split_ifs <;> simp_all <;> omega

/-- Each digit is the digit for its number. -/
theorem eq_digitChar_or : ∀ c, (digit? 16 c).isSome = true →
    ∀ d ∈ digit? 16 c, c = d.digitChar ∨ c = d.digitChar.toUpper :=
  forall_digit? (by decide)

theorem digit?_toUpper : ∀ d < 16, digit? 16 d.digitChar.toUpper = some d := by decide

theorem digit?_eq_some_iff (hradix : radix ≤ 16) {d : Nat} :
    digit? radix c = some d ↔ IsDigit radix c d := by
  rw [digit?_eq_some_iff_sixteen hradix, IsDigit, and_comm]
  refine and_congr_right fun hd => ⟨fun h => ?_, ?_⟩
  · exact eq_digitChar_or c (Option.isSome_of_eq_some h) d h
  · rintro (rfl | rfl)
    · exact digit?_digitChar 16 (by decide) d (by omega)
    · exact digit?_toUpper d (by omega)

theorem digit?_eq_none_iff (hradix : radix ≤ 16) :
    digit? radix c = none ↔ ∀ d, ¬ IsDigit radix c d := by
  simp only [Option.eq_none_iff_forall_ne_some, ne_eq, digit?_eq_some_iff hradix]

/-! ## Numbers -/

/-- Characters spell a number: they are its digits, with the ones last. There may be zeros
    before them. -/
def Spells (radix : Nat) (cs : List Char) (n : Nat) : Prop :=
  ∃ ds, List.Forall₂ (IsDigit radix) cs.reverse ds ∧ Nat.ofDigits radix ds = n

theorem Spells.nil : Spells radix [] 0 := ⟨[], .nil, rfl⟩

theorem spells_concat_iff :
    Spells radix (cs ++ [c]) n ↔
      ∃ m d, Spells radix cs m ∧ IsDigit radix c d ∧ n = m * radix + d := by
  rw [Spells, List.reverse_append, List.reverse_singleton, List.singleton_append]
  constructor
  · rintro ⟨_, h, rfl⟩
    cases h with
    | @cons _ d _ ds hd hds =>
      exact ⟨_, d, ⟨ds, hds, rfl⟩, hd, by rw [Nat.ofDigits_cons, Nat.mul_comm, Nat.add_comm]⟩
  · rintro ⟨_, d, ⟨ds, hds, rfl⟩, hd, rfl⟩
    exact ⟨d :: ds, .cons hd hds, by rw [Nat.ofDigits_cons, Nat.mul_comm, Nat.add_comm]⟩

/-- A character that is no digit comes before the digits pass the bound. -/
def Spoiled (radix bound : Nat) (cs : List Char) : Prop :=
  ∃ digits c rest n, cs = digits ++ c :: rest ∧ Spells radix digits n ∧ n < bound ∧
    ∀ d, ¬ IsDigit radix c d

/-- The digits pass the bound before any character that is no digit. -/
def Outgrown (radix bound : Nat) (cs : List Char) : Prop :=
  ∃ digits c rest n d, cs = digits ++ c :: rest ∧ Spells radix digits n ∧ n < bound ∧
    IsDigit radix c d ∧ bound ≤ n * radix + d

/-- Characters spell a number below the bound, or else it can be told which of two things
    comes first. -/
theorem spells_or_fails (hbound : 0 < bound) (cs : List Char) :
    (∃ n, Spells radix cs n ∧ n < bound) ∨ Spoiled radix bound cs ∨ Outgrown radix bound cs := by
  induction cs using List.reverseRecOn with
  | nil => exact .inl ⟨0, .nil, hbound⟩
  | append_singleton cs c ih =>
    rcases ih with ⟨n, hn, hlt⟩ | ⟨digits, e, rest, n, rfl, h⟩ | ⟨digits, e, rest, n, d, rfl, h⟩
    · by_cases hc : ∃ d, IsDigit radix c d
      · obtain ⟨d, hd⟩ := hc
        by_cases hnext : n * radix + d < bound
        · exact .inl ⟨_, spells_concat_iff.2 ⟨n, d, hn, hd, rfl⟩, hnext⟩
        · exact .inr (.inr ⟨cs, c, [], n, d, rfl, hn, hlt, hd, Nat.not_lt.1 hnext⟩)
      · exact .inr (.inl ⟨cs, c, [], n, rfl, hn, hlt, not_exists.1 hc⟩)
    · exact .inr (.inl ⟨digits, e, rest ++ [c], n, by simp, h⟩)
    · exact .inr (.inr ⟨digits, e, rest ++ [c], n, d, by simp, h⟩)

/-! ## Reading digits -/

theorem readDigits_of_spells (hradix : radix ≤ 16) (h : Spells radix cs n) (hn : n < bound) :
    readDigits radix bound cs 0 = .ok n := by
  induction cs using List.reverseRecOn generalizing n with
  | nil =>
    obtain ⟨ds, hds, rfl⟩ := h
    cases hds
    rfl
  | append_singleton cs c ih =>
    obtain ⟨m, d, hm, hd, rfl⟩ := spells_concat_iff.1 h
    -- The number without its last digit is not greater.
    have hle : m ≤ m * radix := Nat.le_mul_of_pos_right m (by have := hd.1; omega)
    rw [readDigits_append (ih hm (by omega)), readDigits, (digit?_eq_some_iff hradix).2 hd]
    exact if_pos hn

theorem readDigits_of_spoiled (hradix : radix ≤ 16) (h : Spoiled radix bound cs) :
    readDigits radix bound cs 0 = .error .invalidDigit := by
  obtain ⟨digits, c, rest, n, rfl, hn, hlt, hc⟩ := h
  rw [readDigits_append (readDigits_of_spells hradix hn hlt), readDigits,
    (digit?_eq_none_iff hradix).2 hc]

theorem readDigits_of_outgrown (hradix : radix ≤ 16) (h : Outgrown radix bound cs) :
    readDigits radix bound cs 0 = .error .tooLarge := by
  obtain ⟨digits, c, rest, n, d, rfl, hn, hlt, hd, hge⟩ := h
  rw [readDigits_append (readDigits_of_spells hradix hn hlt), readDigits,
    (digit?_eq_some_iff hradix).2 hd]
  exact if_neg (Nat.not_lt.2 hge)

/-! ## Reading texts -/

/-- What follows the sign, if there is one. -/
def unsigned : List Char → List Char
  | '+' :: rest => rest
  | cs => cs

/-- Characters are a text of a number: digits, at least one, with a sign or without. -/
def Writes (radix : Nat) (cs : List Char) (n : Nat) : Prop :=
  ∃ digits, (cs = digits ∨ cs = '+' :: digits) ∧ digits ≠ [] ∧ Spells radix digits n

/-- Why characters are no text of a number below the bound. -/
inductive Fails (radix bound : Nat) (cs : List Char) : Fault → Prop
  /-- There are none. -/
  | empty : cs = [] → Fails radix bound cs .empty
  /-- There is a sign, and nothing behind it. -/
  | signOnly : cs = ['+'] → Fails radix bound cs .invalidDigit
  /-- What follows the sign is spoiled before it passes the bound. -/
  | spoiled : Spoiled radix bound (unsigned cs) → Fails radix bound cs .invalidDigit
  /-- What follows the sign passes the bound. -/
  | outgrown : Outgrown radix bound (unsigned cs) → Fails radix bound cs .tooLarge

/-- There is a sign in front of what follows the sign, or nothing. -/
theorem eq_unsigned_or (cs : List Char) : cs = unsigned cs ∨ cs = '+' :: unsigned cs := by
  rw [unsigned.eq_def]
  split
  · exact .inr rfl
  · exact .inl rfl

theorem not_spells_plus (hradix : radix ≤ 16) : ¬ Spells radix ('+' :: cs) n := by
  intro h
  have hread := readDigits_of_spells hradix h n.lt_succ_self
  rw [readDigits, digit?_plus] at hread
  cases hread

theorem read_eq_readDigits (h : unsigned cs ≠ []) :
    read radix bound cs = readDigits radix bound (unsigned cs) 0 := by
  unfold unsigned at h ⊢
  split
  · next rest =>
    rw [read]
    rintro rfl
    exact h rfl
  · next hplus =>
    rw [read]
    · rintro rfl
      exact h rfl
    · rintro rfl
      exact hplus [] rfl
    · exact hplus

theorem read_of_writes (hradix : radix ≤ 16) (h : Writes radix cs n) (hn : n < bound) :
    read radix bound cs = .ok n := by
  obtain ⟨digits, hcs, hne, hspells⟩ := h
  have hunsigned : unsigned cs = digits := by
    rcases hcs with rfl | rfl
    · unfold unsigned
      split
      · exact absurd hspells (not_spells_plus hradix)
      · rfl
    · rfl
  rw [← hunsigned] at hne hspells
  rw [read_eq_readDigits hne, readDigits_of_spells hradix hspells hn]

theorem read_of_fails (hradix : radix ≤ 16) {fault : Fault} (h : Fails radix bound cs fault) :
    read radix bound cs = .error fault := by
  cases h with
  | empty h => rw [h, read]
  | signOnly h => rw [h, read]
  | spoiled h =>
    have hne : unsigned cs ≠ [] := by
      obtain ⟨digits, c, rest, n, hcs, -⟩ := h
      simp [hcs]
    rw [read_eq_readDigits hne, readDigits_of_spoiled hradix h]
  | outgrown h =>
    have hne : unsigned cs ≠ [] := by
      obtain ⟨digits, c, rest, n, d, hcs, -⟩ := h
      simp [hcs]
    rw [read_eq_readDigits hne, readDigits_of_outgrown hradix h]

theorem writes_or_fails (radix : Nat) (hbound : 0 < bound) (cs : List Char) :
    (∃ n, Writes radix cs n ∧ n < bound) ∨ ∃ fault, Fails radix bound cs fault := by
  rcases spells_or_fails hbound (unsigned cs) with ⟨n, hn, hlt⟩ | h | h
  · by_cases hne : unsigned cs = []
    · -- Nothing follows the sign, which may be missing as well.
      have hcs := eq_unsigned_or cs
      rw [hne] at hcs
      rcases hcs with hcs | hcs
      · exact .inr ⟨_, .empty hcs⟩
      · exact .inr ⟨_, .signOnly hcs⟩
    · exact .inl ⟨n, ⟨_, eq_unsigned_or cs, hne, hn⟩, hlt⟩
  · exact .inr ⟨_, .spoiled h⟩
  · exact .inr ⟨_, .outgrown h⟩

/-- A number is read exactly from its texts. -/
theorem read_eq_ok_iff (hradix : radix ≤ 16) (hbound : 0 < bound) :
    read radix bound cs = .ok n ↔ Writes radix cs n ∧ n < bound := by
  refine ⟨fun h => ?_, fun ⟨hn, hlt⟩ => read_of_writes hradix hn hlt⟩
  rcases writes_or_fails radix hbound cs with ⟨m, hm, hlt⟩ | ⟨fault, hfault⟩
  · rw [read_of_writes hradix hm hlt, Except.ok.injEq] at h
    exact h ▸ ⟨hm, hlt⟩
  · rw [read_of_fails hradix hfault] at h
    cases h

/-- All else is refused, each text with its fault. -/
theorem read_eq_error_iff (hradix : radix ≤ 16) (hbound : 0 < bound) {fault : Fault} :
    read radix bound cs = .error fault ↔ Fails radix bound cs fault := by
  refine ⟨fun h => ?_, read_of_fails hradix⟩
  rcases writes_or_fails radix hbound cs with ⟨m, hm, hlt⟩ | ⟨fault', hfault⟩
  · rw [read_of_writes hradix hm hlt] at h
    cases h
  · rw [read_of_fails hradix hfault, Except.error.injEq] at h
    exact h ▸ hfault

/-! ## Numbers of sixty-four bits -/

theorem read64_eq_ok_iff (hradix : radix ≤ 16) {s : String} {n : UInt64} :
    read64 radix s = .ok n ↔ Writes radix s.toList n.toNat := by
  rw [read64]
  constructor
  · intro h
    cases hread : read radix (Nat.pow 2 64) s.toList with
    | error fault => simp [hread, Except.map] at h
    | ok m =>
      rw [hread] at h
      cases h
      obtain ⟨hm, hlt⟩ := (read_eq_ok_iff hradix (by decide)).1 hread
      rwa [UInt64.toNat_ofNat_of_lt' hlt]
  · intro h
    rw [read_of_writes hradix h n.toNat_lt, Except.map, UInt64.ofNat_toNat]

theorem read64_eq_error_iff (hradix : radix ≤ 16) {s : String} {fault : Fault} :
    read64 radix s = .error fault ↔ Fails radix (Nat.pow 2 64) s.toList fault := by
  rw [← read_eq_error_iff hradix (by decide), read64]
  cases read radix (Nat.pow 2 64) s.toList with
  | ok n => simp [Except.map]
  | error _ => simp [Except.map]

end ChainRelay.Numeral
