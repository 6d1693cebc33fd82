import ChainRelay.Proofs.Json.Numbers

/-!
# Reading integers that were written

The text of a number does not tell where it ends, so an integer is read as it was
written only if nothing follows it that could go on with it (`Units.EndNumber`). Its
digits are then gathered to the number that they were made from, without any left
over, since it has no more than sixty-four bits (`Literal.scan_toDigits`).
-/

namespace ChainRelay

/-- The input does not go on with a number. -/
def Units.EndNumber : Units → Prop
  | some c :: _ => ¬ ('0' ≤ c ∧ c ≤ '9') ∧ c ≠ '.' ∧ c ≠ 'e' ∧ c ≠ 'E'
  | _ => True

namespace Literal

variable {n m : Nat} {rest : Units}

theorem digits_of_endNumber (h : rest.EndNumber) : digits rest = ([], rest) := by
  rcases rest with _ | ⟨_ | c, rest⟩
  · rfl
  · rfl
  · rw [digits, if_neg h.1]

/-- Digits are read up to their end. -/
theorem digits_append {cs : List Char} (hcs : ∀ c ∈ cs, c.isDigit = true)
    (h : rest.EndNumber) :
    digits (cs.map some ++ rest) = (cs.map fun c => c.toNat - 48, rest) := by
  induction cs with
  | nil => exact digits_of_endNumber h
  | cons c cs ih =>
    have hc : '0' ≤ c ∧ c ≤ '9' := by
      have hdigit := hcs c List.mem_cons_self
      rw [Char.isDigit, Bool.and_eq_true, decide_eq_true_eq, decide_eq_true_eq] at hdigit
      exact hdigit
    rw [List.map_cons, List.cons_append, digits, if_pos hc,
      ih fun d hd => hcs d (List.mem_cons_of_mem _ hd)]
    rfl

/-- The values of the decimal digits of a number. -/
def digitsOf (n : Nat) : List Nat := (Nat.toDigits 10 n).map fun c => c.toNat - 48

theorem digits_toDigits (n : Nat) (h : rest.EndNumber) :
    digits ((Nat.toDigits 10 n).map some ++ rest) = (digitsOf n, rest) :=
  digits_append (fun _ hc => Nat.isDigit_of_mem_toDigits (by decide) (by decide) hc) h

theorem toNat_digitChar : ∀ d < 10, (Nat.digitChar d).toNat - 48 = d := by decide

theorem digitsOf_of_lt (h : n < 10) : digitsOf n = [n] := by
  rw [digitsOf, Nat.toDigits_of_lt_base h, List.map_singleton, toNat_digitChar n h]

theorem digitsOf_of_le (h : 10 ≤ n) : digitsOf n = digitsOf (n / 10) ++ [n % 10] := by
  rw [digitsOf, Nat.toDigits_of_base_le (by decide) h, List.map_append, List.map_singleton,
    toNat_digitChar (n % 10) (by omega), digitsOf]

/-- More digits are appended to a number that has been gathered. -/
theorem gather_append {k : Nat} {ds : List Nat} (h : gather k ds = (m, [])) (es : List Nat) :
    gather k (ds ++ es) = gather m es := by
  induction ds generalizing k with
  | nil =>
    rw [gather, Prod.mk.injEq] at h
    rw [List.nil_append, h.1]
  | cons d ds ih =>
    rw [gather] at h
    rw [List.cons_append, gather]
    split_ifs at h ⊢ with hlt
    · exact ih h
    · exact absurd (Prod.mk.inj h).2 (List.cons_ne_nil _ _)

/-- A number of sixty-four bits is gathered from its digits. -/
theorem gather_digitsOf (h : n < bound) : gather 0 (digitsOf n) = (n, []) := by
  induction n using Nat.strongRecOn with
  | ind n ih =>
    -- The last digit is gathered behind the others, which are those of a tenth.
    rcases Nat.lt_or_ge n 10 with hn | hn
    · rw [digitsOf_of_lt hn, gather, Nat.zero_mul, Nat.zero_add, if_pos h, gather]
    · rw [digitsOf_of_le hn, gather_append (ih (n / 10) (by omega) (by omega)), gather,
        Nat.div_add_mod', if_pos h, gather]

/-- Only the number zero starts with one. -/
theorem exists_cons_digitsOf (hn : 0 < n) : ∃ d ds, digitsOf n = d :: ds ∧ d ≠ 0 := by
  induction n using Nat.strongRecOn with
  | ind n ih =>
    rcases Nat.lt_or_ge n 10 with hlt | hge
    · exact ⟨n, [], digitsOf_of_lt hlt, by omega⟩
    · obtain ⟨d, ds, hds, hd⟩ := ih (n / 10) (by omega) (by omega)
      exact ⟨d, ds ++ [n % 10], by rw [digitsOf_of_le hge, hds, List.cons_append], hd⟩

theorem withFraction_of_endNumber (l : Literal) (h : rest.EndNumber) :
    withFraction l rest = (.number l.number?, rest) := by
  rcases rest with _ | ⟨_ | c, rest⟩
  · rfl
  · rfl
  · obtain ⟨-, hpoint, he, hE⟩ := h
    have hfraction : withFraction l (some c :: rest) = withExponent l (some c :: rest) := by
      rw [withFraction]
      simpa using hpoint
    rw [hfraction, withExponent.eq_def]
    exact if_neg (not_or.2 ⟨he, hE⟩)

/-- The integer with the digits of a number and a sign. -/
theorem number?_digitsOf {negative : Bool} (h : n < bound)
    (hneg : negative = true → 0 < n ∧ n ≤ 2 ^ 63) :
    number? ⟨negative, digitsOf n, none, none⟩
      = some (.integer (if negative then -(n : Int) else n)) := by
  have hsign : (!negative) = true ∨ 0 < n ∧ n ≤ Nat.pow 2 63 := by
    cases negative with
    | true => exact .inr (hneg rfl)
    | false => exact .inl rfl
  rw [number?]
  simp only [gather_digitsOf h]
  exact if_pos ⟨rfl, rfl, rfl, hsign⟩

/-- An integer of sixty-four bits is read from its digits behind its sign. -/
theorem scan_toDigits (negative : Bool) (h : n < bound)
    (hneg : negative = true → 0 < n ∧ n ≤ 2 ^ 63) (hrest : rest.EndNumber) :
    scan negative ((Nat.toDigits 10 n).map some ++ rest)
      = (.number (some (.integer (if negative then -(n : Int) else n))), rest) := by
  rw [scan, digits_toDigits n hrest, ← number?_digitsOf h hneg]
  rcases Nat.eq_zero_or_pos n with rfl | hpos
  · exact withFraction_of_endNumber _ hrest
  · -- What is excluded is a zero before other digits.
    obtain ⟨d, ds, hds, hd⟩ := exists_cons_digitsOf hpos
    rw [hds]
    match d, hd with
    | d + 1, _ => exact withFraction_of_endNumber _ hrest

end Literal

/-! ## Integers as values -/

namespace Json

theorem write_ofNat (n : Nat) : (number (.integer n)).write = Nat.toDigits 10 n := by
  change (String.ofList (Nat.toDigits 10 n)).toList = _
  rw [String.toList_ofList]

theorem write_negSucc (n : Nat) :
    (number (.integer (Int.negSucc n))).write = '-' :: Nat.toDigits 10 (n + 1) := by
  change ("-" ++ String.ofList (Nat.toDigits 10 (n + 1))).toList = _
  rw [String.toList_append, String.toList_ofList (l := Nat.toDigits 10 (n + 1))]
  rfl

theorem exists_cons_toDigits (n : Nat) :
    ∃ c cs, Nat.toDigits 10 n = c :: cs ∧ '0' ≤ c ∧ c ≤ '9' := by
  obtain ⟨c, cs, hcs⟩ := List.exists_cons_of_ne_nil (Nat.toDigits_ne_nil (b := 10) (n := n))
  have hdigit : c.isDigit = true :=
    Nat.isDigit_of_mem_toDigits (b := 10) (n := n) (by decide) (by decide)
      (hcs ▸ List.mem_cons_self)
  rw [Char.isDigit, Bool.and_eq_true, decide_eq_true_eq, decide_eq_true_eq] at hdigit
  exact ⟨c, cs, hcs, hdigit⟩

/-- The text of an integer starts with a digit or with a sign. -/
theorem exists_cons_write_integer (n : Int) :
    ∃ c cs, (number (.integer n)).write = c :: cs ∧ (c = '-' ∨ '0' ≤ c ∧ c ≤ '9') := by
  cases n with
  | ofNat n =>
    obtain ⟨c, cs, hcs, hc⟩ := exists_cons_toDigits n
    exact ⟨c, cs, (write_ofNat n).trans hcs, .inr hc⟩
  | negSucc n => exact ⟨_, _, write_negSucc n, .inl rfl⟩

end Json

/-- A digit is neither white space nor anything else that a document may start with. -/
theorem Doc.scan_digit {fuel : Nat} {c : Char} (hc : '0' ≤ c ∧ c ≤ '9') (rest : Units) :
    Doc.scan (fuel + 1) (some c :: rest) = Literal.scan false (some c :: rest) := by
  have hne {d : Char} (hd : ¬ ('0' ≤ d ∧ d ≤ '9')) : c ≠ d := fun h => hd (h ▸ hc)
  rw [Doc.scan, Units.skipBlank, if_neg]
  · simp [hc.1, hc.2, hne (d := '\x7b') (by decide), hne (d := '[') (by decide),
      hne (d := '"') (by decide), hne (d := '-') (by decide)]
  · simp only [not_or]
    exact ⟨hne (by decide), hne (by decide), hne (by decide), hne (by decide)⟩

/-- An integer of sixty-four bits is read as it was written. -/
theorem Doc.scan_number {fuel : Nat} {n : Number} {rest : Units} (hn : n.IsWord)
    (hrest : rest.EndNumber) :
    Doc.scan (fuel + 1) ((Json.number n).write.map some ++ rest) = (.number (some n), rest) := by
  match n, hn with
  | .integer (.ofNat n), ⟨_, hlt⟩ =>
    have hlt : n < Literal.bound := Int.ofNat_lt.1 hlt
    have hread := Literal.scan_toDigits false hlt (by simp) hrest
    obtain ⟨c, cs, hcs, hc⟩ := Json.exists_cons_toDigits n
    change Doc.scan (fuel + 1) ((Json.number (.integer (n : Int))).write.map some ++ rest) = _
    rw [Json.write_ofNat]
    rw [hcs, List.map_cons, List.cons_append] at hread ⊢
    exact (scan_digit hc _).trans hread
  | .integer (.negSucc n), ⟨hge, _⟩ =>
    have hle : n + 1 ≤ 2 ^ 63 := by omega
    have hread := Literal.scan_toDigits true (n := n + 1)
      (Nat.lt_of_le_of_lt hle (by decide)) (fun _ => ⟨by omega, hle⟩) hrest
    rw [Json.write_negSucc, List.map_cons, List.cons_append, Doc.scan, Units.skipBlank,
      if_neg (by decide)]
    exact hread

end ChainRelay
