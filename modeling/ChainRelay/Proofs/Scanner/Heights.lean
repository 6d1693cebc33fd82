import Mathlib.Tactic.Common

/-!
# The heights behind a position

A scan goes from a position to a head one height at a time. `heights position head`
are the heights on this way, in ascending order. The next of them is always
`position + 1` (`heights_eq_cons`), which is no greater than the head and so never
wraps around.
-/

namespace ChainRelay

variable {position head height : UInt64}

theorem toNat_succ (h : position < head) : (position + 1).toNat = position.toNat + 1 := by
  have hlt := UInt64.lt_iff_toNat_lt.1 h
  have hhead := head.toNat_lt
  rw [UInt64.toNat_add, UInt64.toNat_one, Nat.mod_eq_of_lt (by omega)]

theorem succ_le (h : position < head) : position + 1 ≤ head := by
  rw [UInt64.le_iff_toNat_le, toNat_succ h]
  exact UInt64.lt_iff_toNat_lt.1 h

theorem lt_succ (h : position < head) : position < position + 1 := by
  rw [UInt64.lt_iff_toNat_lt, toNat_succ h]
  exact Nat.lt_succ_self _

/-- On the way to a head, there is no height between a position and the next. -/
theorem le_succ_iff (h : position < head) :
    height ≤ position + 1 ↔ height ≤ position ∨ height = position + 1 := by
  simp only [UInt64.le_iff_toNat_le, ← UInt64.toNat_inj, toNat_succ h]
  omega

/-- The heights behind a position up to a head. -/
def heights (position head : UInt64) : List UInt64 :=
  (List.range' (position.toNat + 1) (head.toNat - position.toNat)).map UInt64.ofNat

theorem heights_eq_nil (h : head ≤ position) : heights position head = [] := by
  rw [heights, Nat.sub_eq_zero_of_le (UInt64.le_iff_toNat_le.1 h)]
  rfl

/-- The first of the heights behind a position is the next one. -/
theorem heights_eq_cons (h : position < head) :
    heights position head = (position + 1) :: heights (position + 1) head := by
  have hlt := UInt64.lt_iff_toNat_lt.1 h
  obtain ⟨k, hk⟩ := Nat.exists_eq_add_of_lt hlt
  have hfirst : UInt64.ofNat (position.toNat + 1) = position + 1 := by
    rw [← toNat_succ h, UInt64.ofNat_toNat]
  rw [heights, heights, toNat_succ h, show head.toNat - position.toNat = k + 1 by omega,
    show head.toNat - (position.toNat + 1) = k by omega, List.range'_succ, List.map_cons, hfirst]

/-- A way to a head leads through each position on it. -/
theorem heights_append {middle : UInt64} (hle : position ≤ middle) (hle' : middle ≤ head) :
    heights position middle ++ heights middle head = heights position head := by
  rw [UInt64.le_iff_toNat_le] at hle hle'
  rw [heights, heights, heights, ← List.map_append]
  congr 1
  have hmiddle : middle.toNat + 1 = position.toNat + 1 + (middle.toNat - position.toNat) := by omega
  rw [hmiddle, List.range'_append_1]
  congr 1
  omega

/-- The last of the heights behind a position up to the next one. -/
theorem heights_succ {first : UInt64} (hle : first ≤ position) (h : position < head) :
    heights first (position + 1) = heights first position ++ [position + 1] := by
  rw [← heights_append hle (UInt64.le_of_lt (lt_succ h)), heights_eq_cons (lt_succ h),
    heights_eq_nil (UInt64.le_refl _)]

theorem mem_heights : height ∈ heights position head ↔ position < height ∧ height ≤ head := by
  have hhead : head.toNat < UInt64.size := head.toNat_lt
  simp only [heights, List.mem_map, List.mem_range'_1, UInt64.lt_iff_toNat_lt,
    UInt64.le_iff_toNat_le]
  constructor
  · rintro ⟨k, hk, rfl⟩
    rw [UInt64.toNat_ofNat_of_lt' (by omega)]
    omega
  · intro hk
    exact ⟨height.toNat, by omega, UInt64.ofNat_toNat⟩

theorem pairwise_heights : (heights position head).Pairwise (· < ·) := by
  have hhead : head.toNat < UInt64.size := head.toNat_lt
  refine List.pairwise_map.2 (List.Pairwise.imp_of_mem ?_ List.pairwise_lt_range')
  intro a b ha hb hab
  rw [List.mem_range'_1] at ha hb
  rwa [UInt64.lt_iff_toNat_lt, UInt64.toNat_ofNat_of_lt' (by omega),
    UInt64.toNat_ofNat_of_lt' (by omega)]

end ChainRelay
