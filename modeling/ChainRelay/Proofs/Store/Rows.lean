import ChainRelay.Store.Basic
import Mathlib.Tactic.Common

/-!
# Rows as a map

The rows of a store are a finite map from heights to what has become of them,
kept as an ascending list. Looking a height up after `put` tells the new status
for the height itself and the old one for every other height. Every operation
keeps the rows ascending (`Store.Ordered`), so each height has at most one row,
and the two lists of heights that are offered again hold, in ascending order,
exactly the heights with such a status (`mem_unfinished`, `mem_failed`).
-/

namespace ChainRelay

namespace StatusRows

variable {rows : StatusRows} {height other : UInt64} {status : BlockStatus}

/-- A height has the status that was put for it. -/
theorem lookup_put_self (height : UInt64) (status : BlockStatus) (rows : StatusRows) :
    (put height status rows).lookup height = some status := by
  induction rows with
  | nil => simp [put]
  | cons row rows ih =>
    rw [put]
    split_ifs with hlt heq
    · exact List.lookup_cons_self
    · exact List.lookup_cons_self
    · rw [List.lookup_cons, beq_false_of_ne heq]
      exact ih

/-- What is put for a height leaves other heights alone. -/
theorem lookup_put_of_ne (status : BlockStatus) (rows : StatusRows) (h : other ≠ height) :
    (put height status rows).lookup other = rows.lookup other := by
  have hne : (other == height) = false := beq_false_of_ne h
  induction rows with
  | nil => simp [put, List.lookup_cons, hne]
  | cons row rows ih =>
    rw [put]
    split_ifs with hlt heq
    · rw [List.lookup_cons, hne]
    · rw [List.lookup_cons, List.lookup_cons, hne, ← heq, hne]
    · rw [List.lookup_cons, List.lookup_cons, ih]

/-- The rows ascend, so each height has at most one. -/
def Ascending (rows : StatusRows) : Prop := rows.Pairwise fun a b => a.1 < b.1

instance : Decidable rows.Ascending := inferInstanceAs (Decidable (rows.Pairwise _))

theorem mem_put {row : UInt64 × BlockStatus} (h : row ∈ put height status rows) :
    row = (height, status) ∨ row ∈ rows := by
  induction rows with
  | nil => exact .inl (List.mem_singleton.1 h)
  | cons first rows ih =>
    rw [put] at h
    split_ifs at h with hlt heq
    · exact List.mem_cons.1 h
    · exact (List.mem_cons.1 h).imp_right (List.mem_cons_of_mem _)
    · rcases List.mem_cons.1 h with rfl | h
      · exact .inr List.mem_cons_self
      · exact (ih h).imp_right (List.mem_cons_of_mem _)

theorem Ascending.put (h : rows.Ascending) : (put height status rows).Ascending := by
  induction rows with
  | nil => exact List.pairwise_singleton _ _
  | cons first rows ih =>
    have hfirst := List.pairwise_cons.1 h
    rw [StatusRows.put]
    split_ifs with hlt heq
    · refine List.pairwise_cons.2 ⟨fun row hrow => ?_, h⟩
      rcases List.mem_cons.1 hrow with rfl | hrow
      · exact hlt
      · exact UInt64.lt_trans hlt (hfirst.1 row hrow)
    · exact List.pairwise_cons.2 ⟨heq ▸ hfirst.1, hfirst.2⟩
    · refine List.pairwise_cons.2 ⟨fun row hrow => ?_, ih hfirst.2⟩
      rcases mem_put hrow with rfl | hrow
      · exact UInt64.lt_of_le_of_ne (UInt64.not_lt.1 hlt) (Ne.symm heq)
      · exact hfirst.1 row hrow

/-- In ascending rows, looking a height up finds its only row. -/
theorem Ascending.mem_iff_lookup (h : rows.Ascending) :
    (height, status) ∈ rows ↔ rows.lookup height = some status := by
  induction rows with
  | nil => simp
  | cons first rows ih =>
    obtain ⟨hfirst, hrest⟩ := List.pairwise_cons.1 h
    rw [List.mem_cons, List.lookup_cons, ih hrest]
    by_cases heq : height = first.1
    · -- The first row is the one, and no later row has its height.
      have hnone : ¬ rows.lookup height = some status := fun hl =>
        UInt64.lt_irrefl _ (heq ▸ hfirst _ ((ih hrest).2 hl))
      simp [heq, Prod.ext_iff, eq_comm] at hnone ⊢
      exact fun hl => absurd hl hnone
    · simp [heq, Prod.ext_iff, beq_false_of_ne heq]

end StatusRows

namespace Store

variable {s s' : Store} {height : UInt64} {status : BlockStatus}

/-- The rows of a store ascend. -/
def Ordered (s : Store) : Prop := s.rows.Ascending

instance : Decidable s.Ordered := inferInstanceAs (Decidable s.rows.Ascending)

theorem ordered_empty : empty.Ordered := List.Pairwise.nil

/-- A status that could be kept is the one of its height; nothing else changes. -/
theorem setStatus_eq_ok_iff :
    s.setStatus height status = .ok s' ↔
      height ≤ maxHeight ∧ s' = { s with rows := StatusRows.put height status s.rows } := by
  rw [setStatus]
  split_ifs with h <;> simp [h, eq_comm]

/-- A position that could be kept is the position; nothing else changes. -/
theorem setPosition_eq_ok_iff :
    s.setPosition height = .ok s' ↔
      height ≤ maxHeight ∧ s' = { s with position := some height } := by
  rw [setPosition]
  split_ifs with h <;> simp [h, eq_comm]

theorem Ordered.setStatus (hs : s.Ordered) (h : s.setStatus height status = .ok s') :
    s'.Ordered := by
  obtain ⟨_, rfl⟩ := setStatus_eq_ok_iff.1 h
  exact StatusRows.Ascending.put hs

theorem Ordered.setPosition (hs : s.Ordered) (h : s.setPosition height = .ok s') :
    s'.Ordered := by
  obtain ⟨_, rfl⟩ := setPosition_eq_ok_iff.1 h
  exact hs

theorem status?_setStatus (h : s.setStatus height status = .ok s') (other : UInt64) :
    s'.status? other = if other = height then some status else s.status? other := by
  obtain ⟨_, rfl⟩ := setStatus_eq_ok_iff.1 h
  split_ifs with heq
  · exact heq ▸ StatusRows.lookup_put_self _ _ _
  · exact StatusRows.lookup_put_of_ne _ _ heq

theorem position_setStatus (h : s.setStatus height status = .ok s') :
    s'.position = s.position := by
  obtain ⟨_, rfl⟩ := setStatus_eq_ok_iff.1 h
  rfl

/-- No row is about a height that the store would refuse. -/
def Fits (s : Store) : Prop := ∀ row ∈ s.rows, row.1 ≤ maxHeight

instance : Decidable s.Fits := inferInstanceAs (Decidable (∀ row ∈ s.rows, row.1 ≤ maxHeight))

theorem Fits.setStatus (hs : s.Fits) (h : s.setStatus height status = .ok s') : s'.Fits := by
  obtain ⟨hle, rfl⟩ := setStatus_eq_ok_iff.1 h
  intro row hrow
  rcases StatusRows.mem_put hrow with rfl | hrow
  · exact hle
  · exact hs row hrow

theorem Fits.setPosition (hs : s.Fits) (h : s.setPosition height = .ok s') : s'.Fits := by
  obtain ⟨_, rfl⟩ := setPosition_eq_ok_iff.1 h
  exact hs

/-! ## The heights that are offered again -/

/-- The heights that have a status of some kind. -/
theorem Ordered.mem_map_filter (hs : s.Ordered) (p : UInt64 × BlockStatus → Bool) :
    height ∈ (s.rows.filter p).map Prod.fst ↔
      ∃ status, s.status? height = some status ∧ p (height, status) := by
  rw [List.mem_map]
  constructor
  · rintro ⟨⟨_, status⟩, hrow, rfl⟩
    obtain ⟨hrow, hp⟩ := List.mem_filter.1 hrow
    exact ⟨status, hs.mem_iff_lookup.1 hrow, hp⟩
  · rintro ⟨status, hrow, hp⟩
    exact ⟨(height, status), List.mem_filter.2 ⟨hs.mem_iff_lookup.2 hrow, hp⟩, rfl⟩

/-- The unfinished heights are those with a row that does not say that they have
    been observed. -/
theorem Ordered.mem_unfinished (hs : s.Ordered) :
    height ∈ s.unfinished ↔ ∃ status, s.status? height = some status ∧ status ≠ .observed := by
  rw [unfinished, hs.mem_map_filter]
  simp only [decide_eq_true_eq]

/-- The failed heights are those whose rows say so. -/
theorem Ordered.mem_failed (hs : s.Ordered) :
    height ∈ s.failed ↔ s.status? height = some .failed := by
  rw [failed, hs.mem_map_filter]
  simp only [decide_eq_true_eq, exists_eq_right]

theorem Ordered.pairwise_filter (hs : s.Ordered) (p : UInt64 × BlockStatus → Bool) :
    ((s.rows.filter p).map Prod.fst).Pairwise (· < ·) :=
  List.pairwise_map.2 (List.Pairwise.filter p hs)

theorem Ordered.pairwise_unfinished (hs : s.Ordered) : s.unfinished.Pairwise (· < ·) :=
  hs.pairwise_filter _

theorem Ordered.pairwise_failed (hs : s.Ordered) : s.failed.Pairwise (· < ·) :=
  hs.pairwise_filter _

end Store

end ChainRelay
