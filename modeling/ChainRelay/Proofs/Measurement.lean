import ChainRelay.Measurement
import Mathlib.Data.List.Induction
import Mathlib.Tactic.Common

/-!
# What is shown of counts

The series of what has happened show how often it has happened: `shown_scanned` and
`shown_offeredAgain` say so of the heights that were scanned and of those that were
offered again. The failures to talk to THORChain have one series for each label, and
together these show how often it has failed (`clientErrors_eq_countP`).
-/

namespace ChainRelay.Measurement

variable {m : Measurement} {log : List Measurement} {series : String}

/-- The value that is shown of a series. -/
def shown (series : String) (log : List Measurement) : Nat :=
  ((summary log).lookup series).getD 0

/-- A measurement updates the value of its own series only. -/
theorem lookup_addTo (m : Measurement) (s : Summary) (series : String) :
    (m.addTo s).lookup series =
      if series = m.series then some (m.update ((s.lookup series).getD 0))
      else s.lookup series := by
  induction s with
  | nil =>
    by_cases h : series = m.series
    · simp [addTo, h]
    · simp [addTo, List.lookup_cons, h, beq_false_of_ne h]
  | cons row s ih =>
    obtain ⟨name, value⟩ := row
    rw [addTo]
    by_cases hname : name = m.series
    · subst hname
      by_cases h : series = m.series
      · simp [h]
      · simp [List.lookup_cons, h, beq_false_of_ne h]
    · rw [if_neg hname, List.lookup_cons, List.lookup_cons, ih]
      by_cases h : series = name
      · simp [h, hname]
      · simp [beq_false_of_ne h]

theorem shown_append_singleton (log : List Measurement) (m : Measurement) (series : String) :
    shown series (log ++ [m]) =
      if series = m.series then m.update (shown series log) else shown series log := by
  rw [shown, summary, List.foldl_append, List.foldl_cons, List.foldl_nil, lookup_addTo]
  split_ifs <;> rfl

/-- A series of one measurement only, if that counts, shows how often it was made. -/
theorem shown_eq_count (hseries : ∀ x : Measurement, series = x.series ↔ x = m)
    (hupdate : ∀ count, m.update count = count + 1) : shown series log = log.count m := by
  induction log using List.reverseRecOn with
  | nil => rfl
  | append_singleton log last ih =>
    rw [shown_append_singleton, ih, List.count_append]
    by_cases h : last = m
    · rw [if_pos ((hseries last).2 h), h, hupdate, List.count_singleton_self]
    · rw [if_neg (mt (hseries last).1 h), List.count_singleton, beq_false_of_ne h]
      rfl

theorem shown_scanned : shown "total_block_scanned" log = log.count .scanned := by
  refine shown_eq_count (fun x => ?_) fun _ => rfl
  cases x with
  | scanTrouble t | bridgeTrouble t => cases t <;> decide
  | observed isSuccess => cases isSuccess <;> decide
  | position => simp [series]
  | headPolled | reportBuilt | scanned | offeredAgain => decide

theorem shown_offeredAgain : shown "total_retry_blocks" log = log.count .offeredAgain := by
  refine shown_eq_count (fun x => ?_) fun _ => rfl
  cases x with
  | scanTrouble t | bridgeTrouble t => cases t <;> decide
  | observed isSuccess => cases isSuccess <;> decide
  | position => simp [series]
  | headPolled | reportBuilt | scanned | offeredAgain => decide

/-! ## Totals over labels -/

/-- The total of the series of a kind. -/
def total (isOfKind : String → Bool) : Summary → Nat
  | [] => 0
  | (name, value) :: rest => (if isOfKind name then value else 0) + total isOfKind rest

/-- A measurement that counts adds one to the totals that its series is part of, and no
    measurement changes another total. -/
theorem total_addTo (isOfKind : String → Bool)
    (hupdate : isOfKind m.series = true → ∀ count, m.update count = count + 1) (s : Summary) :
    total isOfKind (m.addTo s) = total isOfKind s + if isOfKind m.series then 1 else 0 := by
  induction s with
  | nil =>
    simp only [addTo, total, Nat.add_zero, Nat.zero_add]
    split_ifs with hkind
    · rw [hupdate hkind]
    · rfl
  | cons row s ih =>
    obtain ⟨name, value⟩ := row
    rw [addTo]
    by_cases hname : name = m.series
    · rw [if_pos hname, total, total, hname]
      split_ifs with hkind
      · rw [hupdate hkind]
        omega
      · rfl
    · rw [if_neg hname, total, total, ih, Nat.add_assoc]

/-- Whether a series counts failures to talk to THORChain, under whatever label. -/
def isClientError (series : String) : Bool :=
  "thorchain_client_error\x7b".toList.isPrefixOf series.toList

/-- How many failures to talk to THORChain are shown of a log, under all labels. -/
def clientErrors (log : List Measurement) : Nat := total isClientError (summary log)

/-- Whether a measurement is about a failure to talk to THORChain. -/
def isBridgeTrouble : Measurement → Bool
  | bridgeTrouble _ => true
  | _ => false

theorem isClientError_series (m : Measurement) : isClientError m.series = m.isBridgeTrouble := by
  cases m with
  | bridgeTrouble t =>
    simp only [series, labelled, isClientError, String.toList_append, List.append_assoc]
    simp [isBridgeTrouble]
  | _ => simp [series, labelled, isClientError, isBridgeTrouble, List.isPrefixOf_cons_cons]

/-- The series of all labels together show how often talking to THORChain has failed. -/
theorem clientErrors_eq_countP : clientErrors log = log.countP isBridgeTrouble := by
  induction log using List.reverseRecOn with
  | nil => rfl
  | append_singleton log last ih =>
    have hcounts : isClientError last.series = true → ∀ count, last.update count = count + 1 := by
      rw [isClientError_series]
      cases last <;> simp [isBridgeTrouble, update]
    rw [clientErrors, summary, List.foldl_append, List.foldl_cons, List.foldl_nil,
      total_addTo isClientError hcounts, isClientError_series, List.countP_append, ← ih,
      List.countP_singleton]
    rfl

end ChainRelay.Measurement
