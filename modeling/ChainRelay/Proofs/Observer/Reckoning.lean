import ChainRelay.Block.Basic
import ChainRelay.Store.Basic
import Mathlib.Data.List.Basic
import Mathlib.Tactic.Common

/-!
# Reckonings of heights

A reckoning relates, for every height, what the store says of it to how often its
block was handed on. The heights in some scope are either still pending, each once,
or settled: observed and handed on once, or failed and never handed on. Heights out
of scope are left alone. Of the pending heights, the only one that the store may
already call observed is the one whose block is just being handed on.

Each step of a worker keeps the reckoning (`Reckoning.fail` and the lemmas behind it), so
it can be kept from the first height to the last, through any number of rounds.
-/

namespace ChainRelay

/-- How often the block of a height is among some blocks. -/
def forwardings (blocks : List Block) (height : UInt64) : Nat :=
  (blocks.map Block.height).count height

/-- What has become of the heights in a scope: some are pending, and one of those may
    be just forwarded. -/
structure Reckoning (scope : List UInt64) (base : UInt64 → Option BlockStatus)
    (pending : List UInt64) (forwarded : Option UInt64) (status : UInt64 → Option BlockStatus)
    (blocks : List Block) : Prop where
  nodup : pending.Nodup
  subset : ∀ height ∈ pending, height ∈ scope
  unforwarded : ∀ height ∈ pending, forwardings blocks height = 0
  observed : ∀ height ∈ pending, status height = some .observed ↔ forwarded = some height
  settled : ∀ height ∈ scope, height ∉ pending →
    (status height = some .observed ∧ forwardings blocks height = 1) ∨
      (status height = some .failed ∧ forwardings blocks height = 0)
  others : ∀ height ∉ scope, status height = base height ∧ forwardings blocks height = 0

namespace Reckoning

variable {scope pending rest : List UInt64} {base status status' : UInt64 → Option BlockStatus}
  {forwarded : Option UInt64} {blocks : List Block} {height : UInt64}

/-- A pending height is marked as handed out. -/
theorem handOut (h : Reckoning scope base pending forwarded status blocks)
    (hmem : height ∈ pending) (hforwarded : forwarded ≠ some height)
    (hself : status' height = some .handedOut)
    (hother : ∀ other, other ≠ height → status' other = status other) :
    Reckoning scope base pending forwarded status' blocks where
  nodup := h.nodup
  subset := h.subset
  unforwarded := h.unforwarded
  observed other hpending := by
    by_cases heq : other = height
    · rw [heq, hself]
      exact iff_of_false (by simp) hforwarded
    · rw [hother other heq]
      exact h.observed other hpending
  settled other hscope hpending := by
    rw [hother other fun heq => hpending (heq ▸ hmem)]
    exact h.settled other hscope hpending
  others other hscope := by
    rw [hother other fun heq => hscope (heq ▸ h.subset height hmem)]
    exact h.others other hscope

/-- The first of the pending heights is noted as observed. -/
theorem observe (h : Reckoning scope base (height :: rest) none status blocks)
    (hself : status' height = some .observed)
    (hother : ∀ other, other ≠ height → status' other = status other) :
    Reckoning scope base (height :: rest) (some height) status' blocks where
  nodup := h.nodup
  subset := h.subset
  unforwarded := h.unforwarded
  observed other hpending := by
    by_cases heq : other = height
    · rw [heq]
      exact iff_of_true hself rfl
    · rw [hother other heq]
      refine (h.observed other hpending).trans (iff_of_false nofun fun hsome => heq ?_)
      exact (Option.some.inj hsome).symm
  settled other hscope hpending := by
    rw [hother other fun heq => hpending (heq ▸ List.mem_cons_self)]
    exact h.settled other hscope hpending
  others other hscope := by
    rw [hother other fun heq => hscope (heq ▸ h.subset height List.mem_cons_self)]
    exact h.others other hscope

/-- The first of the pending heights is noted as failed, and so is settled. -/
theorem fail (h : Reckoning scope base (height :: rest) none status blocks)
    (hself : status' height = some .failed)
    (hother : ∀ other, other ≠ height → status' other = status other) :
    Reckoning scope base rest none status' blocks where
  nodup := h.nodup.of_cons
  subset other hpending := h.subset other (List.mem_cons_of_mem _ hpending)
  unforwarded other hpending := h.unforwarded other (List.mem_cons_of_mem _ hpending)
  observed other hpending := by
    rw [hother other fun heq => (List.nodup_cons.1 h.nodup).1 (heq ▸ hpending)]
    exact h.observed other (List.mem_cons_of_mem _ hpending)
  settled other hscope hpending := by
    by_cases heq : other = height
    · rw [heq]
      exact .inr ⟨hself, h.unforwarded height List.mem_cons_self⟩
    · rw [hother other heq]
      refine h.settled other hscope fun hmem => ?_
      exact (List.mem_cons.1 hmem).elim heq hpending
  others other hscope := by
    rw [hother other fun heq => hscope (heq ▸ h.subset height List.mem_cons_self)]
    exact h.others other hscope

theorem forwardings_append_singleton (block : Block) (height : UInt64) :
    forwardings (blocks ++ [block]) height =
      forwardings blocks height + if block.height = height then 1 else 0 := by
  rw [forwardings, List.map_append, List.count_append, List.map_singleton, List.count_singleton]
  simp only [beq_iff_eq, forwardings]

/-- The block of the first pending height is handed on, and so that is settled. -/
theorem forward {block : Block}
    (h : Reckoning scope base (block.height :: rest) (some block.height) status blocks) :
    Reckoning scope base rest none status (blocks ++ [block]) := by
  obtain ⟨hnot, hrest⟩ := List.nodup_cons.1 h.nodup
  have hother : ∀ other, other ≠ block.height →
      forwardings (blocks ++ [block]) other = forwardings blocks other := by
    intro other hne
    rw [forwardings_append_singleton, if_neg hne.symm, Nat.add_zero]
  exact {
    nodup := hrest
    subset := fun other hmem => h.subset other (List.mem_cons_of_mem _ hmem)
    unforwarded := fun other hmem => by
      rw [hother other fun heq => hnot (heq ▸ hmem)]
      exact h.unforwarded other (List.mem_cons_of_mem _ hmem)
    observed := fun other hmem => by
      refine (h.observed other (List.mem_cons_of_mem _ hmem)).trans (iff_of_false ?_ nofun)
      exact fun hsome => hnot (Option.some.inj hsome ▸ hmem)
    settled := fun other hscope hmem => by
      by_cases heq : other = block.height
      · refine .inl ⟨heq ▸ (h.observed _ List.mem_cons_self).2 rfl, ?_⟩
        rw [heq, forwardings_append_singleton, if_pos rfl, h.unforwarded _ List.mem_cons_self]
      · rw [hother other heq]
        exact h.settled other hscope fun hcons => (List.mem_cons.1 hcons).elim heq hmem
    others := fun other hscope => by
      rw [hother other fun heq => hscope (heq ▸ h.subset _ List.mem_cons_self)]
      exact h.others other hscope }

/-- When nothing is pending, heights that have failed may become so again. -/
theorem reoffer (h : Reckoning scope base [] none status blocks) {failed : List UInt64}
    (hnodup : failed.Nodup) (hfailed : ∀ height ∈ failed, status height = some .failed)
    (hbase : ∀ height, base height = some .failed → height ∈ scope) :
    Reckoning scope base failed none status blocks := by
  have hscope : ∀ height ∈ failed, height ∈ scope := by
    -- Out of scope nothing has changed, so what failed there had failed before.
    intro height hmem
    by_contra hnot
    exact hnot (hbase height ((h.others height hnot).1 ▸ hfailed height hmem))
  exact {
    nodup := hnodup
    subset := hscope
    unforwarded := fun height hmem => by
      -- With nothing pending the height was settled, and not as observed.
      have hstatus := hfailed height hmem
      obtain ⟨hobserved, -⟩ | ⟨-, hnone⟩ := h.settled height (hscope height hmem) List.not_mem_nil
      · rw [hstatus] at hobserved
        exact absurd hobserved (by simp)
      · exact hnone
    observed := fun height hmem => by
      rw [hfailed height hmem]
      simp
    settled := fun height hmem _ => h.settled height hmem List.not_mem_nil
    others := h.others }

end Reckoning

end ChainRelay
