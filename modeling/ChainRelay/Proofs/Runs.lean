import Mathlib.Logic.Relation
import Mathlib.Tactic.Common

/-!
# Runs

A system that goes on in any order that its steps allow is a relation between its
states, and a run of it is a chain of steps. Two principles are proven once here and
instantiated for each system:

* `keeps_run`: what every step keeps holds at the end of a run;
* `reaches_end`: if a run leads from every good state that is not an end to a good
  state with less work left, then an end can be reached.
-/

namespace ChainRelay

open Relation (ReflTransGen)

variable {σ : Type} {step : σ → σ → Prop} {Good End : σ → Prop} {s s' : σ}

theorem keeps_run (hstep : ∀ s s', Good s → step s s' → Good s') (h : Good s)
    (hrun : ReflTransGen step s s') : Good s' := by
  induction hrun with
  | refl => exact h
  | tail _ hlast ih => exact hstep _ _ ih hlast

theorem reaches_end (work : σ → Nat)
    (hless : ∀ s, Good s → ¬ End s →
      ∃ s', ReflTransGen step s s' ∧ Good s' ∧ work s' < work s)
    (h : Good s) : ∃ s', ReflTransGen step s s' ∧ Good s' ∧ End s' := by
  -- The induction is on the work that is left, which need not shrink by one at a time.
  obtain ⟨left, hleft⟩ : ∃ left, work s = left := ⟨_, rfl⟩
  induction left using Nat.strongRecOn generalizing s with
  | ind left ih =>
    by_cases hend : End s
    · exact ⟨s, .refl, h, hend⟩
    · obtain ⟨next, hnext, hgood, hlt⟩ := hless s h hend
      obtain ⟨last, hlast, hresult⟩ := ih (work next) (hleft ▸ hlt) hgood rfl
      exact ⟨last, hnext.trans hlast, hresult⟩

end ChainRelay
