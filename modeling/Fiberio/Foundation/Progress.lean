import Mathlib.Algebra.BigOperators.Group.Finset.Basic
import Mathlib.Algebra.Order.BigOperators.Group.Finset
import Fiberio.Foundation.Machine

/-!
Owns the argument that a system can come to a goal: while the goal is not
reached some admitted step makes the state simpler. For a system of finitely
many components it is enough that the step makes one of them simpler and none
of them worse.

Does not own fairness: the rule finds a run, it does not say that every run
gets there.
-/

namespace Fiberio.Foundation.Machine

universe u v w

variable {State : Type u} {Action : Type v} {machine : Machine State Action}
  {allowed wider : State → Action → Prop} {Goal Known : State → Prop} {state : State}

/-- A run of admitted steps stays inside what they keep. -/
theorem CanReach.keeping (reach : machine.CanReach allowed state Goal) (known : Known state)
    (kept : ∀ before action after, Known before → allowed before action →
      machine.step before action = some after → Known after) :
    machine.CanReach allowed state fun final => Goal final ∧ Known final := by
  obtain ⟨actions, final, run, along, reached⟩ := reach
  refine ⟨actions, final, run, along, reached, ?_⟩
  induction actions generalizing state with
  | nil =>
      cases run
      exact known
  | cons action rest inductionHypothesis =>
      obtain ⟨after, stepped, tailRun⟩ := exec_cons_some run
      exact inductionHypothesis (kept state action after known along.1 stepped) tailRun
        (along.2 after stepped)

/-- Admitting more steps reaches at least as much. -/
theorem CanReach.mono (reach : machine.CanReach allowed state Goal)
    (weaker : ∀ state action, allowed state action → wider state action) :
    machine.CanReach wider state Goal := by
  obtain ⟨actions, final, run, along, reached⟩ := reach
  induction actions generalizing state with
  | nil => exact ⟨[], final, run, trivial, reached⟩
  | cons action rest inductionHypothesis =>
      obtain ⟨after, stepped, tailRun⟩ := exec_cons_some run
      exact .step (weaker state action along.1) stepped
        (inductionHypothesis tailRun (along.2 after stepped))

theorem CanReach.trans {Middle : State → Prop} (reach : machine.CanReach allowed state Middle)
    (onward : ∀ middle, Middle middle → machine.CanReach allowed middle Goal) :
    machine.CanReach allowed state Goal := by
  obtain ⟨actions, middle, run, along, reached⟩ := reach
  exact .run run along (onward middle reached)

/-- The measure rule. -/
theorem canReach_of_measure (measure : State → Nat) (known : Known state)
    (simpler : ∀ state, Known state → Goal state ∨ ∃ action after, allowed state action ∧
      machine.step state action = some after ∧ Known after ∧ measure after < measure state) :
    machine.CanReach allowed state Goal := by
  -- The induction is on a bound of the measure.
  obtain ⟨bound, below⟩ : ∃ bound, measure state < bound := ⟨_, Nat.lt_succ_self _⟩
  induction bound generalizing state with
  | zero => exact absurd below (Nat.not_lt_zero _)
  | succ bound inductionHypothesis =>
      rcases simpler state known with reached | ⟨action, after, admitted, stepped, kept, less⟩
      · exact .now reached
      · exact .step admitted stepped (inductionHypothesis kept (by omega))

/-- One component comes closer to rest and none moves away from it. -/
structure Closer {Index : Type w} (rank : State → Index → Nat) (before after : State) : Prop where
  none : ∀ index, rank after index ≤ rank before index
  some : ∃ index, rank after index < rank before index

/-- The measure rule for a system of finitely many components. -/
theorem canReach_of_closer {Index : Type w} [Fintype Index] (rank : State → Index → Nat)
    (known : Known state)
    (simpler : ∀ state, Known state → Goal state ∨ ∃ action after, allowed state action ∧
      machine.step state action = some after ∧ Known after ∧ Closer rank state after) :
    machine.CanReach allowed state Goal := by
  apply canReach_of_measure (fun state => ∑ index, rank state index) known
  intro state known
  rcases simpler state known with reached | ⟨action, after, admitted, stepped, kept, closer⟩
  · exact .inl reached
  · obtain ⟨index, less⟩ := closer.some
    have smaller : ∑ index, rank after index < ∑ index, rank state index :=
      Finset.sum_lt_sum (fun other _ => closer.none other) ⟨index, Finset.mem_univ index, less⟩
    exact .inr ⟨action, after, admitted, stepped, kept, smaller⟩

end Fiberio.Foundation.Machine
