import Fiberio.Foundation.Machine

/-!
Owns what can be read off the log of a system that writes down what happens to
a resource: that some event uses the resource after an event that ends it. The
run rule says which steps of a run are to blame.

Does not own any particular log.
-/

namespace Fiberio.Foundation

universe u v w

/-! ## Use after the end -/

section Log

variable {Event : Type u} (ends uses : Event → Bool)

/-- Some event uses the resource after one that ended it. -/
def usedAfter : List Event → Bool
  | [] => false
  | event :: rest => (ends event && rest.any uses) || usedAfter rest

theorem usedAfter_append (first second : List Event) :
    usedAfter ends uses (first ++ second) =
      (usedAfter ends uses first || (first.any ends && second.any uses) ||
        usedAfter ends uses second) := by
  induction first with
  | nil => simp [usedAfter]
  | cons event rest inductionHypothesis =>
      simp only [List.cons_append, usedAfter, inductionHypothesis, List.any_append, List.any_cons]
      cases ends event <;> cases rest.any uses <;> cases usedAfter ends uses rest <;>
        cases rest.any ends <;> cases second.any uses <;> rfl

variable {ends uses}

/-- Events none of which ends the resource. -/
theorem usedAfter_of_unended {events : List Event} (unended : events.any ends = false) :
    usedAfter ends uses events = false := by
  induction events with
  | nil => rfl
  | cons event rest inductionHypothesis =>
      rw [List.any_cons, Bool.or_eq_false_iff] at unended
      rw [usedAfter, unended.1, inductionHypothesis unended.2]
      rfl

/-- What is not used after the end is not used so in particular. -/
theorem usedAfter_mono {special : Event → Bool} {events : List Event}
    (isUse : ∀ event, special event = true → uses event = true)
    (unused : usedAfter ends uses events = false) : usedAfter ends special events = false := by
  induction events with
  | nil => rfl
  | cons event rest inductionHypothesis =>
      rw [usedAfter, Bool.or_eq_false_iff] at unused ⊢
      refine ⟨?_, inductionHypothesis unused.2⟩
      cases ended : ends event with
      | false => rfl
      | true =>
          have unusedRest : rest.any uses = false := by simpa [ended] using unused.1
          rw [Bool.true_and, List.any_eq_false]
          intro later member used
          exact List.any_eq_false.mp unusedRest later member (isUse later used)

end Log

/-! ## The steps of a run -/

namespace Machine

variable {State : Type u} {Action : Type v} {Event : Type w} {machine : Machine State Action}

/-- What one step writes down. `ended` tells whether the resource has ended, and
`Live` which steps leave an ended resource alone. -/
structure Writes (log : State → List Event) (ends uses : Event → Bool) (ended : State → Bool)
    (Live : State → Action → Prop) (before : State) (action : Action) (after : State)
    (events : List Event) : Prop where
  appended : log after = log before ++ events
  ordered : usedAfter ends uses events = false
  ended_eq : ended after = (ended before || events.any ends)
  used : ended before = true → (events.any uses = false ↔ Live before action)
  free : ended before = false → Live before action

variable {log : State → List Event} {ends uses : Event → Bool} {ended : State → Bool}
  {Live : State → Action → Prop} {Known : State → Prop}

/-- One step uses the ended resource exactly when it is not live. -/
theorem Writes.used_iff {before after : State} {action : Action} {events : List Event}
    (writes : Writes log ends uses ended Live before action after events)
    (known : ended before = (log before).any ends) :
    usedAfter ends uses (log after) = false ↔
      usedAfter ends uses (log before) = false ∧ Live before action := by
  rw [writes.appended, usedAfter_append, writes.ordered, Bool.or_false, Bool.or_eq_false_iff,
    ← known]
  refine and_congr_right fun _ => ?_
  cases isEnded : ended before with
  | false => exact ⟨fun _ => writes.free isEnded, fun _ => rfl⟩
  | true =>
      rw [Bool.true_and]
      exact writes.used isEnded

/-- The run rule: the resource is not used after its end exactly when every
step of the run is live. -/
theorem usedAfter_exec_iff {state final : State} {actions : List Action}
    (run : machine.exec state actions = some final) (known : Known state)
    (mirrors : ended state = (log state).any ends)
    (steps : ∀ before action after, Known before → machine.step before action = some after →
      Known after ∧ ∃ events, Writes log ends uses ended Live before action after events) :
    usedAfter ends uses (log final) = false ↔
      usedAfter ends uses (log state) = false ∧ machine.Along Live state actions := by
  induction actions generalizing state with
  | nil =>
      cases run
      exact (and_iff_left trivial).symm
  | cons action rest inductionHypothesis =>
      obtain ⟨after, stepped, tailRun⟩ := exec_cons_some run
      obtain ⟨knownAfter, events, writes⟩ := steps state action after known stepped
      have mirrorsAfter : ended after = (log after).any ends := by
        rw [writes.ended_eq, writes.appended, List.any_append, mirrors]
      rw [inductionHypothesis tailRun knownAfter mirrorsAfter, writes.used_iff mirrors, and_assoc]
      refine and_congr_right fun _ => and_congr_right fun _ => ?_
      constructor
      · intro along other stepped'
        cases stepped.symm.trans stepped'
        exact along
      · exact fun along => along after stepped

end Machine

end Fiberio.Foundation
