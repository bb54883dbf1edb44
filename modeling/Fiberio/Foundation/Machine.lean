import Mathlib.Logic.Function.Basic
import Mathlib.Data.List.Basic

/-!
Owns guarded transition systems: a step function that answers `none` when an
action is not enabled, runs given by a list of actions, states reachable
through steps that a caller allows, and the product of a family of systems
that take turns. The invariant rule and the projection rule are the induction
principles over runs that the models use.

Does not own any particular system.
-/

namespace Fiberio.Foundation

universe u v w x

/-- A transition system with a partial step function. The nondeterminism of
the environment is carried by the action. -/
structure Machine (State : Type u) (Action : Type v) where
  Init : State → Prop
  step : State → Action → Option State

namespace Machine

variable {State : Type u} {Action : Type v} (machine : Machine State Action)

/-- States reached from an initial state through steps that `allowed`
admits. The predicate sees the state before the step. -/
inductive Reachable (allowed : State → Action → Prop) : State → Prop where
  | start {state : State} (initial : machine.Init state) : Reachable allowed state
  | next {before after : State} {action : Action}
      (earlier : Reachable allowed before) (admitted : allowed before action)
      (stepped : machine.step before action = some after) : Reachable allowed after

/-- Run a list of actions; `none` as soon as one of them is not enabled. -/
def exec : State → List Action → Option State
  | state, [] => some state
  | state, action :: rest => (machine.step state action).bind fun after => exec after rest

/-- Every step of the run satisfies `condition` in the state it is taken. -/
def Along (condition : State → Action → Prop) : State → List Action → Prop
  | _, [] => True
  | state, action :: rest =>
      condition state action ∧
        ∀ after, machine.step state action = some after → Along condition after rest

/-- A run is checked by running it. -/
instance decidableAlong {condition : State → Action → Prop}
    [decideStep : ∀ state action, Decidable (condition state action)] :
    (state : State) → (actions : List Action) → Decidable (machine.Along condition state actions)
  | _, [] => .isTrue trivial
  | state, action :: rest =>
      match decideStep state action with
      | .isFalse violated => .isFalse fun along => violated along.1
      | .isTrue holds =>
          match stepped : machine.step state action with
          | none => .isTrue ⟨holds, fun _ enabled => by rw [stepped] at enabled; cases enabled⟩
          | some after =>
              match decidableAlong after rest with
              | .isTrue along =>
                  .isTrue ⟨holds, fun other enabled => by
                    rw [stepped] at enabled
                    cases enabled
                    exact along⟩
              | .isFalse broken => .isFalse fun along => broken (along.2 after stepped)

/-- The predicate that admits every step. -/
def AnyStep (_ : State) (_ : Action) : Prop := True

variable {machine} {allowed : State → Action → Prop}

/-- The invariant rule. -/
theorem Reachable.invariant {Invariant : State → Prop} {state : State}
    (reachable : machine.Reachable allowed state)
    (initially : ∀ state, machine.Init state → Invariant state)
    (preserved : ∀ before action after, Invariant before → allowed before action →
      machine.step before action = some after → Invariant after) :
    Invariant state := by
  induction reachable with
  | start initial => exact initially _ initial
  | next _ admitted stepped inductionHypothesis =>
      exact preserved _ _ _ inductionHypothesis admitted stepped

/-- The invariant rule with an invariant that is already known to hold. -/
theorem Reachable.invariant_under {Known Invariant : State → Prop} {state : State}
    (reachable : machine.Reachable allowed state)
    (known : ∀ state, machine.Reachable allowed state → Known state)
    (initially : ∀ state, machine.Init state → Invariant state)
    (preserved : ∀ before action after, Known before → Invariant before →
      allowed before action → machine.step before action = some after → Invariant after) :
    Invariant state := by
  induction reachable with
  | start initial => exact initially _ initial
  | next earlier admitted stepped inductionHypothesis =>
      exact preserved _ _ _ (known _ earlier) inductionHypothesis admitted stepped

/-- Admitting more steps reaches at least as many states. -/
theorem Reachable.mono {wider : State → Action → Prop} {state : State}
    (reachable : machine.Reachable allowed state)
    (weaker : ∀ state action, allowed state action → wider state action) :
    machine.Reachable wider state := by
  induction reachable with
  | start initial => exact .start initial
  | next _ admitted stepped inductionHypothesis =>
      exact .next inductionHypothesis (weaker _ _ admitted) stepped

/-- The projection rule: `view` shows one part of a system, and each step of
the system is a step of that part or leaves it alone. -/
theorem Reachable.project {Part : Type w} {Move : Type x} {part : Machine Part Move}
    {view : State → Part} {admitted : Part → Move → Prop} {state : State}
    (reachable : machine.Reachable allowed state)
    (initially : ∀ state, machine.Init state → part.Init (view state))
    (steps : ∀ before action after, allowed before action →
      machine.step before action = some after → view after = view before ∨
        ∃ move, admitted (view before) move ∧ part.step (view before) move = some (view after)) :
    part.Reachable admitted (view state) := by
  induction reachable with
  | start initial => exact .start (initially _ initial)
  | next _ admittedStep stepped inductionHypothesis =>
      rcases steps _ _ _ admittedStep stepped with same | ⟨move, admittedMove, moved⟩
      · rw [same]
        exact inductionHypothesis
      · exact .next inductionHypothesis admittedMove moved

/-! ## Runs -/

theorem exec_cons_some {state final : State} {action : Action} {rest : List Action}
    (run : machine.exec state (action :: rest) = some final) :
    ∃ after, machine.step state action = some after ∧ machine.exec after rest = some final :=
  Option.bind_eq_some_iff.mp run

theorem exec_singleton_iff {state final : State} {action : Action} :
    machine.exec state [action] = some final ↔ machine.step state action = some final := by
  simp [exec]

theorem exec_append (state : State) (first second : List Action) :
    machine.exec state (first ++ second) =
      (machine.exec state first).bind fun middle => machine.exec middle second := by
  induction first generalizing state with
  | nil => rfl
  | cons action rest inductionHypothesis =>
      simp only [List.cons_append, exec]
      cases machine.step state action with
      | none => rfl
      | some after => exact inductionHypothesis after

/-- A condition that every action of the run meets in any state. -/
theorem along_of_forall {condition : State → Action → Prop} {actions : List Action}
    (holds : ∀ action ∈ actions, ∀ state, condition state action) (state : State) :
    machine.Along condition state actions := by
  induction actions generalizing state with
  | nil => trivial
  | cons action rest inductionHypothesis =>
      refine ⟨holds action List.mem_cons_self state, fun after _ => ?_⟩
      exact inductionHypothesis (fun other member => holds other (List.mem_cons_of_mem _ member))
        after

/-- The last step of a run meets the condition. -/
theorem Along.last {condition : State → Action → Prop} {front : List Action} {action : Action}
    {state last : State} (along : machine.Along condition state (front ++ [action]))
    (ran : machine.exec state front = some last) : condition last action := by
  induction front generalizing state with
  | nil =>
      cases ran
      exact along.1
  | cons first rest inductionHypothesis =>
      obtain ⟨after, stepped, tailRun⟩ := exec_cons_some ran
      exact inductionHypothesis (along.2 after stepped) tailRun

theorem along_anyStep (state : State) (actions : List Action) :
    machine.Along AnyStep state actions :=
  along_of_forall (fun _ _ _ => trivial) state

/-- A run whose steps are all admitted stays inside the reachable states. -/
theorem Reachable.exec {state final : State} {actions : List Action}
    (reachable : machine.Reachable allowed state)
    (admitted : machine.Along allowed state actions)
    (run : machine.exec state actions = some final) :
    machine.Reachable allowed final := by
  induction actions generalizing state with
  | nil => exact Option.some.inj run ▸ reachable
  | cons action rest inductionHypothesis =>
      obtain ⟨after, stepped, tailRun⟩ := exec_cons_some run
      exact inductionHypothesis (.next reachable admitted.1 stepped)
        (admitted.2 after stepped) tailRun

/-! ## Runs that stop by themselves -/

/-- Run a list of actions as long as the state is `busy`; none may follow. -/
def execWhile (machine : Machine State Action) (busy : State → Bool) :
    State → List Action → Option State
  | state, [] => some state
  | state, action :: rest =>
      if busy state then
        (machine.step state action).bind fun after => execWhile machine busy after rest
      else none

theorem execWhile_cons_some {busy : State → Bool} {state final : State} {action : Action}
    {rest : List Action} (run : machine.execWhile busy state (action :: rest) = some final) :
    busy state = true ∧ ∃ after, machine.step state action = some after ∧
      machine.execWhile busy after rest = some final := by
  obtain ⟨isBusy, run⟩ := Option.ite_none_right_eq_some.mp run
  exact ⟨isBusy, Option.bind_eq_some_iff.mp run⟩

theorem exec_of_execWhile {busy : State → Bool} {state final : State} {actions : List Action}
    (run : machine.execWhile busy state actions = some final) :
    machine.exec state actions = some final := by
  induction actions generalizing state with
  | nil => exact run
  | cons action rest inductionHypothesis =>
      obtain ⟨_, after, stepped, tailRun⟩ := execWhile_cons_some run
      rw [exec, stepped]
      exact inductionHypothesis tailRun

theorem execWhile_append_some {busy : State → Bool} {state middle final : State}
    {first second : List Action} (run : machine.execWhile busy state first = some middle)
    (rest : machine.execWhile busy middle second = some final) :
    machine.execWhile busy state (first ++ second) = some final := by
  induction first generalizing state with
  | nil =>
      cases run
      exact rest
  | cons action tail inductionHypothesis =>
      obtain ⟨isBusy, after, stepped, tailRun⟩ := execWhile_cons_some run
      rw [List.cons_append, execWhile, if_pos isBusy, stepped]
      exact inductionHypothesis tailRun

/-- A run that goes on was busy before its last step. -/
theorem execWhile_concat_some {busy : State → Bool} {state final : State} {front : List Action}
    {action : Action} (run : machine.execWhile busy state (front ++ [action]) = some final) :
    ∃ last, machine.execWhile busy state front = some last ∧ busy last = true ∧
      machine.step last action = some final := by
  induction front generalizing state with
  | nil =>
      obtain ⟨isBusy, after, stepped, tailRun⟩ := execWhile_cons_some run
      cases tailRun
      exact ⟨state, rfl, isBusy, stepped⟩
  | cons first rest inductionHypothesis =>
      obtain ⟨isBusy, after, stepped, tailRun⟩ := execWhile_cons_some run
      obtain ⟨last, ran, lastBusy, lastStep⟩ := inductionHypothesis tailRun
      refine ⟨last, ?_, lastBusy, lastStep⟩
      rw [execWhile, if_pos isBusy, stepped]
      exact ran

/-- The rule for such runs: what every step keeps holds as long as the state
is busy, and a run that has stopped did so with its last step. -/
theorem execWhile_trace {busy : State → Bool} {condition : State → Action → Prop}
    {Trace : State → List Action → Prop} {state final : State} {past actions : List Action}
    (run : machine.execWhile busy state actions = some final)
    (along : machine.Along condition state actions)
    (now : busy state = true → Trace state past)
    (kept : ∀ before past action after, busy before = true → Trace before past →
      condition before action → machine.step before action = some after →
        busy after = true → Trace after (past ++ [action])) :
    (busy final = true → Trace final (past ++ actions)) ∧
      (busy final = false → (actions = [] ∧ final = state) ∨
        ∃ front action last, actions = front ++ [action] ∧
          machine.execWhile busy state front = some last ∧ busy last = true ∧
          Trace last (past ++ front) ∧ condition last action ∧
          machine.step last action = some final) := by
  induction actions generalizing state past with
  | nil =>
      cases run
      refine ⟨fun isBusy => ?_, fun _ => .inl ⟨rfl, rfl⟩⟩
      rw [List.append_nil]
      exact now isBusy
  | cons action rest inductionHypothesis =>
      obtain ⟨isBusy, after, stepped, tailRun⟩ := execWhile_cons_some run
      have later := @inductionHypothesis after (past ++ [action]) tailRun
        (along.2 after stepped) (kept state past action after isBusy (now isBusy) along.1 stepped)
      rw [List.append_assoc, List.singleton_append] at later
      refine ⟨later.1, fun stopped => .inr ?_⟩
      rcases later.2 stopped with ⟨rfl, rfl⟩ | ⟨front, lastAction, last, rfl, ran, rest⟩
      · exact ⟨[], action, state, rfl, rfl, isBusy, by simpa using now isBusy, along.1, stepped⟩
      · refine ⟨action :: front, lastAction, last, rfl, ?_, ?_⟩
        · rw [execWhile, if_pos isBusy, stepped]
          exact ran
        · rw [List.append_assoc, List.singleton_append] at rest
          exact rest

/-- The lockstep rule: two runs that stop together take the same actions. -/
theorem execWhile_lockstep {busy : State → Bool} {Alike Ended : State → State → Prop}
    {left right final : State} {actions : List Action}
    (begun : Alike left right ∨ Ended left right)
    (alike : ∀ left right, Alike left right → busy right = true)
    (ended : ∀ left right, Ended left right → busy left = false)
    (steps : ∀ left right action after, Alike left right →
      machine.step left action = some after →
        ∃ other, machine.step right action = some other ∧ (Alike after other ∨ Ended after other))
    (run : machine.execWhile busy left actions = some final) :
    ∃ other, machine.execWhile busy right actions = some other ∧
      (Alike final other ∨ Ended final other) := by
  induction actions generalizing left right with
  | nil =>
      cases run
      exact ⟨right, rfl, begun⟩
  | cons action rest inductionHypothesis =>
      obtain ⟨isBusy, after, stepped, tailRun⟩ := execWhile_cons_some run
      rcases begun with same | stopped
      · obtain ⟨other, otherStepped, later⟩ := steps left right action after same stepped
        obtain ⟨last, otherRun, relation⟩ := inductionHypothesis later tailRun
        refine ⟨last, ?_, relation⟩
        rw [execWhile, if_pos (alike left right same), otherStepped]
        exact otherRun
      · exact absurd ((ended left right stopped).symm.trans isBusy) (by decide)

/-! ## What a state can still do -/

/-- Some run of admitted steps leads from the state to the goal. -/
def CanReach (machine : Machine State Action) (allowed : State → Action → Prop)
    (state : State) (Goal : State → Prop) : Prop :=
  ∃ actions final, machine.exec state actions = some final ∧
    machine.Along allowed state actions ∧ Goal final

theorem CanReach.now {Goal : State → Prop} {state : State} (reached : Goal state) :
    machine.CanReach allowed state Goal := ⟨[], state, rfl, trivial, reached⟩

theorem CanReach.step {Goal : State → Prop} {state after : State} {action : Action}
    (admitted : allowed state action) (stepped : machine.step state action = some after)
    (later : machine.CanReach allowed after Goal) : machine.CanReach allowed state Goal := by
  obtain ⟨actions, final, run, along, reached⟩ := later
  refine ⟨action :: actions, final, ?_, ⟨admitted, fun other enabled => ?_⟩, reached⟩
  · rw [Machine.exec, stepped]
    exact run
  · rw [stepped] at enabled
    cases enabled
    exact along

/-- A run leads to where one can go on from. -/
theorem CanReach.run {Goal : State → Prop} {state middle : State} {actions : List Action}
    (run : machine.exec state actions = some middle) (along : machine.Along allowed state actions)
    (later : machine.CanReach allowed middle Goal) : machine.CanReach allowed state Goal := by
  induction actions generalizing state with
  | nil =>
      cases run
      exact later
  | cons action rest inductionHypothesis =>
      obtain ⟨after, stepped, tailRun⟩ := exec_cons_some run
      exact .step along.1 stepped (inductionHypothesis tailRun (along.2 after stepped))

/-- On the way to the goal the state stops being busy, or it is busy all
along. -/
theorem CanReach.busy_cases {Goal : State → Prop} {state : State} (busy : State → Bool)
    (reach : machine.CanReach allowed state Goal) :
    machine.CanReach allowed state (fun stopped => busy stopped = false) ∨
      ∃ actions final, machine.execWhile busy state actions = some final ∧
        machine.Along allowed state actions ∧ busy final = true ∧ Goal final := by
  obtain ⟨actions, final, run, along, reached⟩ := reach
  induction actions generalizing state with
  | nil =>
      cases run
      by_cases isBusy : busy final = true
      · exact .inr ⟨[], final, rfl, trivial, isBusy, reached⟩
      · exact .inl (.now (by simpa using isBusy))
  | cons action rest inductionHypothesis =>
      obtain ⟨after, stepped, tailRun⟩ := exec_cons_some run
      by_cases isBusy : busy state = true
      · rcases inductionHypothesis tailRun (along.2 after stepped) with
          stops | ⟨actions, last, ran, alongLast, lastBusy, lastReached⟩
        · exact .inl (.step along.1 stepped stops)
        · refine .inr ⟨action :: actions, last, ?_, ⟨along.1, ?_⟩, lastBusy, lastReached⟩
          · rw [execWhile, if_pos isBusy, stepped]
            exact ran
          · intro other enabled
            rw [stepped] at enabled
            cases enabled
            exact alongLast
      · exact .inl (.now (by simpa using isBusy))

/-! ## Systems that take turns -/

section Interleaving

variable {Index : Type w} [DecidableEq Index] {Local : Index → Type u} {Move : Index → Type v}

/-- A family of systems of which one at a time takes a step. `enabled` says
which one may take which step, given the states of all. -/
def interleave (family : (index : Index) → Machine (Local index) (Move index))
    (enabled : ((index : Index) → Local index) → (index : Index) → Move index → Bool) :
    Machine ((index : Index) → Local index) ((index : Index) × Move index) where
  Init := fun states => ∀ index, (family index).Init (states index)
  step := fun states move =>
    if enabled states move.1 move.2 then
      ((family move.1).step (states move.1) move.2).map (Function.update states move.1)
    else none

variable {family : (index : Index) → Machine (Local index) (Move index)}
  {enabled : ((index : Index) → Local index) → (index : Index) → Move index → Bool}
  {admitted : ((index : Index) → Local index) → ((index : Index) × Move index) → Prop}
  {allowed : (index : Index) → Local index → Move index → Prop}

/-- Each member of the family only sees its own steps. -/
theorem Reachable.component {states : (index : Index) → Local index}
    (reachable : (interleave family enabled).Reachable admitted states)
    (admits : ∀ states index move, admitted states ⟨index, move⟩ →
      allowed index (states index) move) (index : Index) :
    (family index).Reachable (allowed index) (states index) := by
  apply reachable.project fun _ initial => initial index
  intro before move after admittedMove stepped
  obtain ⟨_, stepped⟩ := Option.ite_none_right_eq_some.mp stepped
  obtain ⟨moved, step, rfl⟩ := Option.map_eq_some_iff.mp stepped
  by_cases same : index = move.1
  · subst same
    rw [Function.update_self]
    exact .inr ⟨move.2, admits before move.1 move.2 admittedMove, step⟩
  · exact .inl (Function.update_of_ne same _ _)

end Interleaving

end Machine

end Fiberio.Foundation
