import Fiberio.Foundation.Machine

/-!
Owns what passes through a system in a run: the items that its steps put out,
in the order of the steps, and the law of a store that is filled at one end and
emptied at the other. Every item that has entered such a store has left it or
is still in it, and items leave in the order in which they entered.

Does not own what the items are.
-/

namespace Fiberio.Foundation.Machine

universe u v w

variable {State : Type u} {Action : Type v} {Item : Type w} (machine : Machine State Action)

/-- What the steps of a run put out. `emits` sees the state before the step. -/
def output (emits : State → Action → List Item) : State → List Action → List Item
  | _, [] => []
  | state, action :: rest =>
      emits state action ++
        match machine.step state action with
        | some after => output emits after rest
        | none => []

variable {machine} {emits enters leaves : State → Action → List Item}
  (store : State → List Item) {state final : State} {actions : List Action}

theorem output_cons {after : State} {action : Action} {rest : List Action}
    (stepped : machine.step state action = some after) :
    machine.output emits state (action :: rest) =
      emits state action ++ machine.output emits after rest := by
  rw [output, stepped]

/-- The law of a queue. What one step takes out at the front and puts in at the
back adds up over the whole run. -/
theorem output_fifo
    (law : ∀ before action after, machine.step before action = some after →
      leaves before action ++ store after = store before ++ enters before action)
    (run : machine.exec state actions = some final) :
    machine.output leaves state actions ++ store final =
      store state ++ machine.output enters state actions := by
  induction actions generalizing state with
  | nil =>
      cases run
      simp [output]
  | cons action rest inductionHypothesis =>
      obtain ⟨after, stepped, tailRun⟩ := exec_cons_some run
      rw [output_cons stepped, output_cons stepped, List.append_assoc,
        inductionHypothesis tailRun, ← List.append_assoc, law state action after stepped,
        List.append_assoc]

/-- An item waits for those that entered before it and for no other: if enough
leave, it is the next one after them. -/
theorem output_turn
    (law : ∀ before action after, machine.step before action = some after →
      leaves before action ++ store after = store before ++ enters before action)
    (run : machine.exec state actions = some final) {ahead behind : List Item} {item : Item}
    (stored : store state = ahead ++ item :: behind)
    (enough : ahead.length < (machine.output leaves state actions).length) :
    ∃ later, machine.output leaves state actions = ahead ++ item :: later := by
  have flow := output_fifo store law run
  rw [stored, List.append_assoc, List.cons_append] at flow
  rcases List.append_eq_append_iff.mp flow with ⟨middle, same, _⟩ | ⟨middle, same, rest⟩
  · have shorter := congrArg List.length same
    rw [List.length_append] at shorter
    omega
  · cases middle with
    | nil =>
        rw [List.append_nil] at same
        rw [same] at enough
        exact absurd enough (Nat.lt_irrefl _)
    | cons head tail =>
        obtain ⟨rfl, _⟩ := List.cons_eq_cons.mp rest
        exact ⟨tail, same⟩

end Fiberio.Foundation.Machine
