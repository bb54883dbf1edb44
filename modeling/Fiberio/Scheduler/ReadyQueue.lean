import Fiberio.Foundation.Flow
import Fiberio.Scheduler.Model

/-!
Owns the ready queue of the scheduler over whole runs. Fibers enter `queue_`
through `awakened`, from a running fiber, from a callback inside `uv_run`, out
of the remote-ready queue or from sleep, and `pick_next` hands them out. None
is lost, made up or overtaken, the dispatcher does not block while one is
ready, and a ready fiber runs after a bounded number of the dispatcher's steps.

Does not own the wake-up guarantee for the remote-ready queue, nor the timer.
-/

namespace Fiberio.Scheduler

open Fiberio.Foundation

variable {Thread Fiber : Type}

/-! ## What passes through the queue -/

namespace State

/-- The fiber that `pick_next` hands out: the one that runs after it. -/
def picks (state : State Thread Fiber) : Action Thread Fiber → List Fiber
  | .pickNext absTime => ((state.pickNext absTime).bind fun after => after.pc.fiber).toList
  | _ => []

theorem picks_pickNext [DecidableEq Thread] {before after : State Thread Fiber}
    {absTime : TimePoint} (stepped : before.step (.pickNext absTime) = some after) :
    before.picks (.pickNext absTime) = after.pc.fiber.toList := by
  have picked : before.pickNext absTime = some after := stepped
  rw [picks, picked, Option.bind_some]

/-- The fibers that pass through `awakened`. -/
def readies (state : State Thread Fiber) : Action Thread Fiber → List Fiber
  | .awakened fiber => [fiber]
  | .drain => state.remote
  | _ => []

end State

/-- The dispatcher thread takes a step of its own. -/
def Action.dispatches : Action Thread Fiber → Bool
  | .drain | .pickNext _ | .yield | .suspendEnter | .setTimer _ | .uvRunReturns _
  | .shouldWakeUp | .loopTest | .stopTimer | .suspendExit => true
  | .push _ _ | .updateNotify _ | .endNotify _ | .awakened _ | .timerFires => false

/-! ## What a step does to the dispatcher and to its queue -/

/-- The dispatcher goes on without touching its queue. -/
inductive Pc.Next (queue : List Fiber) : Pc Fiber → Pc Fiber → Prop where
  | yields (fiber : Fiber) : Next queue (.running fiber) .drain
  | enters (absTime : TimePoint) (call : Nat) :
      Next queue (.suspendEnter absTime) (.setTimer absTime call)
  | wakesDirectly (absTime : TimePoint) : Next queue (.suspendEnter absTime) .wakeUpDirectly
  | arms (absTime : TimePoint) (call : Nat) (timerSet : Bool) :
      Next queue (.setTimer absTime call) (.uvRun ⟨call, timerSet, false⟩)
  | polled (locals : Locals) : Next queue (.uvRun locals) (.shouldWakeUp locals)
  | checks (locals : Locals) (wakeUp : Bool) :
      Next queue (.shouldWakeUp locals) (.loopTest locals (!queue.isEmpty) wakeUp)
  | leaves (locals : Locals) (readyFibers wakeUp : Bool) :
      Next queue (.loopTest locals readyFibers wakeUp) (.stopTimer locals)
  | again (locals : Locals) (unfinished : locals.timerDone = false) :
      Next queue (.loopTest locals false false) (.uvRun locals)
  | stops (locals : Locals) : Next queue (.stopTimer locals) .suspendExit
  | exits : Next queue .suspendExit .drain
  | exitsDirectly : Next queue .wakeUpDirectly .drain

/-- The dispatcher waits for something outside, and callbacks or the running
fiber may call `awakened`; or it readies a sleeper itself. -/
inductive Pc.Hosts : Pc Fiber → Pc Fiber → Prop where
  | pickNext : Hosts .pickNext .pickNext
  | running (fiber : Fiber) : Hosts (.running fiber) (.running fiber)
  | uvRun (before after : Locals) : Hosts (.uvRun before) (.uvRun after)

/-- One step, seen from the ready queue. -/
inductive ReadyStep (before after : State Thread Fiber) : Action Thread Fiber → Prop where
  | outside {action : Action Thread Fiber} (other : action.dispatches = false)
      (none : before.readies action = []) (queue : after.queue = before.queue)
      (pc : after.pc = before.pc) : ReadyStep before after action
  | hosted {action : Action Thread Fiber} (other : action.dispatches = false)
      (queue : after.queue = before.queue ++ before.readies action)
      (pc : before.pc.Hosts after.pc) : ReadyStep before after action
  | drains (at_ : before.pc = .drain) (queue : after.queue = before.queue ++ before.remote)
      (pc : after.pc = .pickNext) : ReadyStep before after .drain
  | picks {absTime : TimePoint} (fiber : Fiber) (at_ : before.pc = .pickNext)
      (queue : before.queue = fiber :: after.queue) (pc : after.pc = .running fiber) :
      ReadyStep before after (.pickNext absTime)
  | suspends {absTime : TimePoint} (at_ : before.pc = .pickNext) (empty : before.queue = [])
      (queue : after.queue = []) (pc : after.pc = .suspendEnter absTime) :
      ReadyStep before after (.pickNext absTime)
  | moves {action : Action Thread Fiber} (own : action.dispatches = true)
      (none : before.picks action = [] ∧ before.readies action = [])
      (queue : after.queue = before.queue)
      (pc : Pc.Next before.queue before.pc after.pc) : ReadyStep before after action

variable [DecidableEq Thread]

theorem step_ready {before after : State Thread Fiber} {action : Action Thread Fiber}
    (stepped : before.step action = some after) : ReadyStep before after action := by
  cases action with
  | push thread fiber =>
      simp only [State.step, State.push] at stepped
      split at stepped <;> cases stepped
      exact .outside rfl rfl rfl rfl
  | updateNotify thread =>
      simp only [State.step, State.updateNotify] at stepped
      split at stepped <;> cases stepped
      exact .outside rfl rfl rfl rfl
  | endNotify thread =>
      simp only [State.step, State.endNotify] at stepped
      split at stepped <;> cases stepped
      exact .outside rfl rfl rfl rfl
  | drain =>
      simp only [State.step, State.drain] at stepped
      split at stepped <;> cases stepped
      exact .drains ‹_› rfl rfl
  | pickNext absTime =>
      simp only [State.step, State.pickNext] at stepped
      split at stepped
      · split at stepped <;> cases stepped
        · exact .suspends ‹_› ‹_› ‹_› rfl
        · exact .picks _ ‹_› ‹_› rfl
      · cases stepped
  | awakened fiber =>
      simp only [State.step, State.awakened] at stepped
      split at stepped <;> cases stepped
      · exact .hosted rfl rfl (by simp only [*]; exact .running _)
      · exact .hosted rfl rfl (by simp only [*]; exact .uvRun _ _)
      · exact .hosted rfl rfl (by simp only [*]; exact .pickNext)
  | yield =>
      simp only [State.step, State.yield] at stepped
      split at stepped <;> cases stepped
      exact .moves rfl ⟨rfl, rfl⟩ rfl (by simp only [*]; exact .yields _)
  | suspendEnter =>
      simp only [State.step, State.suspendEnter] at stepped
      split at stepped <;> cases stepped
      refine .moves rfl ⟨rfl, rfl⟩ rfl ?_
      simp only [*]
      split
      · exact .wakesDirectly _
      · exact .enters _ _
  | setTimer now =>
      simp only [State.step, State.setTimer] at stepped
      split at stepped
      · split at stepped <;> cases stepped <;>
          exact .moves rfl ⟨rfl, rfl⟩ rfl (by simp only [*]; exact .arms _ _ _)
      · cases stepped
  | timerFires =>
      simp only [State.step, State.timerFires] at stepped
      split at stepped
      · split at stepped
        · split at stepped <;> cases stepped <;>
            exact .hosted rfl (by simp [State.readies]) (by simp only [*]; exact .uvRun _ _)
        · cases stepped
      · cases stepped
  | uvRunReturns consumes =>
      simp only [State.step, State.uvRunReturns] at stepped
      split at stepped <;> cases stepped
      exact .moves rfl ⟨rfl, rfl⟩ rfl (by simp only [*]; exact .polled _)
  | shouldWakeUp =>
      simp only [State.step, State.shouldWakeUp] at stepped
      split at stepped <;> cases stepped
      exact .moves rfl ⟨rfl, rfl⟩ rfl (by simp only [*]; exact .checks _ _)
  | loopTest =>
      simp only [State.step, State.loopTest] at stepped
      split at stepped
      · split at stepped
        · cases stepped
          exact .moves rfl ⟨rfl, rfl⟩ rfl (by simp only [*]; exact .leaves _ _ _)
        · rename_i continues
          simp only [Bool.or_eq_true, not_or, Bool.not_eq_true] at continues
          obtain ⟨⟨rfl, unfinished⟩, rfl⟩ := continues
          cases stepped
          exact .moves rfl ⟨rfl, rfl⟩ rfl (by simp only [*]; exact .again _ unfinished)
      · cases stepped
  | stopTimer =>
      simp only [State.step, State.stopTimer] at stepped
      split at stepped
      · split at stepped <;> cases stepped <;>
          exact .moves rfl ⟨rfl, rfl⟩ rfl (by simp only [*]; exact .stops _)
      · cases stepped
  | suspendExit =>
      simp only [State.step, State.suspendExit] at stepped
      split at stepped <;> cases stepped
      · exact .moves rfl ⟨rfl, rfl⟩ rfl (by simp only [*]; exact .exits)
      · exact .moves rfl ⟨rfl, rfl⟩ rfl (by simp only [*]; exact .exitsDirectly)

/-! ## Conservation and order -/

/-- One step of `queue_`: what is handed out was at its front, and what is
readied comes to its end. -/
theorem step_queue {before after : State Thread Fiber} {action : Action Thread Fiber}
    (stepped : before.step action = some after) :
    before.picks action ++ after.queue = before.queue ++ before.readies action := by
  cases step_ready stepped with
  | outside other none queue pc =>
      have nothing : before.picks action = [] := by
        cases action <;> first | rfl | cases other
      rw [nothing, none, queue, List.nil_append, List.append_nil]
  | hosted other queue pc =>
      have nothing : before.picks action = [] := by
        cases action <;> first | rfl | cases other
      rw [nothing, queue, List.nil_append]
  | drains at_ queue pc => exact queue
  | picks fiber at_ queue pc =>
      rw [State.picks_pickNext stepped, pc, queue]
      simp [Pc.fiber, State.readies]
  | suspends at_ empty queue pc =>
      rw [State.picks_pickNext stepped, pc, queue, empty]
      rfl
  | moves own none queue pc => rw [none.1, none.2, queue, List.nil_append, List.append_nil]

/-- No ready fiber is lost, made up or overtaken: over every run the fibers
that `pick_next` handed out, followed by those still queued, are the fibers
that `awakened` received, in that order. -/
theorem ready_fibers_run_in_order {actions : List (Action Thread Fiber)}
    {final : State Thread Fiber}
    (run : (machine Thread Fiber).exec initial actions = some final) :
    (machine Thread Fiber).output State.picks initial actions ++ final.queue =
      (machine Thread Fiber).output State.readies initial actions :=
  Machine.output_fifo State.queue (fun _ _ _ => step_queue) run

/-- A fiber comes from another thread and makes a second one ready. -/
theorem pushed_fiber_then_awakened_fiber :
    ∃ final, (machine Unit Nat).exec initial
        [.push () 5, .drain, .pickNext 0, .awakened 7] = some final ∧
      [5] ++ final.queue = [5, 7] := by
  have run : ∃ final, (machine Unit Nat).exec initial
      [.push () 5, .drain, .pickNext 0, .awakened 7] = some final := ⟨_, rfl⟩
  obtain ⟨final, run⟩ := run
  exact ⟨final, run, ready_fibers_run_in_order run⟩

/-! ## The dispatcher while a fiber is ready -/

/-- The dispatcher on its way into `uv_run` has seen its queue empty. -/
structure ReadyInvariant (state : State Thread Fiber) : Prop where
  entering : ∀ absTime, state.pc = .suspendEnter absTime → state.queue = []
  arming : ∀ absTime call, state.pc = .setTimer absTime call → state.queue = []
  direct : state.pc = .wakeUpDirectly → state.queue = []
  tested : ∀ locals readyFibers wakeUp, state.pc = .loopTest locals readyFibers wakeUp →
    readyFibers = !state.queue.isEmpty

omit [DecidableEq Thread] in
theorem readyInvariant_initial : ReadyInvariant (initial : State Thread Fiber) where
  entering := by simp [initial]
  arming := by simp [initial]
  direct := by simp [initial]
  tested := by simp [initial]

omit [DecidableEq Thread] in
/-- The invariant says nothing about the other places. -/
theorem ReadyInvariant.elsewhere {state : State Thread Fiber}
    (place : state.pc = .drain ∨ state.pc = .pickNext ∨ state.pc = .suspendExit ∨
      (∃ fiber, state.pc = .running fiber) ∨ (∃ locals, state.pc = .uvRun locals) ∨
      (∃ locals, state.pc = .shouldWakeUp locals) ∨ ∃ locals, state.pc = .stopTimer locals) :
    ReadyInvariant state := by
  rcases place with pc | pc | pc | ⟨_, pc⟩ | ⟨_, pc⟩ | ⟨_, pc⟩ | ⟨_, pc⟩ <;>
    constructor <;> simp [pc]

theorem readyInvariant_step {before after : State Thread Fiber}
    {action : Action Thread Fiber} (invariant : ReadyInvariant before)
    (stepped : before.step action = some after) : ReadyInvariant after := by
  cases step_ready stepped with
  | outside other none queue pc =>
      constructor
      · rw [queue, pc]
        exact invariant.entering
      · rw [queue, pc]
        exact invariant.arming
      · rw [queue, pc]
        exact invariant.direct
      · rw [queue, pc]
        exact invariant.tested
  | hosted other queue pc =>
      generalize before.pc = old at pc
      generalize next : after.pc = new at pc
      cases pc with
      | pickNext => exact .elsewhere (by simp [next])
      | running fiber => exact .elsewhere (by simp [next])
      | uvRun earlier later => exact .elsewhere (by simp [next])
  | drains at_ queue pc => exact .elsewhere (by simp [pc])
  | picks fiber at_ queue pc => exact .elsewhere (by simp [pc])
  | suspends at_ empty queue pc =>
      constructor
      · exact fun _ _ => queue
      all_goals simp [pc]
  | moves own none queue pc =>
      generalize place : before.pc = old at pc
      generalize next : after.pc = new at pc
      cases pc with
      | enters absTime call =>
          constructor
          case arming => exact fun _ _ _ => queue.trans (invariant.entering absTime place)
          all_goals simp [next]
      | wakesDirectly absTime =>
          constructor
          case direct => exact fun _ => queue.trans (invariant.entering absTime place)
          all_goals simp [next]
      | checks locals wakeUp =>
          constructor
          case tested =>
            intro locals' readyFibers wakeUp' tested
            rw [next] at tested
            obtain ⟨-, same, -⟩ := Pc.loopTest.inj tested
            rw [← same, queue]
          all_goals simp [next]
      | yields _ | arms _ _ _ | polled _ | leaves _ _ _ | again _ _ | stops _ | exits
      | exitsDirectly => exact .elsewhere (by simp [next])

theorem readyInvariant_reachable {state : State Thread Fiber}
    (reachable : (machine Thread Fiber).Reachable Machine.AnyStep state) :
    ReadyInvariant state := by
  apply reachable.invariant
  · rintro _ rfl
    exact readyInvariant_initial
  · intro before action after invariant _ stepped
    exact readyInvariant_step invariant stepped

/-- A step into `uv_run` finds nothing to do. -/
theorem ReadyInvariant.enters {before after : State Thread Fiber}
    {action : Action Thread Fiber} {locals : Locals} (invariant : ReadyInvariant before)
    (stepped : before.step action = some after)
    (outside : ∀ locals, before.pc ≠ .uvRun locals) (entered : after.pc = .uvRun locals) :
    after.queue = [] ∧ locals.timerDone = false := by
  cases step_ready stepped with
  | outside other none queue pc => exact absurd (pc.symm.trans entered) (outside locals)
  | hosted other queue pc =>
      generalize place : before.pc = old at pc
      rw [entered] at pc
      cases pc with
      | uvRun earlier later => exact absurd place (outside earlier)
  | drains at_ queue pc => cases pc.symm.trans entered
  | picks fiber at_ queue pc => cases pc.symm.trans entered
  | suspends at_ empty queue pc => cases pc.symm.trans entered
  | moves own none queue pc =>
      generalize place : before.pc = old at pc
      rw [entered] at pc
      rw [queue]
      cases pc with
      | arms absTime call timerSet => exact ⟨invariant.arming absTime call place, rfl⟩
      | again locals unfinished =>
          have empty := invariant.tested _ _ _ place
          refine ⟨?_, unfinished⟩
          simpa using empty

/-- The dispatcher never blocks while there is something to do: whenever it
enters `uv_run`, `queue_` is empty and the timer of the call has not
expired. -/
theorem uv_run_entered_without_ready_fiber {before after : State Thread Fiber}
    {action : Action Thread Fiber} {locals : Locals}
    (reachable : (machine Thread Fiber).Reachable Machine.AnyStep before)
    (stepped : (machine Thread Fiber).step before action = some after)
    (outside : ∀ locals, before.pc ≠ .uvRun locals) (entered : after.pc = .uvRun locals) :
    after.queue = [] ∧ locals.timerDone = false :=
  (readyInvariant_reachable reachable).enters stepped outside entered

/-- The first `suspend_until` of an idle thread. -/
theorem idle_thread_enters_uv_run :
    ∃ before after, (machine Unit Nat).exec initial [.drain, .pickNext 0, .suspendEnter] =
        some before ∧ (machine Unit Nat).step before (.setTimer 0) = some after ∧
      after.queue = [] := by
  have run : ∃ before, (machine Unit Nat).exec initial [.drain, .pickNext 0, .suspendEnter] =
      some before ∧ before.pc = .setTimer 0 0 := ⟨_, rfl, rfl⟩
  obtain ⟨before, run, place⟩ := run
  have stepped : ∃ after, (machine Unit Nat).step before (.setTimer 0) = some after ∧
      after.pc = .uvRun ⟨0, true, false⟩ := by
    simp only [machine, State.step, State.setTimer, place]
    exact ⟨_, rfl, rfl⟩
  obtain ⟨after, stepped, entered⟩ := stepped
  have reachable := Machine.Reachable.exec (.start rfl) (Machine.along_anyStep _ _) run
  have outside : ∀ locals, before.pc ≠ .uvRun locals := by simp [place]
  exact ⟨before, after, run, stepped,
    (uv_run_entered_without_ready_fiber reachable stepped outside entered).1⟩

/-! ## Bounded waiting -/

/-- How many steps of the dispatcher are missing, at most, until `pick_next`
hands out a fiber, when one is ready. Where the queue is empty there is none
to wait for. -/
def Pc.distance : Pc Fiber → Nat
  | .pickNext => 1
  | .drain => 2
  | .running _ | .suspendExit | .wakeUpDirectly => 3
  | .stopTimer _ => 4
  | .loopTest _ _ _ => 5
  | .shouldWakeUp _ => 6
  | .uvRun _ | .suspendEnter _ | .setTimer _ _ => 7

theorem Pc.distance_le (pc : Pc Fiber) : pc.distance ≤ 7 := by
  cases pc <;> simp [Pc.distance]

theorem Pc.distance_pos (pc : Pc Fiber) : 0 < pc.distance := by
  cases pc <;> simp [Pc.distance]

omit [DecidableEq Thread] in
/-- The dispatcher comes closer to `pick_next` with each of its steps. -/
theorem Pc.Next.closer {state : State Thread Fiber} {after : Pc Fiber}
    (next : Pc.Next state.queue state.pc after) (invariant : ReadyInvariant state)
    (ready : state.queue ≠ []) : after.distance + 1 ≤ state.pc.distance := by
  generalize place : state.pc = before at next
  cases next with
  | enters absTime call => exact absurd (invariant.entering absTime place) ready
  | wakesDirectly absTime => exact absurd (invariant.entering absTime place) ready
  | arms absTime call timerSet => exact absurd (invariant.arming absTime call place) ready
  | again locals unfinished =>
      have empty := invariant.tested _ _ _ place
      exact absurd (by simpa using empty) ready
  | yields _ | polled _ | checks _ _ | leaves _ _ _ | stops _ | exits | exitsDirectly =>
      simp [Pc.distance]

theorem Pc.Hosts.distance_eq {before after : Pc Fiber} (hosts : before.Hosts after) :
    after.distance = before.distance := by
  cases hosts <;> rfl

/-- Enough steps of the dispatcher pick as many fibers as were ready. -/
theorem picks_of_dispatches {state final : State Thread Fiber}
    {actions : List (Action Thread Fiber)} {count : Nat} (invariant : ReadyInvariant state)
    (ready : count < state.queue.length)
    (run : (machine Thread Fiber).exec state actions = some final)
    (steps : state.pc.distance + 7 * count ≤ actions.countP Action.dispatches) :
    count < ((machine Thread Fiber).output State.picks state actions).length := by
  induction actions generalizing state count with
  | nil =>
      have positive := state.pc.distance_pos
      simp only [List.countP_nil] at steps
      omega
  | cons action rest inductionHypothesis =>
      obtain ⟨after, stepped, tailRun⟩ := Machine.exec_cons_some run
      have kept := readyInvariant_step invariant stepped
      rw [Machine.output_cons stepped, List.length_append]
      rw [List.countP_cons] at steps
      cases step_ready stepped with
      | outside other none queue pc =>
          rw [other] at steps
          have later := inductionHypothesis kept (by rwa [queue]) tailRun (by
            rw [pc]
            simpa using steps)
          omega
      | hosted other queue pc =>
          rw [other] at steps
          have longer : count < after.queue.length := by
            rw [queue, List.length_append]
            omega
          have later := inductionHypothesis kept longer tailRun (by
            rw [pc.distance_eq]
            simpa using steps)
          omega
      | drains at_ queue pc =>
          have longer : count < after.queue.length := by
            rw [queue, List.length_append]
            omega
          have later := inductionHypothesis kept longer tailRun (by
            rw [at_] at steps
            rw [pc]
            simp only [Pc.distance, Action.dispatches, if_true] at steps ⊢
            omega)
          omega
      | @picks absTime fiber at_ queue pc =>
          have handedOut : state.picks (.pickNext absTime) = [fiber] := by
            rw [State.picks_pickNext stepped, pc]
            rfl
          rw [handedOut, List.length_singleton]
          cases count with
          | zero => omega
          | succ fewer =>
              rw [queue, List.length_cons] at ready
              have later := @inductionHypothesis after fewer kept (by omega) tailRun (by
                rw [at_] at steps
                rw [pc]
                simp only [Pc.distance, Action.dispatches, if_true] at steps ⊢
                omega)
              omega
      | suspends at_ empty queue pc =>
          rw [empty] at ready
          cases ready
      | moves own none queue pc =>
          have nonempty : state.queue ≠ [] := by
            intro empty
            rw [empty] at ready
            cases ready
          have closer := pc.closer invariant nonempty
          rw [own] at steps
          have later := inductionHypothesis kept (by rwa [queue]) tailRun (by
            simp only [if_true] at steps
            omega)
          omega

/-- A ready fiber waits for those ahead of it in `queue_` and for no other,
whatever the other threads and the callbacks do: once the dispatcher has taken
seven steps for each of them and for the fiber itself, it has run. -/
theorem ready_fiber_runs_after_those_ahead {state final : State Thread Fiber}
    {actions : List (Action Thread Fiber)} {ahead behind : List Fiber} {fiber : Fiber}
    (reachable : (machine Thread Fiber).Reachable Machine.AnyStep state)
    (queued : state.queue = ahead ++ fiber :: behind)
    (run : (machine Thread Fiber).exec state actions = some final)
    (steps : 7 * (ahead.length + 1) ≤ actions.countP Action.dispatches) :
    ∃ later, (machine Thread Fiber).output State.picks state actions =
      ahead ++ fiber :: later := by
  have ready : ahead.length < state.queue.length := by
    rw [queued, List.length_append, List.length_cons]
    omega
  have near := state.pc.distance_le
  have enough := picks_of_dispatches (readyInvariant_reachable reachable) ready run (by omega)
  exact Machine.output_turn State.queue (fun _ _ _ => step_queue) run queued enough

/-- The second of two ready fibers runs within fourteen steps. -/
theorem second_ready_fiber_runs :
    ∃ state final later, (machine Unit Nat).exec initial
        [.push () 5, .drain, .pickNext 0, .awakened 7, .awakened 8] = some state ∧
      (machine Unit Nat).exec state
        [.yield, .drain, .pickNext 0, .yield, .drain, .pickNext 0, .yield, .drain, .pickNext 0,
          .suspendEnter, .setTimer 0, .uvRunReturns true, .shouldWakeUp, .loopTest] = some final ∧
      (machine Unit Nat).output State.picks state
        [.yield, .drain, .pickNext 0, .yield, .drain, .pickNext 0, .yield, .drain, .pickNext 0,
          .suspendEnter, .setTimer 0, .uvRunReturns true, .shouldWakeUp, .loopTest] =
        [7] ++ 8 :: later := by
  have first : (machine Unit Nat).exec initial
      [.push () 5, .drain, .pickNext 0, .awakened 7, .awakened 8] = some _ := rfl
  have reachable := Machine.Reachable.exec (.start rfl) (Machine.along_anyStep _ _) first
  obtain ⟨later, picked⟩ := ready_fiber_runs_after_those_ahead reachable
    (rfl : _ = [7] ++ 8 :: [])
    (rfl : (machine Unit Nat).exec _
      [.yield, .drain, .pickNext 0, .yield, .drain, .pickNext 0, .yield, .drain, .pickNext 0,
        .suspendEnter, .setTimer 0, .uvRunReturns true, .shouldWakeUp, .loopTest] = some _)
    (by decide)
  exact ⟨_, _, later, first, rfl, picked⟩

end Fiberio.Scheduler
