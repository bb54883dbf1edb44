import Mathlib.Tactic.Common
import Fiberio.Scheduler.Model

/-!
Owns the wake-up guarantee of the scheduler: a fiber on the remote-ready
queue is never forgotten while the dispatcher sleeps in `uv_run`. The
argument is one inductive invariant with three parts. `suspended_` tells
exactly where the dispatcher is; a fiber waiting on the remote queue is
about to be drained, announced by `wake_up_`, or still owned by a thread
that has to announce it; and a sleeping dispatcher whose `wake_up_` is set
has a signal under way.

Does not own the timer of `suspend_until`.
-/

namespace Fiberio.Scheduler

open Fiberio.Foundation

variable {Thread Fiber : Type}

/-! ## The three parts of the invariant -/

/-- Between `suspend_enter` and `suspend_exit`. -/
def Pc.InsideSuspend : Pc Fiber → Prop
  | .drain | .pickNext | .running _ | .suspendEnter _ => False
  | .wakeUpDirectly | .setTimer _ _ | .uvRun _ | .shouldWakeUp _ | .loopTest _ _ _
  | .stopTimer _ | .suspendExit => True

/-- The dispatcher will enter or stay in `uv_run` without looking at
`wake_up_` again. -/
def Pc.Sleeps : Pc Fiber → Prop
  | .setTimer _ _ | .uvRun _ | .loopTest _ _ false => True
  | _ => False

/-- A fiber on the remote-ready queue is drained next, announced, or about to
be announced. -/
def Announced (state : State Thread Fiber) : Prop :=
  state.remote ≠ [] →
    state.pc = .drain ∨ state.wakeUp = true ∨ ∃ thread, state.notifier thread = .pushed

/-- A sleeping dispatcher with `wake_up_` set has an async send pending or
under way. -/
def Signalled (state : State Thread Fiber) : Prop :=
  state.pc.Sleeps → state.wakeUp = true →
    state.asyncPending = true ∨ ∃ thread, state.notifier thread = .notifying true

structure WakeUpInvariant (state : State Thread Fiber) : Prop where
  suspended : state.suspended = true ↔ state.pc.InsideSuspend
  announced : Announced state
  signalled : Signalled state

theorem Pc.Sleeps.insideSuspend {pc : Pc Fiber} (sleeps : pc.Sleeps) : pc.InsideSuspend := by
  cases pc <;> simp_all [Pc.Sleeps, Pc.InsideSuspend]

theorem wakeUpInvariant_initial : WakeUpInvariant (initial : State Thread Fiber) where
  suspended := by simp [initial, Pc.InsideSuspend]
  announced := fun nonempty => absurd rfl nonempty
  signalled := fun sleeps => sleeps.elim

/-! ## Steps of the notifying threads -/

section Notifying

variable [DecidableEq Thread]

/-- Changing a thread that was not in `value` keeps every thread that is. -/
private theorem exists_update_of_ne {notifier : Thread → Notifier} {thread : Thread}
    {value next : Notifier} (different : notifier thread ≠ value)
    (found : ∃ other, notifier other = value) :
    ∃ other, Function.update notifier thread next other = value := by
  obtain ⟨other, holds⟩ := found
  refine ⟨other, ?_⟩
  have distinct : other ≠ thread := by
    rintro rfl
    exact different holds
  rw [Function.update_of_ne distinct]
  exact holds

theorem wakeUpInvariant_push {before after : State Thread Fiber} {thread : Thread}
    {fiber : Fiber} (invariant : WakeUpInvariant before)
    (stepped : before.push thread fiber = some after) : WakeUpInvariant after := by
  unfold State.push at stepped
  split at stepped <;> try contradiction
  rename_i idle
  cases stepped
  refine ⟨invariant.suspended, fun _ => .inr (.inr ⟨thread, ?_⟩), fun sleeps set => ?_⟩
  · exact Function.update_self ..
  · rcases invariant.signalled sleeps set with pending | sending
    · exact .inl pending
    · exact .inr (exists_update_of_ne (by simp [idle]) sending)

theorem wakeUpInvariant_updateNotify {before after : State Thread Fiber} {thread : Thread}
    (invariant : WakeUpInvariant before)
    (stepped : before.updateNotify thread = some after) : WakeUpInvariant after := by
  unfold State.updateNotify at stepped
  split at stepped <;> try contradiction
  cases stepped
  refine ⟨invariant.suspended, fun _ => .inr (.inl rfl), fun sleeps _ => .inr ⟨thread, ?_⟩⟩
  -- The dispatcher sleeps, so the thread has read `suspended_` as true.
  have suspended : before.suspended = true :=
    invariant.suspended.mpr sleeps.insideSuspend
  simp [State.setNotifier, suspended]

theorem wakeUpInvariant_endNotify {before after : State Thread Fiber} {thread : Thread}
    (invariant : WakeUpInvariant before)
    (stepped : before.endNotify thread = some after) : WakeUpInvariant after := by
  unfold State.endNotify at stepped
  split at stepped <;> try contradiction
  rename_i suspended notifying
  cases stepped
  refine ⟨invariant.suspended, fun nonempty => ?_, fun sleeps set => ?_⟩
  · rcases invariant.announced nonempty with draining | set | pushed
    · exact .inl draining
    · exact .inr (.inl set)
    · exact .inr (.inr (exists_update_of_ne (by simp [notifying]) pushed))
  · cases suspended with
    | true => exact .inl rfl
    | false =>
        rcases invariant.signalled sleeps set with pending | sending
        · exact .inl pending
        · exact .inr (exists_update_of_ne (by simp [notifying]) sending)

end Notifying

/-! ## Steps of the dispatcher -/

/-- A dispatcher step that leaves the flags, the remote queue and the
notifiers alone keeps the invariant when it stays on the same side of
`suspend_enter` and falls asleep only from a sleeping state or with
`wake_up_` down. -/
private theorem wakeUpInvariant_move {before after : State Thread Fiber}
    (invariant : WakeUpInvariant before)
    (wakeUp : after.wakeUp = before.wakeUp) (suspended : after.suspended = before.suspended)
    (remote : after.remote = before.remote) (notifier : after.notifier = before.notifier)
    (left : before.pc ≠ .drain) (side : after.pc.InsideSuspend ↔ before.pc.InsideSuspend)
    (asleep : after.pc.Sleeps → before.wakeUp = true →
      after.asyncPending = true ∨ (before.pc.Sleeps ∧ after.asyncPending = before.asyncPending)) :
    WakeUpInvariant after := by
  refine ⟨by rw [suspended, side, invariant.suspended], fun nonempty => ?_, fun sleeps set => ?_⟩
  · rw [remote] at nonempty
    rw [wakeUp, notifier]
    rcases invariant.announced nonempty with draining | announced
    · exact absurd draining left
    · exact .inr announced
  · rw [wakeUp] at set
    rw [notifier]
    rcases asleep sleeps set with pending | ⟨slept, same⟩
    · exact .inl pending
    · rw [same]
      exact invariant.signalled slept set

theorem wakeUpInvariant_drain {before after : State Thread Fiber}
    (invariant : WakeUpInvariant before) (stepped : before.drain = some after) :
    WakeUpInvariant after := by
  unfold State.drain at stepped
  split at stepped <;> try contradiction
  rename_i atDrain
  cases stepped
  have awake := invariant.suspended
  rw [atDrain] at awake
  exact ⟨awake, fun nonempty => absurd rfl nonempty, fun sleeps => sleeps.elim⟩

theorem wakeUpInvariant_yield {before after : State Thread Fiber}
    (invariant : WakeUpInvariant before) (stepped : before.yield = some after) :
    WakeUpInvariant after := by
  unfold State.yield at stepped
  split at stepped <;> try contradiction
  rename_i running
  cases stepped
  have awake := invariant.suspended
  rw [running] at awake
  exact ⟨awake, fun _ => .inl rfl, fun sleeps => sleeps.elim⟩

theorem wakeUpInvariant_pickNext {before after : State Thread Fiber} {absTime : TimePoint}
    (invariant : WakeUpInvariant before) (stepped : before.pickNext absTime = some after) :
    WakeUpInvariant after := by
  unfold State.pickNext at stepped
  split at stepped <;> try contradiction
  rename_i picking
  split at stepped <;> cases stepped <;>
    exact wakeUpInvariant_move invariant rfl rfl rfl rfl (by simp [picking])
      (by simp [picking, Pc.InsideSuspend]) (fun sleeps => sleeps.elim)

theorem wakeUpInvariant_awakened {before after : State Thread Fiber} {fiber : Fiber}
    (invariant : WakeUpInvariant before) (stepped : before.awakened fiber = some after) :
    WakeUpInvariant after := by
  unfold State.awakened at stepped
  split at stepped <;> try contradiction
  all_goals
    cases stepped
    exact ⟨invariant.suspended, invariant.announced, invariant.signalled⟩

theorem wakeUpInvariant_suspendEnter {before after : State Thread Fiber}
    (invariant : WakeUpInvariant before) (stepped : before.suspendEnter = some after) :
    WakeUpInvariant after := by
  unfold State.suspendEnter at stepped
  split at stepped <;> try contradiction
  rename_i entering
  cases stepped
  cases set : before.wakeUp with
  | true =>
      exact ⟨by simp [Pc.InsideSuspend], fun _ => .inr (.inl rfl), fun sleeps => sleeps.elim⟩
  | false =>
      refine ⟨by simp [Pc.InsideSuspend], fun nonempty => ?_, fun _ up => ?_⟩
      · rcases invariant.announced nonempty with draining | up | pushed
        · simp [entering] at draining
        · simp [set] at up
        · exact .inr (.inr pushed)
      · exact absurd up (by simp)

theorem wakeUpInvariant_setTimer {before after : State Thread Fiber} {now : TimePoint}
    (invariant : WakeUpInvariant before) (stepped : before.setTimer now = some after) :
    WakeUpInvariant after := by
  unfold State.setTimer at stepped
  split at stepped <;> try contradiction
  rename_i arming
  split at stepped <;> cases stepped <;>
    exact wakeUpInvariant_move invariant rfl rfl rfl rfl (by simp [arming])
      (by simp [arming, Pc.InsideSuspend])
      (fun _ _ => .inr ⟨by simp [arming, Pc.Sleeps], rfl⟩)

theorem wakeUpInvariant_timerFires {before after : State Thread Fiber}
    (invariant : WakeUpInvariant before) (stepped : before.timerFires = some after) :
    WakeUpInvariant after := by
  unfold State.timerFires at stepped
  split at stepped <;> try contradiction
  rename_i running
  split at stepped <;> try contradiction
  simp only at stepped
  split at stepped <;> cases stepped <;>
    exact wakeUpInvariant_move invariant rfl rfl rfl rfl (by simp [running])
      (by simp [running, Pc.InsideSuspend]) (fun _ _ => .inl rfl)

theorem wakeUpInvariant_uvRunReturns {before after : State Thread Fiber} {consumes : Bool}
    (invariant : WakeUpInvariant before)
    (stepped : before.uvRunReturns consumes = some after) : WakeUpInvariant after := by
  unfold State.uvRunReturns at stepped
  split at stepped <;> try contradiction
  rename_i running
  cases stepped
  exact wakeUpInvariant_move invariant rfl rfl rfl rfl (by simp [running])
    (by simp [running, Pc.InsideSuspend]) (fun sleeps => sleeps.elim)

theorem wakeUpInvariant_shouldWakeUp {before after : State Thread Fiber}
    (invariant : WakeUpInvariant before) (stepped : before.shouldWakeUp = some after) :
    WakeUpInvariant after := by
  unfold State.shouldWakeUp at stepped
  split at stepped <;> try contradiction
  rename_i returned
  cases stepped
  -- With `wake_up_` up the loop is about to be left; the other case is excluded.
  exact wakeUpInvariant_move invariant rfl rfl rfl rfl (by simp [returned])
    (by simp [returned, Pc.InsideSuspend]) (fun sleeps set => by simp [set, Pc.Sleeps] at sleeps)

theorem wakeUpInvariant_loopTest {before after : State Thread Fiber}
    (invariant : WakeUpInvariant before) (stepped : before.loopTest = some after) :
    WakeUpInvariant after := by
  unfold State.loopTest at stepped
  split at stepped <;> try contradiction
  rename_i locals readyFibers wakeUp testing
  split at stepped
  · cases stepped
    exact wakeUpInvariant_move invariant rfl rfl rfl rfl (by simp [testing])
      (by simp [testing, Pc.InsideSuspend]) (fun sleeps => sleeps.elim)
  · rename_i stay
    cases stepped
    have down : wakeUp = false := by
      cases wakeUp with
      | false => rfl
      | true => simp at stay
    exact wakeUpInvariant_move invariant rfl rfl rfl rfl (by simp [testing])
      (by simp [testing, Pc.InsideSuspend])
      (fun _ _ => .inr ⟨by simp [testing, down, Pc.Sleeps], rfl⟩)

theorem wakeUpInvariant_stopTimer {before after : State Thread Fiber}
    (invariant : WakeUpInvariant before) (stepped : before.stopTimer = some after) :
    WakeUpInvariant after := by
  unfold State.stopTimer at stepped
  split at stepped <;> try contradiction
  rename_i leaving
  split at stepped <;> cases stepped <;>
    exact wakeUpInvariant_move invariant rfl rfl rfl rfl (by simp [leaving])
      (by simp [leaving, Pc.InsideSuspend]) (fun sleeps => sleeps.elim)

theorem wakeUpInvariant_suspendExit {before after : State Thread Fiber}
    (stepped : before.suspendExit = some after) : WakeUpInvariant after := by
  unfold State.suspendExit at stepped
  split at stepped <;> try contradiction
  all_goals
    cases stepped
    exact ⟨by simp [Pc.InsideSuspend], fun _ => .inl rfl, fun sleeps => sleeps.elim⟩

variable [DecidableEq Thread]

/-- One step, of any thread, keeps the invariant. -/
theorem wakeUpInvariant_step {before after : State Thread Fiber}
    {action : Action Thread Fiber} (invariant : WakeUpInvariant before)
    (stepped : before.step action = some after) : WakeUpInvariant after := by
  cases action with
  | push thread fiber => exact wakeUpInvariant_push invariant stepped
  | updateNotify thread => exact wakeUpInvariant_updateNotify invariant stepped
  | endNotify thread => exact wakeUpInvariant_endNotify invariant stepped
  | drain => exact wakeUpInvariant_drain invariant stepped
  | pickNext absTime => exact wakeUpInvariant_pickNext invariant stepped
  | awakened fiber => exact wakeUpInvariant_awakened invariant stepped
  | yield => exact wakeUpInvariant_yield invariant stepped
  | suspendEnter => exact wakeUpInvariant_suspendEnter invariant stepped
  | setTimer now => exact wakeUpInvariant_setTimer invariant stepped
  | timerFires => exact wakeUpInvariant_timerFires invariant stepped
  | uvRunReturns consumes => exact wakeUpInvariant_uvRunReturns invariant stepped
  | shouldWakeUp => exact wakeUpInvariant_shouldWakeUp invariant stepped
  | loopTest => exact wakeUpInvariant_loopTest invariant stepped
  | stopTimer => exact wakeUpInvariant_stopTimer invariant stepped
  | suspendExit => exact wakeUpInvariant_suspendExit stepped

theorem wakeUpInvariant_reachable {state : State Thread Fiber}
    (reachable : (machine Thread Fiber).Reachable Machine.AnyStep state) :
    WakeUpInvariant state :=
  reachable.invariant (fun _ initial => initial ▸ wakeUpInvariant_initial)
    (fun _ _ _ invariant _ stepped => wakeUpInvariant_step invariant stepped)

/-! ## No lost wake-up -/

/-- While the dispatcher is inside `uv_run` with no async send pending and
every notifier outside its push-and-notify, nothing waits on the remote-ready
queue. -/
theorem remote_empty_while_asleep {state : State Thread Fiber}
    (reachable : (machine Thread Fiber).Reachable Machine.AnyStep state) {locals : Locals}
    (inside : state.pc = .uvRun locals) (noSend : state.asyncPending = false)
    (settled : ∀ thread, state.notifier thread = .idle) : state.remote = [] := by
  have invariant := wakeUpInvariant_reachable reachable
  by_contra nonempty
  have set : state.wakeUp = true := by
    rcases invariant.announced nonempty with draining | set | ⟨thread, pushed⟩
    · simp [inside] at draining
    · exact set
    · simp [settled thread] at pushed
  have sleeps : state.pc.Sleeps := by simp [inside, Pc.Sleeps]
  rcases invariant.signalled sleeps set with pending | ⟨thread, sending⟩
  · simp [noSend] at pending
  · simp [settled thread] at sending

/-- A notification before the first suspension: the fiber is drained and run,
the stale `wake_up_` costs one direct return, and the dispatcher then sleeps
with nothing left behind. -/
theorem remote_empty_after_early_notify :
    ∃ state : State (Fin 2) Nat,
      (machine (Fin 2) Nat).Reachable Machine.AnyStep state ∧
        state.pc = .uvRun ⟨1, false, false⟩ ∧ state.remote = [] := by
  have reachable := Machine.Reachable.exec (.start rfl) (Machine.along_anyStep _ _)
    (rfl : (machine (Fin 2) Nat).exec initial
      [.push 0 7, .updateNotify 0, .endNotify 0, .drain, .pickNext maxTime, .yield, .drain,
        .pickNext maxTime, .suspendEnter, .suspendExit, .drain, .pickNext maxTime,
        .suspendEnter, .setTimer 0] = some _)
  exact ⟨_, reachable, rfl, remote_empty_while_asleep reachable rfl rfl (by decide)⟩

end Fiberio.Scheduler
