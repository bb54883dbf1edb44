import Mathlib.Algebra.Ring.Int.Defs
import Mathlib.Algebra.Ring.Nat
import Fiberio.Foundation.Machine

/-!
Owns the embedding of `fiberio::scheduler` (`src/scheduler.cpp`): the ready
queue, the two flags behind the mutex, `suspend_until` with its timer, and
`notify` from other threads. One dispatcher thread drains the remote-ready
queue, calls `pick_next`, and suspends when nothing is ready; any number of
other threads push a fiber on the remote-ready queue and then call `notify`.

Every mutex-protected body is one step, and `uv_async_send` in `notify` is a
later step than `update_notify`. Callbacks run inside `uv_run`, and `awakened`
there, in a running fiber, or in the dispatcher when a sleeper is due. The
clock, the expiry of the timer and the return of `uv_run` are chosen by the
environment.

Does not own what a resumed fiber computes, nor the delay after which libuv
fires a timer.
-/

namespace Fiberio.Scheduler

open Fiberio.Foundation

/-! ## Deadlines -/

/-- `std::chrono::steady_clock::time_point`, in nanoseconds. -/
abbrev TimePoint := Int

/-- `std::chrono::steady_clock::time_point::max()`. -/
def maxTime : TimePoint := 2 ^ 63 - 1

/-- `milliseconds_until`, with the clock reading passed in. -/
def millisecondsUntil (now absTime : TimePoint) : Nat :=
  if absTime ≤ now then 0 else ((absTime - now) / 1000000).toNat + 1

def isMaxTime (absTime : TimePoint) : Bool := absTime == maxTime

/-! ## State -/

/-- The locals of one `suspend_until` call that outlive its first lines.
`call` stands for the address of its `timer_done` variable. -/
structure Locals where
  call : Nat
  timerSet : Bool
  timerDone : Bool
deriving DecidableEq, Repr

/-- Where the dispatcher thread is. -/
inductive Pc (Fiber : Type) where
  | drain
  | pickNext
  | running (fiber : Fiber)
  | suspendEnter (absTime : TimePoint)
  | wakeUpDirectly
  | setTimer (absTime : TimePoint) (call : Nat)
  | uvRun (locals : Locals)
  | shouldWakeUp (locals : Locals)
  | loopTest (locals : Locals) (readyFibers wakeUp : Bool)
  | stopTimer (locals : Locals)
  | suspendExit
deriving DecidableEq, Repr

/-- The fiber that runs. -/
def Pc.fiber {Fiber : Type} : Pc Fiber → Option Fiber
  | .running fiber => some fiber
  | _ => none

/-- Where a notifying thread is: `pushed` between its push and
`update_notify`, `notifying` between `update_notify` and the end of
`notify`, with the local `suspended`. -/
inductive Notifier where
  | idle
  | pushed
  | notifying (suspended : Bool)
deriving DecidableEq, Repr

/-- What happened, oldest first. -/
inductive Event (Thread : Type) where
  | updateNotify (thread : Thread)
  | timerStart (call milliseconds : Nat)
  | timerFired (call : Nat)
  | timerStop (call : Nat)
  | suspendExit
deriving DecidableEq, Repr

structure State (Thread Fiber : Type) where
  /-- `queue_` -/
  queue : List Fiber
  /-- `wake_up_` -/
  wakeUp : Bool
  /-- `suspended_` -/
  suspended : Bool
  /-- Boost.Fiber's remote-ready queue of this scheduler. -/
  remote : List Fiber
  /-- An `uv_async_send` that no `uv_run` has consumed. -/
  asyncPending : Bool
  timerActive : Bool
  /-- The data pointer of the timer: the call that owns the flag it points to. -/
  timerData : Option Nat
  /-- Number of `suspend_until` calls made so far. -/
  calls : Nat
  pc : Pc Fiber
  notifier : Thread → Notifier
  log : List (Event Thread)
  /-- A callback wrote through a pointer to a variable that is gone. -/
  fault : Bool

inductive Action (Thread Fiber : Type) where
  | push (thread : Thread) (fiber : Fiber)
  | updateNotify (thread : Thread)
  | endNotify (thread : Thread)
  | drain
  | pickNext (absTime : TimePoint)
  | awakened (fiber : Fiber)
  | yield
  | suspendEnter
  | setTimer (now : TimePoint)
  | timerFires
  | uvRunReturns (consumes : Bool)
  | shouldWakeUp
  | loopTest
  | stopTimer
  | suspendExit
deriving DecidableEq, Repr

/-- `scheduler::scheduler()` on a fresh loop. -/
def initial {Thread Fiber : Type} : State Thread Fiber where
  queue := []
  wakeUp := false
  suspended := false
  remote := []
  asyncPending := false
  timerActive := false
  timerData := none
  calls := 0
  pc := .drain
  notifier := fun _ => .idle
  log := []
  fault := false

namespace State

variable {Thread Fiber : Type} [DecidableEq Thread]

/-! ## `notify`, on another thread -/

def setNotifier (state : State Thread Fiber) (thread : Thread) (value : Notifier) :
    State Thread Fiber :=
  { state with notifier := Function.update state.notifier thread value }

/-- The push that Boost.Fiber makes before it calls `notify`. -/
def push (state : State Thread Fiber) (thread : Thread) (fiber : Fiber) :
    Option (State Thread Fiber) :=
  match state.notifier thread with
  | .idle => some { state.setNotifier thread .pushed with remote := state.remote ++ [fiber] }
  | _ => none

/-- `update_notify`: sets `wake_up_` and answers `suspended_`. -/
def updateNotify (state : State Thread Fiber) (thread : Thread) :
    Option (State Thread Fiber) :=
  match state.notifier thread with
  | .pushed => some
      { state.setNotifier thread (.notifying state.suspended) with
        wakeUp := true
        log := state.log ++ [.updateNotify thread] }
  | _ => none

/-- The rest of `notify`: `uv_async_send` if the scheduler was suspended. -/
def endNotify (state : State Thread Fiber) (thread : Thread) : Option (State Thread Fiber) :=
  match state.notifier thread with
  | .notifying suspended => some
      { state.setNotifier thread .idle with
        asyncPending := suspended || state.asyncPending }
  | _ => none

/-! ## The dispatcher thread -/

/-- Every fiber of the remote-ready queue goes through `awakened`. -/
def drain (state : State Thread Fiber) : Option (State Thread Fiber) :=
  match state.pc with
  | .drain => some
      { state with queue := state.queue ++ state.remote, remote := [], pc := .pickNext }
  | _ => none

/-- `pick_next`; with nothing to run the dispatcher calls `suspend_until`. -/
def pickNext (state : State Thread Fiber) (absTime : TimePoint) :
    Option (State Thread Fiber) :=
  match state.pc with
  | .pickNext =>
      match state.queue with
      | [] => some { state with pc := .suspendEnter absTime }
      | fiber :: rest => some { state with queue := rest, pc := .running fiber }
  | _ => none

/-- `awakened`, from a running fiber or from a callback inside `uv_run`. Before
it calls `pick_next`, the dispatcher passes on the sleepers that are due. -/
def awakened (state : State Thread Fiber) (fiber : Fiber) : Option (State Thread Fiber) :=
  match state.pc with
  | .running _ | .uvRun _ | .pickNext => some { state with queue := state.queue ++ [fiber] }
  | _ => none

/-- The running fiber gives the thread back. -/
def yield (state : State Thread Fiber) : Option (State Thread Fiber) :=
  match state.pc with
  | .running _ => some { state with pc := .drain }
  | _ => none

/-- `suspend_enter`, and the branch on its answer. -/
def suspendEnter (state : State Thread Fiber) : Option (State Thread Fiber) :=
  match state.pc with
  | .suspendEnter absTime => some
      { state with
        suspended := true
        calls := state.calls + 1
        pc := if state.wakeUp then .wakeUpDirectly else .setTimer absTime state.calls }
  | _ => none

/-- The timer is armed unless the deadline is `time_point::max()`. -/
def setTimer (state : State Thread Fiber) (now : TimePoint) : Option (State Thread Fiber) :=
  match state.pc with
  | .setTimer absTime call =>
      if isMaxTime absTime then
        some { state with pc := .uvRun ⟨call, false, false⟩ }
      else
        some
          { state with
            timerActive := true
            timerData := some call
            log := state.log ++ [.timerStart call (max 1 (millisecondsUntil now absTime))]
            pc := .uvRun ⟨call, true, false⟩ }
  | _ => none

/-- `suspend_timer_callback`. The timer has repeat 0, so it is inactive after
it fired; the callback also sends the async signal. -/
def timerFires (state : State Thread Fiber) : Option (State Thread Fiber) :=
  match state.pc with
  | .uvRun locals =>
      if state.timerActive then
        let fired := { state with timerActive := false, asyncPending := true }
        if state.timerData = some locals.call then
          some
            { fired with
              pc := .uvRun { locals with timerDone := true }
              log := state.log ++ [.timerFired locals.call] }
        else
          some { fired with fault := true }
      else
        none
  | _ => none

/-- `uv_run(UV_RUN_ONCE)` may return at any time. A return consumes every
pending send, except when the send came too late for its poll. -/
def uvRunReturns (state : State Thread Fiber) (consumes : Bool) :
    Option (State Thread Fiber) :=
  match state.pc with
  | .uvRun locals => some
      { state with
        asyncPending := if consumes then false else state.asyncPending
        pc := .shouldWakeUp locals }
  | _ => none

/-- `ready_fibers = !queue_.empty()` and `should_wake_up`. -/
def shouldWakeUp (state : State Thread Fiber) : Option (State Thread Fiber) :=
  match state.pc with
  | .shouldWakeUp locals =>
      some { state with pc := .loopTest locals (!state.queue.isEmpty) state.wakeUp }
  | _ => none

/-- The exit test of the loop. -/
def loopTest (state : State Thread Fiber) : Option (State Thread Fiber) :=
  match state.pc with
  | .loopTest locals readyFibers wakeUp =>
      if readyFibers || locals.timerDone || wakeUp then
        some { state with pc := .stopTimer locals }
      else
        some { state with pc := .uvRun locals }
  | _ => none

/-- `uv_timer_stop` if the timer was set and has not fired. -/
def stopTimer (state : State Thread Fiber) : Option (State Thread Fiber) :=
  match state.pc with
  | .stopTimer locals =>
      if locals.timerSet && !locals.timerDone then
        some
          { state with
            timerActive := false
            log := state.log ++ [.timerStop locals.call]
            pc := .suspendExit }
      else
        some { state with pc := .suspendExit }
  | _ => none

/-- `suspend_exit`, reached from the loop or directly from `suspend_enter`. -/
def suspendExit (state : State Thread Fiber) : Option (State Thread Fiber) :=
  match state.pc with
  | .suspendExit | .wakeUpDirectly => some
      { state with
        wakeUp := false
        suspended := false
        log := state.log ++ [.suspendExit]
        pc := .drain }
  | _ => none

def step (state : State Thread Fiber) : Action Thread Fiber → Option (State Thread Fiber)
  | .push thread fiber => state.push thread fiber
  | .updateNotify thread => state.updateNotify thread
  | .endNotify thread => state.endNotify thread
  | .drain => state.drain
  | .pickNext absTime => state.pickNext absTime
  | .awakened fiber => state.awakened fiber
  | .yield => state.yield
  | .suspendEnter => state.suspendEnter
  | .setTimer now => state.setTimer now
  | .timerFires => state.timerFires
  | .uvRunReturns consumes => state.uvRunReturns consumes
  | .shouldWakeUp => state.shouldWakeUp
  | .loopTest => state.loopTest
  | .stopTimer => state.stopTimer
  | .suspendExit => state.suspendExit

end State

/-- The dispatcher, its notifiers and libuv's loop, interleaved. -/
def machine (Thread Fiber : Type) [DecidableEq Thread] :
    Machine (State Thread Fiber) (Action Thread Fiber) where
  Init := fun state => state = initial
  step := State.step

end Fiberio.Scheduler
