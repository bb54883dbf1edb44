import Mathlib.Data.Fintype.Sum
import Fiberio.Scheduler.Model
import Fiberio.World.Model

/-!
Owns one thread of a program that uses the library, as a whole: the scheduler
(`src/scheduler.cpp`), the sockets and server sockets of the thread, and the
fibers that share it. `use_on_this_thread` (`src/fiberio.cpp`) puts the
scheduler under Boost.Fiber.

The fiber that `pick_next` handed out runs alone, in calls of the library or
outside. libuv's callbacks run inside `uv_run`. A promise that is set and a
`notify_all` pass each fiber that they wake to `awakened`, in the breath of the
step that does it; the order among several is Boost.Fiber's. A fiber that is
suspended outside the library, or not started, comes back through the running
fiber, through another thread or, from sleep, through the dispatcher.

Does not own what the scheduler, a socket or a server socket does in a step.
-/

namespace Fiberio

/-! ## Fibers as the scheduler sees them -/

/-- The fiber is suspended and nothing has woken it. -/
def Socket.Fiber.sleeps : Socket.Fiber → Bool
  | .waitRead notified _ => !notified
  | .wait _ _ .unset => true
  | .wait _ _ (.set _) | .idle _ => false

/-- The fiber is suspended and nothing has woken it. -/
def Server.Fiber.sleeps {Sock : Type} : Server.Fiber Sock → Bool
  | .waitAccept notified => !notified
  | .wait _ _ .unset => true
  | .wait _ _ (.set _) | .idle _ | .unwinding _ _ => false

/-- The fiber is suspended in a call of the server socket. One that is
`unwinding` is not: it runs the destructor of a socket. -/
def Server.Fiber.isSuspended {Sock : Type} : Server.Fiber Sock → Bool
  | .waitAccept _ | .wait _ _ _ => true
  | .idle _ | .unwinding _ _ => false

/-- The fiber that executes the action; callbacks run on none. -/
def Socket.Action.actor {Fib : Type} : Socket.Action Fib → Option Fib
  | .connect fib _ | .read fib _ _ | .write fib _ _ | .close fib _ | .destroy fib _
  | .resume fib _ => some fib
  | .complete _ _ | .readCallback _ _ | .onHandleClosed => none

/-- The fiber that executes the action; callbacks run on none. -/
def Server.Action.actor {Fib Sock : Type} : Server.Action Fib Sock → Option Fib
  | .bind fib _ _ _ | .listen fib _ | .accept fib _ _ | .close fib | .destroy fib
  | .resume fib _ | .unwound fib => some fib
  | .complete _ _ | .connectionCallback _ | .onHandleClosed => none

namespace World

variable {Fib Sock Serv : Type}

namespace Object

def sleeps : (object : Object Sock Serv) → object.State Fib → Fib → Bool
  | .socket _, state, fib => (Socket.State.fiber state fib).sleeps
  | .server _, state, fib => (Server.State.fiber state fib).sleeps

def isIdle : (object : Object Sock Serv) → object.State Fib → Fib → Bool
  | .socket _, state, fib => (Socket.State.fiber state fib).isIdle
  | .server _, state, fib => (Server.State.fiber state fib).isIdle

/-- The fiber is suspended in a call of the object, woken or not. -/
def isSuspended : (object : Object Sock Serv) → object.State Fib → Fib → Bool
  | .socket _, state, fib => !(Socket.State.fiber state fib).isIdle
  | .server _, state, fib => (Server.State.fiber state fib).isSuspended

def actor : (object : Object Sock Serv) → object.Action Fib → Option Fib
  | .socket _, action => Socket.Action.actor action
  | .server _, action => Server.Action.actor action

instance [Fintype Sock] [Fintype Serv] : Fintype (Object Sock Serv) :=
  Fintype.ofEquiv (Sock ⊕ Serv)
    { toFun := Sum.elim .socket .server
      invFun := fun | .socket name => .inl name | .server name => .inr name
      left_inv := by rintro (name | name) <;> rfl
      right_inv := by rintro (name | name) <;> rfl }

end Object

variable [Fintype Sock] [Fintype Serv]

/-- The fiber is suspended in the library and nothing has woken it. -/
def asleep (states : State Fib Sock Serv) (fib : Fib) : Bool :=
  decide (∃ object : Object Sock Serv, object.sleeps (states object) fib = true)

/-- The fiber is in no call of the library. -/
def outside (states : State Fib Sock Serv) (fib : Fib) : Bool :=
  decide (∀ object : Object Sock Serv, object.isIdle (states object) fib = true)

end World

/-- A step that the dispatcher, the timer or a notifying thread takes by
itself. -/
def Scheduler.Action.internal {Thread Fiber : Type} : Scheduler.Action Thread Fiber → Bool
  | .push _ _ | .awakened _ | .yield => false
  | .updateNotify _ | .endNotify _ | .drain | .pickNext _ | .suspendEnter | .setTimer _
  | .timerFires | .uvRunReturns _ | .shouldWakeUp | .loopTest | .stopTimer | .suspendExit => true

/-- A fiber runs, or the dispatcher passes on the sleepers that are due. -/
def Scheduler.Pc.awakens {Fiber : Type} : Scheduler.Pc Fiber → Bool
  | .running _ | .pickNext => true
  | _ => false

/-- The dispatcher is inside `uv_run`. -/
def Scheduler.Pc.polls {Fiber : Type} : Scheduler.Pc Fiber → Bool
  | .uvRun _ => true
  | _ => false

namespace Runtime

open Fiberio.Foundation
open Fiberio.World (Object)

variable {Thread Fib Sock Serv : Type}

/-! ## State -/

structure State (Thread Fib Sock Serv : Type) where
  scheduler : Scheduler.State Thread Fib
  objects : World.State Fib Sock Serv

inductive Action (Thread Fib Sock Serv : Type) where
  | dispatch (action : Scheduler.Action Thread Fib)
  /-- A fiber or a callback takes a step in the library; `woken` are the fibers
  that it wakes, in the order in which they pass through `awakened`. -/
  | library (object : Object Sock Serv) (action : object.Action Fib) (woken : List Fib)
  /-- The running fiber gives the thread back: it waits in the library, waits
  for something else, or is over. -/
  | suspend
  /-- `boost::this_fiber::yield()`. -/
  | yield
  /-- The running fiber starts a fiber, or wakes one that waits outside the
  library; or the dispatcher finds that the time has come for one to wake. -/
  | ready (fib : Fib)
  /-- Another thread wakes a fiber that waits outside the library. -/
  | push (thread : Thread) (fib : Fib)

namespace State

def running (state : State Thread Fib Sock Serv) : Option Fib := state.scheduler.pc.fiber

variable [DecidableEq Thread] [DecidableEq Fib] [Fintype Fib] [DecidableEq Sock] [Fintype Sock]
  [DecidableEq Serv] [Fintype Serv]

/-- The fiber is neither in the library nor running nor ready. -/
def parked (state : State Thread Fib Sock Serv) (fib : Fib) : Bool :=
  World.outside state.objects fib && decide (state.running ≠ some fib) &&
    decide (fib ∉ state.scheduler.queue) && decide (fib ∉ state.scheduler.remote)

/-- The step of the library can happen now: its fiber has the thread and is
not suspended, or it is a callback and the thread is inside `uv_run`. -/
def hosts (state : State Thread Fib Sock Serv) (object : Object Sock Serv)
    (action : object.Action Fib) : Bool :=
  match object.actor action with
  | some fib => decide (state.running = some fib) && !World.asleep state.objects fib
  | none => state.scheduler.pc.polls

/-- The fibers that a step of an object wakes. -/
def wakes (object : Object Sock Serv) (before after : object.State Fib) (fib : Fib) : Bool :=
  object.sleeps before fib && !object.sleeps after fib

/-- The scheduler takes a number of steps, and the objects change. -/
def schedule (state : State Thread Fib Sock Serv) (actions : List (Scheduler.Action Thread Fib))
    (objects : World.State Fib Sock Serv) : Option (State Thread Fib Sock Serv) :=
  ((Scheduler.machine Thread Fib).exec state.scheduler actions).map fun scheduler =>
    ⟨scheduler, objects⟩

def library (state : State Thread Fib Sock Serv) (object : Object Sock Serv)
    (action : object.Action Fib) (woken : List Fib) : Option (State Thread Fib Sock Serv) :=
  ((World.machine Fib Sock Serv).step state.objects ⟨object, action⟩).bind fun objects =>
    if woken.Nodup ∧ ∀ fib, fib ∈ woken ↔
        wakes object (state.objects object) (objects object) fib = true then
      state.schedule (woken.map .awakened) objects
    else none

def suspend (state : State Thread Fib Sock Serv) : Option (State Thread Fib Sock Serv) :=
  match state.running with
  | some fib =>
      if World.asleep state.objects fib || World.outside state.objects fib then
        state.schedule [.yield] state.objects
      else none
  | none => none

def yield (state : State Thread Fib Sock Serv) : Option (State Thread Fib Sock Serv) :=
  match state.running with
  | some fib =>
      if World.outside state.objects fib then
        state.schedule [.awakened fib, .yield] state.objects
      else none
  | none => none

/-- Nothing runs after an exception has left a destructor. -/
def step (state : State Thread Fib Sock Serv) (action : Action Thread Fib Sock Serv) :
    Option (State Thread Fib Sock Serv) :=
  if World.running state.objects then
    match action with
    | .dispatch action =>
        if action.internal then state.schedule [action] state.objects else none
    | .library object action woken =>
        if state.hosts object action then state.library object action woken else none
    | .suspend => state.suspend
    | .yield => state.yield
    | .ready fib =>
        if state.scheduler.pc.awakens && state.parked fib then
          state.schedule [.awakened fib] state.objects
        else none
    | .push thread fib =>
        if state.parked fib then state.schedule [.push thread fib] state.objects else none
  else none

end State

/-! ## The system -/

variable [DecidableEq Thread] [DecidableEq Fib] [Fintype Fib] [DecidableEq Sock] [Fintype Sock]
  [DecidableEq Serv] [Fintype Serv]

/-- The thread with everything that it runs, interleaved with the threads that
wake its fibers. -/
def machine (Thread Fib Sock Serv : Type) [DecidableEq Thread] [DecidableEq Fib] [Fintype Fib]
    [DecidableEq Sock] [Fintype Sock] [DecidableEq Serv] [Fintype Serv] :
    Machine (State Thread Fib Sock Serv) (Action Thread Fib Sock Serv) where
  Init := fun state => state.scheduler = Scheduler.initial ∧
    (World.machine Fib Sock Serv).Init state.objects
  step := State.step

/-! ## What the parts see -/

variable {state after : State Thread Fib Sock Serv}
  {allowed : State Thread Fib Sock Serv → Action Thread Fib Sock Serv → Prop}

omit [DecidableEq Fib] [Fintype Fib] [DecidableEq Sock] [Fintype Sock] [DecidableEq Serv]
  [Fintype Serv] in
theorem schedule_eq_some {actions : List (Scheduler.Action Thread Fib)}
    {objects : World.State Fib Sock Serv} :
    state.schedule actions objects = some after ↔
      (Scheduler.machine Thread Fib).exec state.scheduler actions = some after.scheduler ∧
        after.objects = objects := by
  unfold State.schedule
  rw [Option.map_eq_some_iff]
  constructor
  · rintro ⟨scheduler, run, rfl⟩
    exact ⟨run, rfl⟩
  · rintro ⟨run, rfl⟩
    exact ⟨after.scheduler, run, rfl⟩

/-- Everything one step can do. -/
inductive Step (state after : State Thread Fib Sock Serv) :
    Action Thread Fib Sock Serv → Prop where
  | dispatch {action : Scheduler.Action Thread Fib} (internal : action.internal = true)
      (stepped : (Scheduler.machine Thread Fib).step state.scheduler action = some after.scheduler)
      (same : after.objects = state.objects) : Step state after (.dispatch action)
  | library {object : Object Sock Serv} {action : object.Action Fib} {woken : List Fib}
      (hosted : state.hosts object action = true)
      (stepped : (World.machine Fib Sock Serv).step state.objects ⟨object, action⟩ =
        some after.objects)
      (distinct : woken.Nodup)
      (wakes : ∀ fib, fib ∈ woken ↔
        State.wakes object (state.objects object) (after.objects object) fib = true)
      (run : (Scheduler.machine Thread Fib).exec state.scheduler (woken.map .awakened) =
        some after.scheduler) : Step state after (.library object action woken)
  | suspend {fib : Fib} (runs : state.running = some fib)
      (waits : World.asleep state.objects fib = true ∨ World.outside state.objects fib = true)
      (stepped : (Scheduler.machine Thread Fib).step state.scheduler .yield = some after.scheduler)
      (same : after.objects = state.objects) : Step state after .suspend
  | yield {fib : Fib} (runs : state.running = some fib)
      (outside : World.outside state.objects fib = true)
      (run : (Scheduler.machine Thread Fib).exec state.scheduler [.awakened fib, .yield] =
        some after.scheduler)
      (same : after.objects = state.objects) : Step state after .yield
  | ready {fib : Fib} (awakens : state.scheduler.pc.awakens = true)
      (parked : state.parked fib = true)
      (stepped : (Scheduler.machine Thread Fib).step state.scheduler (.awakened fib) =
        some after.scheduler)
      (same : after.objects = state.objects) : Step state after (.ready fib)
  | push {thread : Thread} {fib : Fib} (parked : state.parked fib = true)
      (stepped : (Scheduler.machine Thread Fib).step state.scheduler (.push thread fib) =
        some after.scheduler)
      (same : after.objects = state.objects) : Step state after (.push thread fib)

theorem step_inversion {action : Action Thread Fib Sock Serv}
    (stepped : (machine Thread Fib Sock Serv).step state action = some after) :
    Step state after action := by
  obtain ⟨_, stepped⟩ := Option.ite_none_right_eq_some.mp stepped
  cases action with
  | dispatch action =>
      obtain ⟨internal, scheduled⟩ := Option.ite_none_right_eq_some.mp stepped
      obtain ⟨run, same⟩ := schedule_eq_some.mp scheduled
      exact .dispatch internal (Machine.exec_singleton_iff.mp run) same
  | library object action woken =>
      obtain ⟨hosted, taken⟩ := Option.ite_none_right_eq_some.mp stepped
      obtain ⟨objects, moved, taken⟩ := Option.bind_eq_some_iff.mp taken
      obtain ⟨⟨distinct, wakes⟩, scheduled⟩ := Option.ite_none_right_eq_some.mp taken
      obtain ⟨run, rfl⟩ := schedule_eq_some.mp scheduled
      exact .library hosted moved distinct wakes run
  | suspend =>
      simp only [State.suspend] at stepped
      split at stepped
      · rename_i fib runs
        obtain ⟨waits, scheduled⟩ := Option.ite_none_right_eq_some.mp stepped
        obtain ⟨run, same⟩ := schedule_eq_some.mp scheduled
        exact .suspend runs (by simpa using waits) (Machine.exec_singleton_iff.mp run) same
      · cases stepped
  | yield =>
      simp only [State.yield] at stepped
      split at stepped
      · rename_i fib runs
        obtain ⟨outside, scheduled⟩ := Option.ite_none_right_eq_some.mp stepped
        obtain ⟨run, same⟩ := schedule_eq_some.mp scheduled
        exact .yield runs outside run same
      · cases stepped
  | ready fib =>
      obtain ⟨guard, scheduled⟩ := Option.ite_none_right_eq_some.mp stepped
      obtain ⟨awakens, parked⟩ := Bool.and_eq_true_iff.mp guard
      obtain ⟨run, same⟩ := schedule_eq_some.mp scheduled
      exact .ready awakens parked (Machine.exec_singleton_iff.mp run) same
  | push thread fib =>
      obtain ⟨parked, scheduled⟩ := Option.ite_none_right_eq_some.mp stepped
      obtain ⟨run, same⟩ := schedule_eq_some.mp scheduled
      exact .push parked (Machine.exec_singleton_iff.mp run) same

/-- The scheduler of the thread takes its own steps. -/
theorem Step.scheduler {action : Action Thread Fib Sock Serv} (step : Step state after action) :
    ∃ actions, (Scheduler.machine Thread Fib).exec state.scheduler actions =
      some after.scheduler := by
  cases step with
  | dispatch internal stepped same => exact ⟨_, Machine.exec_singleton_iff.mpr stepped⟩
  | library hosted stepped distinct wakes run => exact ⟨_, run⟩
  | suspend runs waits stepped same => exact ⟨_, Machine.exec_singleton_iff.mpr stepped⟩
  | yield runs outside run same => exact ⟨_, run⟩
  | ready runs parked stepped same => exact ⟨_, Machine.exec_singleton_iff.mpr stepped⟩
  | push parked stepped same => exact ⟨_, Machine.exec_singleton_iff.mpr stepped⟩

/-- A run of the thread, seen from its scheduler. -/
theorem scheduler_reachable
    (reachable : (machine Thread Fib Sock Serv).Reachable allowed state) :
    (Scheduler.machine Thread Fib).Reachable Machine.AnyStep state.scheduler := by
  apply reachable.invariant
  · rintro state ⟨begun, _⟩
    rw [begun]
    exact .start rfl
  · intro before action after earlier _ stepped
    obtain ⟨actions, run⟩ := (step_inversion stepped).scheduler
    exact earlier.exec (Machine.along_anyStep _ _) run

/-- A run of the thread, seen from the sockets and server sockets: whatever
holds of the library in every order of steps holds under the scheduler. -/
theorem objects_reachable
    (reachable : (machine Thread Fib Sock Serv).Reachable allowed state) :
    (World.machine Fib Sock Serv).Reachable Machine.AnyStep state.objects := by
  apply reachable.invariant
  · rintro state ⟨_, begun⟩
    exact .start begun
  · intro before action after earlier _ stepped
    cases step_inversion stepped with
    | library hosted moved distinct wakes run => exact .next earlier trivial moved
    | dispatch _ _ same | suspend _ _ _ same | yield _ _ _ same | ready _ _ _ same
    | push _ _ same =>
        rw [same]
        exact earlier

end Runtime

end Fiberio
