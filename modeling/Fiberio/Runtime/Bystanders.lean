import Fiberio.Runtime.Model
import Fiberio.Socket.Ownership
import Fiberio.Server.Ownership

/-!
Owns what a step of a socket or a server socket does to the fibers that do not
execute it. It may wake them, and it does nothing else to them: only a fiber
itself enters the library, leaves it or goes to sleep in it.

Does not own what the step does to the fiber that executes it.
-/

namespace Fiberio

open Fiberio.Foundation

/-! ## A fiber at which a step passes by -/

section Spared

variable {Fib Fiber : Type} {isIdle isSuspended sleeps : Fiber → Bool}

/-- A step has at most woken the fiber. -/
structure Runtime.Spared (isIdle isSuspended sleeps : Fiber → Bool) (before after : Fiber) :
    Prop where
  idle : isIdle after = isIdle before
  suspended : isSuspended after = isSuspended before
  awake : sleeps after = true → sleeps before = true

theorem Runtime.Spared.refl (fiber : Fiber) :
    Runtime.Spared isIdle isSuspended sleeps fiber fiber := ⟨rfl, rfl, id⟩

/-- The fibers after a step of `mover`: its own entry is new, and the step has
notified the others or has not. -/
theorem Runtime.Spared.bystander [DecidableEq Fib] {fibers others later : Fib → Fiber}
    {fib mover : Fib} {value : Fiber} {actor : Option Fib} {notify : Fiber → Fiber}
    (notified : ∀ fiber, Runtime.Spared isIdle isSuspended sleeps fiber (notify fiber))
    (executes : actor = some mover) (other : actor ≠ some fib)
    (moved : later = Function.update others mover value)
    (rest : others = fibers ∨ others = fun other => notify (fibers other)) :
    Runtime.Spared isIdle isSuspended sleeps (fibers fib) (later fib) := by
  have apart : fib ≠ mover := by
    rintro rfl
    exact other executes
  rw [moved, Function.update_of_ne apart]
  rcases rest with rfl | rfl
  · exact .refl _
  · exact notified _

/-- A callback hands a fiber its answer. -/
theorem Runtime.Spared.answer [DecidableEq Fib] {fibers : Fib → Fiber} {fib owner : Fib}
    {value : Fiber} (idle : isIdle value = isIdle (fibers owner))
    (suspended : isSuspended value = isSuspended (fibers owner)) (awake : sleeps value = false) :
    Runtime.Spared isIdle isSuspended sleeps (fibers fib)
      (Function.update fibers owner value fib) := by
  by_cases same : owner = fib
  · subst same
    rw [Function.update_self]
    refine ⟨idle, suspended, fun asleep => ?_⟩
    exact absurd (awake.symm.trans asleep) (by decide)
  · rw [Function.update_of_ne (Ne.symm same)]
    exact .refl _

end Spared

/-! ## Sockets -/

namespace Socket

variable {Fib : Type}

theorem Fiber.notify_spared (fiber : Fiber) :
    Runtime.Spared Fiber.isIdle (!Fiber.isIdle ·) Fiber.sleeps fiber fiber.notify := by
  cases fiber with
  | idle last => exact .refl _
  | waitRead notified call => exact ⟨rfl, rfl, fun asleep => by cases asleep⟩
  | wait waiting serial promise => exact .refl _

variable {state after entered : State Fib} {fib mover : Fib} {action : Action Fib}

theorem Runs.actor (runs : Runs state mover action) : action.actor = some mover := by
  rcases runs with called | ⟨_, status, rfl⟩
  · cases action <;> first | exact called | cases called
  · rfl

theorem ReadEntry.actor {status : Int} {call : ReadCall}
    (entry : ReadEntry state mover action status call entered) : action.actor = some mover := by
  cases entry <;> rfl

theorem ReadEntry.fiber {status : Int} {call : ReadCall}
    (entry : ReadEntry state mover action status call entered) : entered.fiber = state.fiber := by
  cases entry <;> rfl

theorem CloseEntry.actor {status : Int} {closer : Closer}
    (entry : CloseEntry state mover action status closer entered) :
    action.actor = some mover := by
  cases entry <;> rfl

theorem CloseEntry.fiber {status : Int} {closer : Closer}
    (entry : CloseEntry state mover action status closer entered) :
    entered.fiber = state.fiber := by
  cases entry <;> rfl

variable [DecidableEq Fib]

theorem closeThrew_fiber (state : State Fib) (fib : Fib) (closer : Closer) (exc : Exc) :
    ∃ value, (state.closeThrew fib closer exc).fiber = Function.update state.fiber fib value := by
  cases closer with
  | user => exact ⟨_, rfl⟩
  | eof call => exact ⟨_, rfl⟩
  | destructor => exact ⟨state.fiber fib, (Function.update_eq_self _ _).symm⟩

theorem Transition.spares (transition : Transition state action after)
    (other : action.actor ≠ some fib) :
    Runtime.Spared Fiber.isIdle (!Fiber.isIdle ·) Fiber.sleeps (state.fiber fib)
      (after.fiber fib) := by
  cases transition with
  | ends events unbound counted refusal quiet empty thrown runs =>
      exact .bystander Fiber.notify_spared runs.actor other rfl (.inl rfl)
  | resolves idle isOpen => exact .bystander Fiber.notify_spared rfl other rfl (.inl rfl)
  | connects resolved => exact .bystander Fiber.notify_spared rfl other rfl (.inl rfl)
  | writes idle isOpen accepted => exact .bystander Fiber.notify_spared rfl other rfl (.inl rfl)
  | admits entry isOpen free nonnull =>
      exact .bystander Fiber.notify_spared entry.actor other rfl (.inl entry.fiber)
  | rejects entry isOpen free failed =>
      exact .bystander Fiber.notify_spared entry.actor other rfl (.inl entry.fiber)
  | readsNull entry isOpen free null =>
      exact .bystander Fiber.notify_spared entry.actor other rfl (.inl entry.fiber)
  | waitsAgain woken unfinished isOpen =>
      exact .bystander Fiber.notify_spared rfl other rfl (.inl rfl)
  | readFails woken finished failed => exact .bystander Fiber.notify_spared rfl other rfl (.inl rfl)
  | readReturns ends last => exact .bystander Fiber.notify_spared rfl other rfl (.inl rfl)
  | readStops ends closed => exact .bystander Fiber.notify_spared rfl other rfl (.inl rfl)
  | shutsDown entry isOpen accepted =>
      exact .bystander Fiber.notify_spared entry.actor other rfl (.inl entry.fiber)
  | closesAtOnce entry isOpen gone =>
      exact .bystander Fiber.notify_spared entry.actor other rfl (.inl entry.fiber)
  | @closeFails mover action status closer entered exc entry isOpen failed notGone =>
      obtain ⟨value, moved⟩ :=
        closeThrew_fiber { entered.emit .uvShutdown with closed := true } mover closer exc
      exact .bystander Fiber.notify_spared entry.actor other moved (.inl entry.fiber)
  | closes shut survived => exact .bystander Fiber.notify_spared rfl other rfl (.inl rfl)
  | @shutdownFails mover closer serial exc status shut notGone =>
      obtain ⟨value, moved⟩ := closeThrew_fiber state mover closer exc
      exact .bystander Fiber.notify_spared rfl other moved (.inl rfl)
  | closeReturnsToUser ran => exact .bystander Fiber.notify_spared rfl other rfl (.inr rfl)
  | closeReturnsToDestructor ran => exact .bystander Fiber.notify_spared rfl other rfl (.inr rfl)
  | closeReturnsToRead ran closed last =>
      exact .bystander Fiber.notify_spared rfl other rfl (.inr rfl)
  | closeStopsRead ran closed => exact .bystander Fiber.notify_spared rfl other rfl (.inr rfl)
  | destroysClosed idle closed => exact .bystander Fiber.notify_spared rfl other rfl (.inl rfl)
  | completes registered issued awaits =>
      exact .answer (by rw [awaits]; rfl) (by rw [awaits]; rfl) rfl
  | delivers watching deliverable code => exact (state.fiber fib).notify_spared
  | handleCloses closing pending answered awaits =>
      exact .answer (by rw [awaits]; rfl) (by rw [awaits]; rfl) rfl

/-- A fiber that goes on was inside. -/
theorem inside_of_resume [Fintype Fib] {status : Int}
    (stepped : (machine Fib).step state (.resume fib status) = some after) :
    (state.fiber fib).isIdle = false := by
  have resumed : state.resume fib status = some after :=
    (Option.ite_none_left_eq_some.mp stepped).2
  unfold State.resume at resumed
  split at resumed
  · simp [*, Fiber.isIdle]
  · simp [*, Fiber.isIdle]
  · cases resumed

end Socket

/-! ## Server sockets -/

namespace Server

variable {Fib Sock : Type}

theorem Fiber.notify_spared (fiber : Fiber Sock) :
    Runtime.Spared Fiber.isIdle Fiber.isSuspended Fiber.sleeps fiber fiber.notify := by
  cases fiber with
  | idle last => exact .refl _
  | waitAccept notified => exact ⟨rfl, rfl, fun asleep => by cases asleep⟩
  | unwinding socket exc => exact .refl _
  | wait waiting serial promise => exact .refl _

variable {state after : State Fib Sock} {fib mover : Fib} {action : Action Fib Sock}

theorem AcceptEntry.actor {status : Int} {socket : Sock}
    (entry : AcceptEntry state mover action status socket) : action.actor = some mover := by
  cases entry <;> rfl

theorem CloseEntry.actor {closer : Closer} {life : Socket.Life}
    (entry : CloseEntry state mover action closer life) : action.actor = some mover := by
  cases entry <;> rfl

theorem Ends.actor {operation : Operation} {outcome : Outcome Sock}
    {events : List (Event Fib Sock)} {host : String} {port : UInt16}
    (ends : Ends state mover action operation outcome events host port) :
    action.actor = some mover := by
  cases ends with
  | acceptStops entry closed => exact entry.actor
  | lookupFails _ _ | unresolved _ | bindFails _ _ | nameFails _ _ _ | binds _ _ _
  | listenFails _ _ | acceptUnwinds _ | closesAgain _ _ => rfl

variable [DecidableEq Fib]

theorem Transition.spares (transition : Transition state action after)
    (other : action.actor ≠ some fib) :
    Runtime.Spared Fiber.isIdle Fiber.isSuspended Fiber.sleeps (state.fiber fib)
      (after.fiber fib) := by
  cases transition with
  | ends ends => exact .bystander Fiber.notify_spared ends.actor other rfl (.inl rfl)
  | resolves idle => exact .bystander Fiber.notify_spared rfl other rfl (.inl rfl)
  | listens idle => exact .bystander Fiber.notify_spared rfl other rfl (.inl rfl)
  | waits entry none isOpen => exact .bystander Fiber.notify_spared entry.actor other rfl (.inl rfl)
  | accepts entry some isOpen held accepted =>
      exact .bystander Fiber.notify_spared entry.actor other rfl (.inl rfl)
  | acceptFails entry some isOpen failed =>
      exact .bystander Fiber.notify_spared entry.actor other rfl (.inl rfl)
  | closes entry isOpen => exact .bystander Fiber.notify_spared entry.actor other rfl (.inl rfl)
  | closeReturns ran =>
      exact .bystander Fiber.notify_spared rfl other (closeHandleDone_fiber _ _ _) (.inr rfl)
  | destroysClosed idle closed => exact .bystander Fiber.notify_spared rfl other rfl (.inl rfl)
  | completes registered awaits => exact .answer (by rw [awaits]; rfl) (by rw [awaits]; rfl) rfl
  | connects listening live reported => exact (state.fiber fib).notify_spared
  | handleCloses closing pending awaits =>
      exact .answer (by rw [awaits]; rfl) (by rw [awaits]; rfl) rfl

end Server

/-! ## All objects -/

namespace World

variable {Fib Sock Serv : Type} [DecidableEq Fib] [Fintype Fib] [DecidableEq Sock]
  [Fintype Sock] [DecidableEq Serv] [Fintype Serv] {before after : State Fib Sock Serv}
  {object other : Object Sock Serv} {action : object.Action Fib} {fib : Fib}

omit [DecidableEq Fib] [Fintype Fib] [DecidableEq Sock] [Fintype Sock] [DecidableEq Serv]
  [Fintype Serv] in
/-- A run in which every step is admitted admits every step of each object. -/
theorem each_anyStep (states : State Fib Sock Serv) (object : Object Sock Serv)
    (action : object.Action Fib)
    (_ : Machine.AnyStep states
      (⟨object, action⟩ : (object : Object Sock Serv) × object.Action Fib)) :
    Each Machine.AnyStep Machine.AnyStep object (states object) action := by
  cases object <;> trivial

theorem step_inversion
    (stepped : (machine Fib Sock Serv).step before ⟨object, action⟩ = some after) :
    ∃ moved, (object.machine Fib).step (before object) action = some moved ∧
      after = Function.update before object moved := by
  obtain ⟨_, stepped⟩ := Option.ite_none_right_eq_some.mp stepped
  obtain ⟨moved, step, rfl⟩ := Option.map_eq_some_iff.mp stepped
  exact ⟨moved, step, rfl⟩

/-- The other objects do not change. -/
theorem step_other
    (stepped : (machine Fib Sock Serv).step before ⟨object, action⟩ = some after)
    (apart : other ≠ object) : after other = before other := by
  obtain ⟨moved, _, rfl⟩ := step_inversion stepped
  exact Function.update_of_ne apart _ _

/-- A step of the library in which the fiber has no part. -/
theorem step_spares (reachable : (machine Fib Sock Serv).Reachable Machine.AnyStep before)
    (stepped : (machine Fib Sock Serv).step before ⟨object, action⟩ = some after)
    (notActor : object.actor action ≠ some fib) (other : Object Sock Serv) :
    other.isIdle (after other) fib = other.isIdle (before other) fib ∧
      other.isSuspended (after other) fib = other.isSuspended (before other) fib ∧
      (other.sleeps (after other) fib = true → other.sleeps (before other) fib = true) := by
  by_cases same : other = object
  · subst same
    obtain ⟨moved, step, rfl⟩ := step_inversion stepped
    rw [Function.update_self]
    cases other with
    | socket name =>
        have owned := Socket.reachable_owned (socket_reachable reachable each_anyStep name)
        have spared := (Socket.step_transition owned step).spares notActor
        exact ⟨spared.idle, spared.suspended, spared.awake⟩
    | server name =>
        have owned := Server.reachable_owned (server_reachable reachable each_anyStep name)
        have spared := (Server.step_transition owned step).spares notActor
        exact ⟨spared.idle, spared.suspended, spared.awake⟩
  · rw [step_other stepped same]
    exact ⟨rfl, rfl, id⟩

end World

end Fiberio
