import Fiberio.Socket.Span

/-!
Owns that a decided read returns: once its callback has reported, or the socket
is closed, nothing but steps of libuv and of the fibers already inside the
library is missing until the operation is back with its caller.

Does not own how it returns.
-/

namespace Fiberio.Socket

open Fiberio.Foundation

variable {Fib : Type} [DecidableEq Fib]

/-! ## The last step -/

section LastStep

variable {state : State Fib} {fib : Fib} {call : ReadCall} {status : Int}

theorem readEnd_closed_outside (closed : state.closed = true) :
    (state.readEnd fib call status).inside fib = false := by
  rw [readEnd_closed closed]
  simp [State.inside, Fiber.isIdle]

/-- A woken reader does not suspend again on a closed socket. -/
theorem readWoken_closed_outside (closed : state.closed = true) :
    (state.readWoken fib call status).inside fib = false := by
  rw [readWoken_over (.inr closed), if_pos closed]
  split
  · exact readEnd_closed_outside (by exact closed)
  · split
    · simp [State.inside, Fiber.isIdle]
    · exact readEnd_closed_outside (by exact closed)

variable [Fintype Fib]

/-- The close has returned, and the reader is still inside its read. -/
theorem Phase.lastStep {report : Option Report} (phase : Phase state fib call report)
    (owned : Owned state) (order : ClosesInOrder state) (returned : CloseReturned state) :
    ∃ after, (machine Fib).step state (.resume fib 0) = some after ∧
      after.inside fib = false := by
  obtain ⟨_, closed, closing, handleClosed, woken⟩ := order.returned returned
  rw [(step_running order fib 0 0).1]
  cases phase with
  | @waiting notified waits _ _ _ =>
      cases notified with
      | false => exact absurd waits (woken fib call)
      | true =>
          simp only [State.resume, waits]
          exact ⟨_, rfl, readWoken_closed_outside closed⟩
  | reported waits _ _ _ _ _ =>
      simp only [State.resume, waits]
      exact ⟨_, rfl, readWoken_closed_outside closed⟩
  | @closing _ serial promise inside _ _ _ _ =>
      rcases inside with inside | inside
      · have notClosing := owned.shutting _ _ _ _ inside
        exact absurd (notClosing.symm.trans closing) (by decide)
      · cases promise with
        | unset =>
            have pending := (owned.handle _ _ _ _ inside).2.2
            rw [handleClosed] at pending
            simp at pending
        | set result =>
            simp only [State.resume, inside, State.resumeWith, State.closeHandleDone]
            exact ⟨_, rfl, readEnd_closed_outside (by simpa using closed)⟩

end LastStep

/-! ## Whole calls -/

section Calls

variable [Fintype Fib] {start final : State Fib} {fib : Fib} {request : ReadRequest} {status : Int}
  {actions : List (Action Fib)}

/-- While the operation lasts, its reader is in an inner read. -/
theorem callRead_phase (reachable : (machine Fib).Reachable Machine.AnyStep start)
    (sized : request.Sized) (run : callRead start fib request status actions = some final)
    (inside : final.inside fib = true) :
    ∃ first call earlier report,
      CallTrace start fib first final actions call earlier report ∧
        Admitted start request status first := by
  cases callRead_span reachable sized (Machine.along_anyStep _ _) run with
  | turnedAway _ _ ends => simp [State.inside, ends.ended, Fiber.isIdle] at inside
  | ended _ _ _ _ _ _ ends => simp [State.inside, ends.ended, Fiber.isIdle] at inside
  | lasts admitted trace => exact ⟨_, _, _, _, trace, admitted⟩

theorem callRead_append {middle : State Fib} {more : List (Action Fib)}
    (run : callRead start fib request status actions = some middle)
    (rest : (machine Fib).execWhile (State.inside fib) middle more = some final) :
    callRead start fib request status (actions ++ more) = some final := by
  obtain ⟨began, stepped, run⟩ := Option.bind_eq_some_iff.mp run
  rw [callRead, stepped]
  exact Machine.execWhile_append_some run rest

/-- On a closed socket every read operation can return. -/
theorem callRead_canReturn_closed (reachable : (machine Fib).Reachable Machine.AnyStep start)
    (reached : (machine Fib).Reachable GracefulShutdown final) (sized : request.Sized)
    (run : callRead start fib request status actions = some final)
    (closed : final.closed = true) :
    (machine Fib).CanReach GracefulShutdown final fun ended => ended.inside fib = false := by
  have returns := canReach_closeReturned (reachable_owned reached) (reachable_closesInOrder reached)
    closed
  rcases returns.busy_cases (State.inside fib) with
    outside | ⟨more, later, ran, along, inside, returned⟩
  · exact outside
  · have ranAll := Machine.exec_of_execWhile ran
    have laterReached := reached.exec along ranAll
    obtain ⟨_, call, _, report, trace, _⟩ :=
      callRead_phase reachable sized (callRead_append run ran) inside
    obtain ⟨ended, stepped, outside⟩ := trace.phase.lastStep (reachable_owned laterReached)
      (reachable_closesInOrder laterReached) returned
    exact .run ranAll along (.step (gracefulShutdown_resume later fib) stepped (.now outside))

/-- A read that is not part of a loop can return as soon as its callback has
reported or the socket is closed. -/
theorem callRead_canReturn (reachable : (machine Fib).Reachable Machine.AnyStep start)
    (reached : (machine Fib).Reachable GracefulShutdown final) (sized : request.Sized)
    (plain : ∀ call, request.first start.calls start.closed = .inr call →
      call.caller.loops = false)
    (run : callRead start fib request status actions = some final)
    (decided : reports actions ≠ [] ∨ final.closed = true) :
    (machine Fib).CanReach GracefulShutdown final fun ended => ended.inside fib = false := by
  by_cases inside : final.inside fib = true
  · by_cases closed : final.closed = true
    · exact callRead_canReturn_closed reachable reached sized run closed
    · obtain ⟨first, call, earlier, report, trace, admitted⟩ :=
        callRead_phase reachable sized run inside
      have order := reachable_closesInOrder reached
      have single : call.caller.loops = false := by
        rw [trace.inner.loops]
        exact plain first admitted.first
      have woken : final.fiber fib = .waitRead true call := by
        cases trace.phase with
        | waiting _ _ _ _ =>
            have none := trace.reported
            rw [trace.once single] at none
            exact absurd none (decided.resolve_right closed)
        | reported woken _ _ _ _ _ => exact woken
        | closing _ _ isClosed _ _ => exact absurd isClosed closed
      have resumed : final.resume fib 0 = some (final.readWoken fib call 0) := by
        simp only [State.resume, woken]
      have stepped : (machine Fib).step final (.resume fib 0) =
          some (final.readWoken fib call 0) := by
        rw [(step_running order fib 0 0).1, resumed]
      have graceful := gracefulShutdown_resume final fib
      have afterReached := reached.next graceful stepped
      apply Machine.CanReach.step graceful stepped
      cases trace.phase.ownStep trace.inner.sized (reachable_soleReader reached) resumed with
      | again _ _ _ continues _ _ _ =>
          have loops := (ReadCall.loops_of_continues continues).1
          exact absurd (single.symm.trans loops) (by decide)
      | ends ended _ _ => exact .now (by simp [State.inside, ended, Fiber.isIdle])
      | closes _ isClosed _ =>
          have ran : callRead start fib request status (actions ++ [.resume fib 0]) =
              some (final.readWoken fib call 0) := by
            apply callRead_append run
            rw [Machine.execWhile, if_pos inside, stepped]
            rfl
          exact callRead_canReturn_closed reachable afterReached sized ran isClosed
  · exact .now (by simpa using inside)

end Calls

end Fiberio.Socket
