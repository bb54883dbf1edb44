import Fiberio.Socket.Answers
import Fiberio.Socket.Results

/-!
Owns the close of a socket that meets no error: `uv_close` is called only
after a shutdown request has completed, so that nothing queued is cut off.

Does not own when libuv completes a shutdown request.
-/

namespace Fiberio.Socket

open Fiberio.Foundation

variable {Fib : Type}

/-- No error status is delivered with the action. The end of the stream is
not an error. -/
def Action.Succeeds : Action Fib → Prop
  | .connect _ status | .read _ _ status | .write _ _ status | .close _ status
  | .destroy _ status | .resume _ status | .complete _ status => 0 ≤ status
  | .readCallback nread _ => 0 ≤ nread ∨ nread = uvEof
  | .onHandleClosed => True

/-- The shutdown came first. -/
structure ShutFirst (state : State Fib) : Prop where
  answered : ∀ fib closer serial result,
    state.fiber fib = .wait (.shutdown closer) serial (.set result) → state.tcp.shut = true
  closing : state.tcp.closing = true → state.tcp.shut = true

/-- The action completes a shutdown request without an error. -/
def State.shuts (state : State Fib) : Action Fib → Bool
  | .complete id status =>
      match state.requests.find? (fun request => request.id == id) with
      | some request => request.kind == RequestKind.shutdown && decide (0 ≤ status)
      | none => false
  | _ => false

section Preservation

variable [DecidableEq Fib] {state after entered : State Fib} {fib : Fib} {action : Action Fib}

/-- A completed shutdown is recorded, and nothing else is taken for one. -/
theorem Transition.shut_eq (transition : Transition state action after) :
    after.tcp.shut = (state.tcp.shut || state.shuts action) := by
  cases transition with
  | @ends _ fib action _ _ _ _ _ _ _ _ _ runs =>
      have plain : state.shuts action = false := by
        rcases runs with called | ⟨_, status, rfl⟩
        · cases action <;> first | rfl | cases called
        · rfl
      simp [plain]
  | completes registered _ _ => simp [State.shuts, registered]
  | admits entry _ _ _ => cases entry <;> simp [State.shuts]
  | rejects entry _ _ _ => cases entry <;> simp [State.shuts]
  | readsNull entry _ _ _ => cases entry <;> simp [State.shuts]
  | shutsDown entry _ _ => cases entry <;> simp [State.shuts]
  | closesAtOnce entry _ _ => cases entry <;> simp [State.shuts]
  | closeFails entry _ _ _ => cases entry <;> simp [State.shuts, State.closeThrew]
  | @shutdownFails _ closer _ _ _ _ _ => cases closer <;> simp [State.shuts, State.closeThrew]
  | _ => simp [State.shuts]

omit [DecidableEq Fib] in
theorem CloseEntry.accepted {status : Int} {closer : Closer}
    (entry : CloseEntry state fib action status closer entered) (succeeds : action.Succeeds) :
    0 ≤ status := by
  cases entry <;> exact succeeds

/-- Without errors `uv_close` is called where a shutdown was answered. -/
theorem Transition.closing_cases (transition : Transition state action after)
    (succeeds : action.Succeeds) :
    after.tcp.closing = state.tcp.closing ∨ ∃ fib closer serial result,
      state.fiber fib = .wait (.shutdown closer) serial (.set result) := by
  cases transition with
  | admits entry _ _ _ => cases entry <;> exact .inl rfl
  | rejects entry _ _ _ => cases entry <;> exact .inl rfl
  | readsNull entry _ _ _ => cases entry <;> exact .inl rfl
  | shutsDown entry _ _ => cases entry <;> exact .inl rfl
  | closesAtOnce entry _ gone => exact absurd (entry.accepted succeeds) gone.negative
  | closeFails entry _ _ _ => cases entry <;> exact .inl rfl
  | closes shut _ => exact .inr ⟨_, _, _, _, shut⟩
  | @shutdownFails _ closer _ _ _ _ _ => cases closer <;> exact .inl rfl
  | _ => exact .inl rfl

omit [DecidableEq Fib] in
/-- A call of `shutdown` waits for a request of its kind. -/
theorem Owned.shutdown_kind {request : Request Fib} {closer : Closer} (owned : Owned state)
    (member : request ∈ state.requests)
    (awaits : state.fiber request.data.fiber = .wait (.shutdown closer) request.id .unset) :
    request.kind = .shutdown := by
  obtain ⟨_, waiting, issued, suspended⟩ := owned.pending request member
  cases awaits.symm.trans suspended
  unfold Waiting.issues at issued
  cases kind : request.kind <;> simp_all

theorem Transition.shutFirst (transition : Transition state action after) (owned : Owned state)
    (shutFirst : ShutFirst state) (succeeds : action.Succeeds) : ShutFirst after := by
  have kept : state.tcp.shut = true → after.tcp.shut = true := by
    intro shut
    rw [transition.shut_eq, shut, Bool.true_or]
  constructor
  · intro fib closer serial result answered
    rcases (transition.resolution owned).resolved (Fiber.promise_eq_set_iff.mpr answered) with
      held | ⟨status, asked, registered, awaits, _⟩ | ⟨forEnd, _⟩
    · exact kept (shutFirst.answered _ _ _ _ (Fiber.promise_eq_set_iff.mp held))
    · obtain ⟨request, member, listed⟩ := List.mem_map.mp registered
      obtain ⟨rfl, rfl⟩ := Prod.mk.inj listed
      have isShutdown := owned.shutdown_kind member (Fiber.promise_eq_unset_iff.mp awaits)
      have called := Action.answered_eq_some_iff.mp asked
      have accepted : 0 ≤ status := by
        rw [called] at succeeds
        exact succeeds
      rw [transition.shut_eq, called]
      simp [State.shuts, owned.find_request member, isShutdown, accepted]
    · cases forEnd
  · intro closing
    apply kept
    rcases transition.closing_cases succeeds with same | ⟨_, _, _, _, answered⟩
    · exact shutFirst.closing (same ▸ closing)
    · exact shutFirst.answered _ _ _ _ answered

end Preservation

variable [DecidableEq Fib] [Fintype Fib] {state : State Fib}

theorem reachable_shutFirst
    (reachable : (machine Fib).Reachable (fun _ action => action.Succeeds) state) :
    ShutFirst state := by
  apply reachable_invariant reachable
  · intro memory
    constructor
    · intro fib closer serial result answered
      cases answered
    · intro closing
      cases closing
  · intro before action after owned shutFirst succeeds transition
    exact transition.shutFirst owned shutFirst succeeds

/-- An accepted write is queued behind the earlier ones. -/
theorem write_queued {before after : State Fib} {fib : Fib} {data : List UInt8} {status : Int}
    (stepped : (machine Fib).step before (.write fib data status) = some after)
    (isOpen : before.closed = false) (accepted : 0 ≤ status) :
    after.tcp.writes = before.tcp.writes ++ [data] := by
  obtain ⟨_, stepped⟩ := Option.ite_none_left_eq_some.mp stepped
  obtain ⟨_, result⟩ := Option.ite_none_right_eq_some.mp stepped
  cases result
  simp [State.write, isOpen, checkUvStatus_ok accepted]

end Fiberio.Socket
