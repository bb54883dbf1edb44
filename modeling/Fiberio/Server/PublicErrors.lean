import Fiberio.Server.Answers
import Fiberio.Server.HandleUse

/-!
Owns the exceptions that leave the operations of a server socket. None of
them translates what `check_uv_status` throws, and `accept` on a closed server
throws a bare `std::runtime_error`.

Does not own the exceptions of a socket.
-/

namespace Fiberio.Server

open Fiberio.Foundation

variable {Fib Sock : Type}

/-! ## The statuses that decide -/

/-- Every status that reaches `bind`, `listen` or `accept` stands for a public
exception or for none, and no `accept` runs into a closed server. A `bind`
whose name was not resolved calls nothing more. -/
def MeetsPublicStatus (state : State Fib Sock) : Action Fib Sock → Prop
  | .bind _ _ _ status | .listen _ status => PublicStatus status
  | .complete id status => ∀ request ∈ state.requests, request.id = id → PublicStatus status
  | .accept _ status _ => state.closed = false ∧ (state.pending ≠ 0 → PublicStatus status)
  | .resume fib answers =>
      (state.fiber fib = .waitAccept true →
        state.closed = false ∧ (state.pending ≠ 0 → PublicStatus answers.status)) ∧
      ((state.fiber fib).isResolved = true →
        PublicStatus answers.status ∧ (0 ≤ answers.status → PublicStatus answers.nameStatus))
  | .close _ | .destroy _ | .unwound _ | .connectionCallback _ | .onHandleClosed => True

instance decidableMeetsPublicStatus [DecidableEq Sock] (state : State Fib Sock) :
    (action : Action Fib Sock) → Decidable (MeetsPublicStatus state action)
  | .bind _ _ _ status | .listen _ status => inferInstanceAs (Decidable (PublicStatus status))
  | .complete id status => inferInstanceAs
      (Decidable (∀ request ∈ state.requests, request.id = id → PublicStatus status))
  | .accept _ status _ => inferInstanceAs (Decidable
      (state.closed = false ∧ (state.pending ≠ 0 → PublicStatus status)))
  | .resume fib answers => inferInstanceAs (Decidable
      ((state.fiber fib = .waitAccept true →
        state.closed = false ∧ (state.pending ≠ 0 → PublicStatus answers.status)) ∧
      ((state.fiber fib).isResolved = true →
        PublicStatus answers.status ∧ (0 ≤ answers.status → PublicStatus answers.nameStatus))))
  | .close _ | .destroy _ | .unwound _ | .connectionCallback _ | .onHandleClosed =>
      .isTrue trivial

/-! ## Public exceptions only -/

/-- Every exception that has left an operation is public. -/
def EscapesPublic (state : State Fib Sock) : Prop :=
  ∀ fib operation exc, .finished fib operation (.threw exc) ∈ state.log → exc.isIoError = true

/-- No private exception has escaped, and none is on its way out or waits in
a promise. -/
structure Public (state : State Fib Sock) : Prop where
  escaped : EscapesPublic state
  unwinding : ∀ fib socket exc, state.fiber fib = .unwinding socket exc → exc.isIoError = true
  promised : ∀ fib serial exc,
    state.fiber fib = .wait .getaddrinfo serial (.set (.error exc)) → exc.isIoError = true

theorem Public.initial (port : UInt16) : Public (initial port : State Fib Sock) := by
  constructor
  · intro fib operation exc member
    cases member
  · intro fib socket exc unwinding
    cases unwinding
  · intro fib serial exc isSet
    cases isSet

section Preservation

variable {state after : State Fib Sock} {fib : Fib} {action : Action Fib Sock}

/-- The status of `uv_accept` is one of those that decide. -/
theorem AcceptEntry.meets {status : Int} {socket : Sock}
    (entry : AcceptEntry state fib action status socket)
    (meets : MeetsPublicStatus state action) :
    state.closed = false ∧ (state.pending ≠ 0 → PublicStatus status) := by
  cases entry with
  | call _ => exact meets
  | woken notified => exact meets.1 notified

/-- So are those of `uv_tcp_bind` and `uv_tcp_getsockname`. -/
theorem bind_meets {answers : Answers Sock} {serial : Nat}
    (answered : state.fiber fib = .wait .getaddrinfo serial (.set (.ok ())))
    (meets : MeetsPublicStatus state (.resume fib answers)) :
    PublicStatus answers.status ∧ (0 ≤ answers.status → PublicStatus answers.nameStatus) := by
  apply meets.2
  rw [answered]
  rfl

theorem Ends.isPublic {operation : Operation} {events : List (Event Fib Sock)} {host : String}
    {port : UInt16} {exc : Exc}
    (ends : Ends state fib action operation (.threw exc) events host port)
    (isPublic : Public state) (meets : MeetsPublicStatus state action) :
    exc.isIoError = true := by
  cases ends with
  | lookupFails _ failed => exact (checkUvStatus_isIoError_iff failed).mpr meets
  | unresolved answered => exact isPublic.promised _ _ _ answered
  | bindFails answered failed =>
      exact (checkUvStatus_isIoError_iff failed).mpr (bind_meets answered meets).1
  | nameFails answered bound failed =>
      exact (checkUvStatus_isIoError_iff failed).mpr ((bind_meets answered meets).2 bound)
  | listenFails _ failed => exact (checkUvStatus_isIoError_iff failed).mpr meets
  | acceptStops entry closed =>
      rw [(entry.meets meets).1] at closed
      cases closed
  | acceptUnwinds unwinding => exact isPublic.unwinding _ _ _ unwinding

variable [DecidableEq Fib]

theorem Transition.isPublic (transition : Transition state action after) (owned : Owned state)
    (isPublic : Public state) (meets : MeetsPublicStatus state action) : Public after := by
  constructor
  · intro fib operation exc member
    rcases transition.thrown member with old | ⟨events, host, port, ends⟩
    · exact isPublic.escaped fib operation exc old
    · exact ends.isPublic isPublic meets
  · intro fib socket exc unwinding
    rcases transition.unwinding unwinding with before | ⟨status, entry, some, failed, _⟩
    · exact isPublic.unwinding fib socket exc before
    · exact (checkUvStatus_isIoError_iff failed).mpr ((entry.meets meets).2 some)
  · intro fib serial exc isSet
    rcases (transition.resolution owned).resolved (Fiber.promise_eq_set_iff.mpr isSet) with
      held | ⟨status, asked, registered, _, _, failed⟩ | ⟨_, impossible⟩
    · exact isPublic.promised _ _ _ (Fiber.promise_eq_set_iff.mp held)
    · obtain ⟨request, member, listed⟩ := List.mem_map.mp registered
      rw [Action.answered_eq_some_iff.mp asked] at meets
      exact (checkUvStatus_isIoError_iff failed.symm).mpr
        (meets request member (congrArg Prod.fst listed))
    · cases impossible

end Preservation

theorem reachable_public [DecidableEq Fib] [Fintype Fib] {state : State Fib Sock}
    (reachable : (machine Fib Sock).Reachable MeetsPublicStatus state) : Public state := by
  apply reachable_invariant reachable Public.initial
  intro before action after owned isPublic meets transition
  exact transition.isPublic owned isPublic meets

end Fiberio.Server
