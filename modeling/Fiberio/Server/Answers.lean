import Fiberio.Foundation.Promises
import Fiberio.Server.Ownership

/-!
Owns the account of the server socket's requests: each transition is a step of
the registry of promises, so each is resolved once, by the callback of its own
request, and the close callback runs once.

Does not own where the pointers of libuv lead; that is `Owned`.
-/

namespace Fiberio.Server

open Fiberio.Foundation

variable {Fib Sock : Type}

/-! ## The registry of a server socket -/

/-- The request and the status of a callback. -/
@[simp]
def Event.answer : Event Fib Sock → Option (Nat × Int)
  | .callback id status => some (id, status)
  | _ => none

/-- The close callback ran. -/
@[simp]
def Event.isHandleClosed : Event Fib Sock → Bool
  | .onHandleClosed => true
  | _ => false

/-- The wait is for a request, and not for the close of the handle. -/
def Waiting.forRequest : Waiting → Bool
  | .getaddrinfo => true
  | .closeHandle _ => false

/-- The request that an action answers, with the status of its callback. -/
def Action.answered : Action Fib Sock → Option (Nat × Int)
  | .complete id status => some (id, status)
  | _ => none

theorem Action.answered_eq_some_iff {action : Action Fib Sock} {id : Nat} {status : Int} :
    action.answered = some (id, status) ↔ action = .complete id status := by
  cases action <;> simp [Action.answered]

def callbacks : Callbacks (Event Fib Sock) Waiting Int (Except Exc Unit) where
  answer := Event.answer
  isEnd := Event.isHandleClosed
  forRequest := Waiting.forRequest
  judge := checkUvStatus
  done := .ok ()

/-- The promise on the stack of a suspended call. -/
def Fiber.promise : Fiber Sock → Option (Promise Waiting (Except Exc Unit))
  | .wait waiting serial .unset => some ⟨waiting, serial, none⟩
  | .wait waiting serial (.set result) => some ⟨waiting, serial, some result⟩
  | .idle _ | .waitAccept _ | .unwinding _ _ => none

theorem Fiber.promise_eq_set_iff {fiber : Fiber Sock} {waiting : Waiting} {serial : Nat}
    {result : Except Exc Unit} : fiber.promise = some ⟨waiting, serial, some result⟩ ↔
      fiber = .wait waiting serial (.set result) := by
  cases fiber with
  | wait _ _ promise => cases promise <;> simp [Fiber.promise]
  | idle _ | waitAccept _ | unwinding _ _ => simp [Fiber.promise]

theorem Fiber.promise_eq_unset_iff {fiber : Fiber Sock} {waiting : Waiting} {serial : Nat} :
    fiber.promise = some ⟨waiting, serial, none⟩ ↔ fiber = .wait waiting serial .unset := by
  cases fiber with
  | wait _ _ promise => cases promise <;> simp [Fiber.promise]
  | idle _ | waitAccept _ | unwinding _ _ => simp [Fiber.promise]

/-- `notify_all` wakes accepting calls, none of which holds a promise. -/
theorem promise_comp_notify (fiber : Fib → Fiber Sock) :
    (Fiber.promise ∘ fun fib => (fiber fib).notify) = Fiber.promise ∘ fiber := by
  funext fib
  show (fiber fib).notify.promise = (fiber fib).promise
  cases fiber fib <;> rfl

def State.registry (state : State Fib Sock) :
    Registry Fib (Event Fib Sock) Waiting (Except Exc Unit) where
  log := state.log
  requests := state.requests.map fun request => (request.id, request.data.fiber)
  serials := state.serials
  promise := Fiber.promise ∘ state.fiber
  ended := state.tcp.closed

/-- The requests are accounted for, and so is the close callback. -/
abbrev Accounted (state : State Fib Sock) : Prop := Registry.Accounted callbacks state.registry

theorem Accounted.initial (port : UInt16) : Accounted (initial port : State Fib Sock) := by
  refine ⟨⟨?_, ?_, ?_, ?_, ?_⟩, ?_, ?_⟩
  all_goals simp [Registry.ledger, State.registry, Server.initial, Fiber.promise]

/-! ## Every transition keeps the account -/

section Preservation

variable [DecidableEq Fib] {state after : State Fib Sock} {fib : Fib}
  {action : Action Fib Sock}

/-- One fiber moves without resolving a promise, and the log grows. -/
theorem unanswered_move {value : Fiber Sock} (events : List (Event Fib Sock))
    (silent : Registry.Silent callbacks events) (log : after.log = state.log ++ events)
    (requests : after.requests = state.requests) (serials : state.serials ≤ after.serials)
    (promise : Fiber.promise ∘ after.fiber =
      Function.update (Fiber.promise ∘ state.fiber) fib value.promise)
    (unresolved : ∀ waiting serial result, value ≠ .wait waiting serial (.set result))
    (closed : after.tcp.closed = state.tcp.closed) :
    Registry.Unanswered callbacks state.registry after.registry events := by
  refine .move events silent log ?_ serials promise ?_ closed
  · simp only [State.registry, requests]
  · intro waiting serial result held
    exact unresolved waiting serial result (Fiber.promise_eq_set_iff.mp held)

omit [DecidableEq Fib] in
theorem Ends.silent {operation : Operation} {outcome : Outcome Sock}
    {events : List (Event Fib Sock)} {host : String} {port : UInt16}
    (ends : Ends state fib action operation outcome events host port) :
    Registry.Silent callbacks (events ++ [.finished fib operation outcome]) := by
  cases ends <;> simp [Registry.Silent, callbacks]

theorem Transition.resolution (transition : Transition state action after) (owned : Owned state) :
    Registry.Step callbacks action.answered state.registry after.registry := by
  have moves : ∀ (fib : Fib) (value : Fiber Sock),
      Fiber.promise ∘ Function.update state.fiber fib value =
        Function.update (Fiber.promise ∘ state.fiber) fib value.promise :=
    Function.comp_update Fiber.promise state.fiber
  cases transition with
  | @ends fib _ operation outcome events _ _ ends =>
      exact .quiet (unanswered_move (events ++ [.finished fib operation outcome]) ends.silent
        (by simp) rfl (Nat.le_refl _) (moves _ _) (by simp) rfl)
  | @resolves fib _ _ _ _ =>
      have silent : Registry.Silent callbacks [(.uvGetaddrinfo : Event Fib Sock)] := by
        simp [Registry.Silent, callbacks]
      exact .quiet (.register _ silent rfl (by simp [State.registry]) rfl (moves _ _) rfl)
  | @listens fib _ _ =>
      exact .quiet (unanswered_move [.uvListen, .finished fib .listen .returned]
        (by simp [Registry.Silent, callbacks]) (by simp) rfl (Nat.le_refl _) (moves _ _)
        (by simp) rfl)
  | waits _ _ _ =>
      exact .quiet (unanswered_move [] (by simp [Registry.Silent]) (List.append_nil _).symm rfl
        (Nat.le_refl _) (moves _ _) (by simp) rfl)
  | @accepts fib _ status socket _ _ _ _ _ =>
      exact .quiet (unanswered_move [.uvAccept fib state.tcp.held.head? socket status,
        .finished fib .accept (.accepted socket)] (by simp [Registry.Silent, callbacks]) (by simp)
        rfl (Nat.le_refl _) (moves _ _) (by simp) rfl)
  | @acceptFails fib _ status socket _ _ _ _ _ =>
      exact .quiet (unanswered_move [.uvAccept fib state.tcp.held.head? socket status]
        (by simp [Registry.Silent, callbacks]) rfl rfl (Nat.le_refl _) (moves _ _) (by simp) rfl)
  | closes _ _ =>
      exact .quiet (unanswered_move [.uvClose] (by simp [Registry.Silent, callbacks]) rfl rfl
        (Nat.le_succ _) (moves _ _) (by simp) rfl)
  | @closeReturns fib closer _ _ _ _ =>
      have requests : (state.closeHandleDone fib closer).requests = state.requests := by
        cases closer <;> simp [State.closeHandleDone]
      have serials : (state.closeHandleDone fib closer).serials = state.serials := by
        cases closer <;> simp [State.closeHandleDone]
      have promise : Fiber.promise ∘ (state.closeHandleDone fib closer).fiber =
          Function.update (Fiber.promise ∘ state.fiber) fib
            (Fiber.idle (some .returned) : Fiber Sock).promise := by
        rw [closeHandleDone_fiber, Function.comp_update, promise_comp_notify]
      exact .quiet (unanswered_move _ (by simp [Registry.Silent, callbacks])
        (closeHandleDone_log state fib closer) requests serials.symm.le promise (by simp) (by simp))
  | @destroysClosed fib _ _ =>
      exact .quiet (unanswered_move [.finished fib .destroy .returned]
        (by simp [Registry.Silent, callbacks]) rfl rfl (Nat.le_refl _) (moves _ _) (by simp) rfl)
  | @connects status _ _ _ =>
      have silent : Registry.Silent callbacks
          [(.connectionCallback status : Event Fib Sock), .notifyAll] := by
        simp [Registry.Silent, callbacks]
      have log : state.log ++ [.connectionCallback status] ++ [.notifyAll] =
          state.log ++ [.connectionCallback status, .notifyAll] := by simp
      exact .quiet (.logs _ silent log rfl (Nat.le_refl _) (promise_comp_notify state.fiber) rfl)
  | @completes id status request registered awaits =>
      have member : request ∈ state.requests := List.mem_of_find?_eq_some registered
      have id_eq : request.id = id := by simpa using List.find?_some registered
      subst id_eq
      exact .answers rfl (List.mem_map_of_mem member) (Fiber.promise_eq_unset_iff.mpr awaits)
        rfl rfl rfl rfl (fun _ remains => mem_map_erase owned.distinct member remains) rfl
        (moves _ _) rfl
  | handleCloses _ pending _ =>
      exact .ends rfl pending rfl rfl rfl rfl rfl rfl (moves _ _) rfl

end Preservation

theorem reachable_accounted [DecidableEq Fib] [Fintype Fib]
    {allowed : State Fib Sock → Action Fib Sock → Prop} {state : State Fib Sock}
    (reachable : (machine Fib Sock).Reachable allowed state) : Accounted state := by
  apply reachable_invariant reachable Accounted.initial
  intro before action after owned accounted _ transition
  exact (transition.resolution owned).accounted accounted

end Fiberio.Server
