import Fiberio.Foundation.Promises
import Fiberio.Socket.Ownership

/-!
Owns the account of the socket's requests: each transition is a step of the
registry of promises, so every promise is resolved once, by the callback of
its own request and with its status, and the close callback runs once.

Does not own where the pointers of libuv lead; that is `Owned`.
-/

namespace Fiberio.Socket

open Fiberio.Foundation

variable {Fib : Type}

/-! ## The registry of a socket -/

/-- The request and the status of a callback. -/
@[simp]
def Event.answer : Event Fib → Option (Nat × Int)
  | .callback id status => some (id, status)
  | _ => none

/-- The close callback ran. -/
@[simp]
def Event.isHandleClosed : Event Fib → Bool
  | .onHandleClosed => true
  | _ => false

/-- The wait is for a request, and not for the close of the handle. -/
def Waiting.forRequest : Waiting → Bool
  | .closeHandle _ => false
  | _ => true

/-- The request that an action answers, with the status of its callback. -/
def Action.answered : Action Fib → Option (Nat × Int)
  | .complete id status => some (id, status)
  | _ => none

theorem Action.answered_eq_some_iff {action : Action Fib} {id : Nat} {status : Int} :
    action.answered = some (id, status) ↔ action = .complete id status := by
  cases action <;> simp [Action.answered]

def callbacks : Callbacks (Event Fib) Waiting Int (Except Exc Unit) where
  answer := Event.answer
  isEnd := Event.isHandleClosed
  forRequest := Waiting.forRequest
  judge := checkUvStatus
  done := .ok ()

/-- The promise on the stack of a suspended call. -/
def Fiber.promise : Fiber → Option (Promise Waiting (Except Exc Unit))
  | .wait waiting serial .unset => some ⟨waiting, serial, none⟩
  | .wait waiting serial (.set result) => some ⟨waiting, serial, some result⟩
  | .idle _ | .waitRead _ _ => none

theorem Fiber.promise_eq_set_iff {fiber : Fiber} {waiting : Waiting} {serial : Nat}
    {result : Except Exc Unit} : fiber.promise = some ⟨waiting, serial, some result⟩ ↔
      fiber = .wait waiting serial (.set result) := by
  cases fiber with
  | wait _ _ promise => cases promise <;> simp [Fiber.promise]
  | idle _ | waitRead _ _ => simp [Fiber.promise]

theorem Fiber.promise_eq_unset_iff {fiber : Fiber} {waiting : Waiting} {serial : Nat} :
    fiber.promise = some ⟨waiting, serial, none⟩ ↔ fiber = .wait waiting serial .unset := by
  cases fiber with
  | wait _ _ promise => cases promise <;> simp [Fiber.promise]
  | idle _ | waitRead _ _ => simp [Fiber.promise]

def State.registry (state : State Fib) : Registry Fib (Event Fib) Waiting (Except Exc Unit) where
  log := state.log
  requests := state.requests.map fun request => (request.id, request.data.fiber)
  serials := state.serials
  promise := Fiber.promise ∘ state.fiber
  ended := state.tcp.closed

/-- The requests are accounted for, and so is the close callback. -/
abbrev Accounted (state : State Fib) : Prop := Registry.Accounted callbacks state.registry

/-- The step runs no callback and resolves no promise. -/
abbrev Unanswered (state after : State Fib) (events : List (Event Fib)) : Prop :=
  Registry.Unanswered callbacks state.registry after.registry events

theorem Accounted.initial (memory : Memory UInt8) :
    Accounted (initial memory : State Fib) := by
  refine ⟨⟨?_, ?_, ?_, ?_, ?_⟩, rfl, ?_⟩
  all_goals simp [Registry.ledger, State.registry, Socket.initial, Fiber.promise]

/-! ## Steps without an answer -/

section Moves

variable {state after entered : State Fib} {fib : Fib} {action : Action Fib}

/-- Nothing that the account speaks about changes, except the log. -/
theorem unanswered_of_log (events : List (Event Fib)) (silent : Registry.Silent callbacks events)
    (log : after.log = state.log ++ events) (requests : after.requests = state.requests)
    (serials : after.serials = state.serials) (fiber : after.fiber = state.fiber)
    (closed : after.tcp.closed = state.tcp.closed) : Unanswered state after events := by
  refine .logs events silent log ?_ serials.symm.le ?_ closed
  · simp only [State.registry, requests]
  · simp only [State.registry, fiber]

/-- `notify_all` wakes readers, none of which holds a promise. -/
theorem unanswered_notifyAll (state : State Fib) :
    Unanswered state state.notifyAll [.notifyAll] := by
  have silent : Registry.Silent callbacks [(.notifyAll : Event Fib)] := by
    simp [Registry.Silent, callbacks]
  refine .logs _ silent rfl rfl (Nat.le_refl _) ?_ rfl
  funext fib
  show (state.fiber fib).notify.promise = (state.fiber fib).promise
  cases state.fiber fib <;> rfl

/-- The return of `close_handle`, up to what its caller does next. -/
theorem closeReturned_unanswered (state : State Fib) :
    Unanswered state (state.notifyAll.emit .closeReturned) [.notifyAll, .closeReturned] :=
  (unanswered_notifyAll state).trans
    (unanswered_of_log [.closeReturned] (by simp [Registry.Silent, callbacks]) rfl rfl rfl rfl rfl)

/-- The return of `close_handle` to a read that met the end of the stream. -/
theorem closeReturnedToRead_unanswered (state : State Fib) (call : ReadCall) :
    Unanswered state
      ({ state.notifyAll.emit .closeReturned with len := 0 }.emit (.chunk call.id []))
      [.notifyAll, .closeReturned, .chunk call.id []] := by
  have chunk : Unanswered (state.notifyAll.emit .closeReturned)
      ({ state.notifyAll.emit .closeReturned with len := 0 }.emit (.chunk call.id []))
      [.chunk call.id []] :=
    unanswered_of_log _ (by simp [Registry.Silent, callbacks]) rfl rfl rfl rfl rfl
  exact (closeReturned_unanswered state).trans chunk

/-- A call of `read` that got its bytes logs them. -/
theorem leaveRead_unanswered (state : State Fib) (call : ReadCall) (len : Int) :
    ∃ events, Unanswered state (state.leaveRead call len (toSize len)) events :=
  ⟨_, unanswered_of_log [.chunk call.id _] (by simp [Registry.Silent, callbacks])
    rfl rfl rfl rfl rfl⟩

/-- How a fiber comes to call `read` does not answer anything. -/
theorem ReadEntry.unanswered {status : Int} {call : ReadCall}
    (entry : ReadEntry state fib action status call entered) :
    ∃ events, Unanswered state entered events := by
  cases entry with
  | start _ _ _ =>
      exact ⟨[], unanswered_of_log [] (by simp [Registry.Silent]) (by simp) rfl rfl rfl rfl⟩
  | @again call _ _ _ _ _ _ _ =>
      exact ⟨_, unanswered_of_log [.chunk call.id _] (by simp [Registry.Silent, callbacks])
        rfl rfl rfl rfl rfl⟩

theorem CloseEntry.unanswered {status : Int} {closer : Closer}
    (entry : CloseEntry state fib action status closer entered) :
    Unanswered state { entered.emit .uvShutdown with closed := true } [.uvShutdown] := by
  cases entry <;>
    exact unanswered_of_log [.uvShutdown] (by simp [Registry.Silent, callbacks]) rfl rfl rfl rfl rfl

/-- The admission of a read logs it and `uv_read_start`. -/
theorem unanswered_beginRead (state : State Fib) (call : ReadCall) :
    Unanswered state (state.beginRead call) [.admitted call.id, .uvReadStart] :=
  unanswered_of_log _ (by simp [Registry.Silent, callbacks]) (by simp) rfl rfl rfl rfl

variable [DecidableEq Fib]

/-- One fiber suspends without a request. -/
theorem unanswered_setFiber {value : Fiber}
    (unresolved : ∀ waiting serial result, value ≠ .wait waiting serial (.set result)) :
    Unanswered state (state.setFiber fib value) [] := by
  refine .move [] (by simp [Registry.Silent]) (List.append_nil _).symm rfl (Nat.le_refl _)
    (Function.comp_update Fiber.promise state.fiber fib value) ?_ rfl
  intro waiting serial result held
  exact unresolved waiting serial result (Fiber.promise_eq_set_iff.mp held)

/-- One fiber ends its operation; the requests stay. -/
theorem unanswered_finish {operation : Operation} {outcome : Outcome} :
    Unanswered state (state.finish fib operation outcome)
      [.finished fib operation outcome] :=
  (unanswered_setFiber (by simp)).trans
    (unanswered_of_log _ (by simp [Registry.Silent, callbacks]) rfl rfl rfl rfl rfl)

/-- One fiber registers a request and waits for it. -/
theorem unanswered_register {kind : RequestKind} {waiting : Waiting} :
    Unanswered state (state.register fib kind waiting) [] :=
  .register [] (by simp [Registry.Silent]) (List.append_nil _).symm (by simp [State.registry]) rfl
    (Function.comp_update Fiber.promise state.fiber fib _) rfl

/-- One fiber closes the handle and waits for that. -/
theorem unanswered_closeHandle {closer : Closer} :
    Unanswered state (state.closeHandle fib closer) [.uvClose] := by
  have silent : Registry.Silent callbacks [(.uvClose : Event Fib)] := by
    simp [Registry.Silent, callbacks]
  exact .move _ silent rfl rfl (Nat.le_succ _)
    (Function.comp_update Fiber.promise state.fiber fib _) (by simp [Fiber.promise]) rfl

/-- An exception leaves `close`. -/
theorem unanswered_closeThrew (state : State Fib) (fib : Fib) (closer : Closer) (exc : Exc) :
    ∃ events, Unanswered state (state.closeThrew fib closer exc) events := by
  have logged : ∀ thrown : State Fib, thrown.log = state.log ++ [.closeThrew exc] →
      thrown.requests = state.requests → thrown.serials = state.serials →
        thrown.fiber = state.fiber → thrown.tcp.closed = state.tcp.closed →
          Unanswered state thrown [.closeThrew exc] := fun _ =>
    unanswered_of_log [.closeThrew exc] (by simp [Registry.Silent, callbacks])
  cases closer with
  | user =>
      exact ⟨_, (logged (state.emit (.closeThrew exc)) rfl rfl rfl rfl rfl).trans
        unanswered_finish⟩
  | eof call =>
      exact ⟨_, (logged { state.emit (.closeThrew exc) with buf := 0, reading := false }
        rfl rfl rfl rfl rfl).trans unanswered_finish⟩
  | destructor => exact ⟨_, logged _ rfl rfl rfl rfl rfl⟩

end Moves

/-! ## Every transition keeps the account -/

section Preservation

variable [DecidableEq Fib] {state after : State Fib} {fib : Fib} {action : Action Fib}

omit [DecidableEq Fib] in
theorem QuietEvent.unanswering {event : Event Fib} (quiet : QuietEvent state fib action event) :
    event.answer = none ∧ event.isHandleClosed = false := by
  cases quiet <;> exact ⟨rfl, rfl⟩

theorem Transition.resolution (transition : Transition state action after) (owned : Owned state) :
    Registry.Step callbacks action.answered state.registry after.registry := by
  have silent : Registry.Silent callbacks ([] : List (Event Fib)) := by simp [Registry.Silent]
  cases transition with
  | @ends events fib _ operation outcome calls _ _ _ quiet _ _ _ =>
      have logged : Unanswered state
          { state with calls := calls, log := state.log ++ events } events :=
        unanswered_of_log events (fun event member => (quiet event member).unanswering)
          rfl rfl rfl rfl rfl
      exact .quiet (logged.trans unanswered_finish)
  | resolves _ _ =>
      have logged : Unanswered state (state.emit .uvGetaddrinfo) _ :=
        unanswered_of_log [.uvGetaddrinfo] (by simp [Registry.Silent, callbacks])
          rfl rfl rfl rfl rfl
      exact .quiet (logged.trans unanswered_register)
  | connects _ =>
      have logged : Unanswered state (state.emit .uvTcpConnect) _ :=
        unanswered_of_log [.uvTcpConnect] (by simp [Registry.Silent, callbacks])
          rfl rfl rfl rfl rfl
      exact .quiet (logged.trans unanswered_register)
  | @writes fib data _ _ _ _ =>
      have logged : Unanswered state { state.emit .uvWrite with
          tcp := { state.tcp with writes := state.tcp.writes ++ [data] } } _ :=
        unanswered_of_log [.uvWrite] (by simp [Registry.Silent, callbacks]) rfl rfl rfl rfl rfl
      exact .quiet (logged.trans unanswered_register)
  | @admits fib _ _ call entered entry _ _ _ =>
      obtain ⟨events, unanswered⟩ := entry.unanswered
      have begun := unanswered.trans (unanswered_beginRead entered call)
      have watching : Unanswered (entered.beginRead call) (entered.beginRead call).watch [] :=
        unanswered_of_log [] silent (by simp) rfl rfl rfl rfl
      exact .quiet ((begun.trans watching).trans (unanswered_setFiber (by simp)))
  | @rejects fib _ _ call entered exc entry _ _ _ =>
      obtain ⟨events, unanswered⟩ := entry.unanswered
      have begun := unanswered.trans (unanswered_beginRead entered call)
      have released : Unanswered (entered.beginRead call)
          { entered.beginRead call with buf := 0, reading := false } [] :=
        unanswered_of_log [] silent (by simp) rfl rfl rfl rfl
      exact .quiet ((begun.trans released).trans unanswered_finish)
  | @readsNull fib _ _ call entered entry _ _ _ =>
      obtain ⟨events, unanswered⟩ := entry.unanswered
      have begun := unanswered.trans (unanswered_beginRead entered call)
      have released : Unanswered (entered.beginRead call)
          { (entered.beginRead call).watch with reading := false } [] :=
        unanswered_of_log [] silent (by simp) rfl rfl rfl rfl
      exact .quiet ((begun.trans released).trans unanswered_finish)
  | waitsAgain _ _ _ => exact .quiet (unanswered_setFiber (by simp))
  | readFails _ _ _ =>
      have left : Unanswered state { state with reading := false, buf := 0 } [] :=
        unanswered_of_log [] silent (by simp) rfl rfl rfl rfl
      exact .quiet (left.trans unanswered_finish)
  | @readReturns _ call len _ _ _ =>
      obtain ⟨_, left⟩ := leaveRead_unanswered state call len
      exact .quiet (left.trans unanswered_finish)
  | @readStops _ call len _ _ _ =>
      obtain ⟨_, left⟩ := leaveRead_unanswered state call len
      exact .quiet (left.trans unanswered_finish)
  | shutsDown entry _ _ => exact .quiet (entry.unanswered.trans unanswered_register)
  | closesAtOnce entry _ _ => exact .quiet (entry.unanswered.trans unanswered_closeHandle)
  | @closeFails fib _ _ closer entered exc entry _ _ _ =>
      obtain ⟨_, thrown⟩ := unanswered_closeThrew
        { entered.emit .uvShutdown with closed := true } fib closer exc
      exact .quiet (entry.unanswered.trans thrown)
  | closes _ _ => exact .quiet unanswered_closeHandle
  | shutdownFails _ _ =>
      obtain ⟨_, thrown⟩ := unanswered_closeThrew state _ _ _
      exact .quiet thrown
  | closeReturnsToUser _ =>
      exact .quiet ((closeReturned_unanswered state).trans unanswered_finish)
  | closeReturnsToDestructor _ =>
      have destroyed : Unanswered (state.notifyAll.emit .closeReturned)
          { state.notifyAll.emit .closeReturned with life := .destroyed } [] :=
        unanswered_of_log [] silent (by simp) rfl rfl rfl rfl
      exact .quiet (((closeReturned_unanswered state).trans destroyed).trans unanswered_finish)
  | @closeReturnsToRead _ call _ _ _ _ _ _ =>
      exact .quiet ((closeReturnedToRead_unanswered state call).trans unanswered_finish)
  | @closeStopsRead _ call _ _ _ _ _ =>
      exact .quiet ((closeReturnedToRead_unanswered state call).trans unanswered_finish)
  | destroysClosed _ _ =>
      have left : Unanswered state { state with life := .destroyed } [] :=
        unanswered_of_log [] silent (by simp) rfl rfl rfl rfl
      exact .quiet (left.trans unanswered_finish)
  | @delivers nread bytes len _ _ _ =>
      have stopped : Unanswered state { (state.emit (.readCallback nread)).emit .uvReadStop with
          memory := state.memory.store state.allocCallback.1 bytes
          tcp := { state.tcp with
            watching := false, delivered := state.tcp.delivered ++ bytes }
          fault := state.fault || state.tcp.data != HandleData.socket
          buf := 0, len := len } _ :=
        unanswered_of_log [.readCallback nread, .uvReadStop]
          (by simp [Registry.Silent, callbacks]) (by simp) rfl rfl rfl rfl
      exact .quiet (stopped.trans (unanswered_notifyAll _))
  | @completes id status request waiting registered issued awaits =>
      have member : request ∈ state.requests := List.mem_of_find?_eq_some registered
      have id_eq : request.id = id := by simpa using List.find?_some registered
      subst id_eq
      have forRequest : waiting.forRequest = true := by
        cases waiting <;> first | rfl | cases issued
      exact .answers rfl (List.mem_map_of_mem member) (Fiber.promise_eq_unset_iff.mpr awaits)
        forRequest rfl rfl rfl (fun _ remains => mem_map_erase owned.distinct member remains) rfl
        (Function.comp_update Fiber.promise state.fiber _ _) rfl
  | handleCloses _ pending _ _ =>
      exact .ends rfl pending rfl rfl rfl rfl rfl rfl
        (Function.comp_update Fiber.promise state.fiber _ _) rfl

end Preservation

theorem reachable_accounted [DecidableEq Fib] [Fintype Fib]
    {allowed : State Fib → Action Fib → Prop} {state : State Fib}
    (reachable : (machine Fib).Reachable allowed state) : Accounted state := by
  apply reachable_invariant reachable Accounted.initial
  intro before action after owned accounted _ transition
  exact (transition.resolution owned).accounted accounted

end Fiberio.Socket
