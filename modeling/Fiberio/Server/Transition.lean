import Mathlib.Tactic.Common
import Fiberio.Server.Model

/-!
Owns the inversion of one step of the server socket: `Transition` lists
everything a fiber or a callback can do, with the guards under which it
happens, and `step_transition` shows that nothing else does.

Does not own any invariant of the server beyond `Owned`, the statement that
the pointers libuv holds are good.
-/

namespace Fiberio.Server

open Fiberio.Foundation

variable {Fib Sock : Type} [DecidableEq Fib]

/-- What `update_address` leaves in `host_` and `port_`. -/
def SockName.address (name : SockName) (host : String) (port : UInt16) : String × UInt16 :=
  match name with
  | .inet newHost newPort | .inet6 newHost newPort => (newHost, newPort)
  | .other => (host, port)

/-! ## The return of `close` -/

def Closer.operation : Closer → Operation
  | .user => .close
  | .destructor => .destroy

section CloseHandleDone

variable (state : State Fib Sock) (fib : Fib) (closer : Closer)

@[simp] theorem closeHandleDone_log : (state.closeHandleDone fib closer).log =
    state.log ++ [.notifyAll, .closeReturned, .finished fib closer.operation .returned] := by
  cases closer <;> simp [State.closeHandleDone, Closer.operation]

@[simp] theorem closeHandleDone_fiber : (state.closeHandleDone fib closer).fiber =
    Function.update (fun other => (state.fiber other).notify) fib (.idle (some .returned)) := by
  cases closer <;> rfl

@[simp] theorem closeHandleDone_pending :
    (state.closeHandleDone fib closer).pending = state.pending := by
  cases closer <;> rfl

@[simp] theorem closeHandleDone_closed :
    (state.closeHandleDone fib closer).closed = state.closed := by
  cases closer <;> rfl

@[simp] theorem closeHandleDone_tcp : (state.closeHandleDone fib closer).tcp = state.tcp := by
  cases closer <;> rfl

@[simp] theorem closeHandleDone_arrived :
    (state.closeHandleDone fib closer).arrived = state.arrived := by
  cases closer <;> rfl

end CloseHandleDone

/-! ## How a fiber comes to a call -/

/-- The fiber is at the loop of `accept`: it has just called it, or it was
woken inside. -/
inductive AcceptEntry (state : State Fib Sock) (fib : Fib) :
    Action Fib Sock → Int → Sock → Prop where
  | call {status : Int} {socket : Sock} (idle : (state.fiber fib).isIdle = true) :
      AcceptEntry state fib (.accept fib status socket) status socket
  | woken {answers : Answers Sock} (notified : state.fiber fib = .waitAccept true) :
      AcceptEntry state fib (.resume fib answers) answers.status answers.socket

/-- The fiber calls `close`; `life` is what the caller makes of the object. -/
inductive CloseEntry (state : State Fib Sock) (fib : Fib) :
    Action Fib Sock → Closer → Socket.Life → Prop where
  | user (idle : (state.fiber fib).isIdle = true) :
      CloseEntry state fib (.close fib) .user state.life
  | destructor (idle : ∀ other, (state.fiber other).isIdle = true) :
      CloseEntry state fib (.destroy fib) .destructor .destroying

/-- An operation ends without having touched the handle, the requests or the
count. `events` are the libuv calls it made on the way, `host` and `port` what
it leaves in `host_` and `port_`. -/
inductive Ends (state : State Fib Sock) (fib : Fib) : Action Fib Sock → Operation →
    Outcome Sock → List (Event Fib Sock) → String → UInt16 → Prop where
  | lookupFails {host : String} {port : UInt16} {status : Int} {exc : Exc}
      (idle : (state.fiber fib).isIdle = true) (failed : checkUvStatus status = .error exc) :
      Ends state fib (.bind fib host port status) .bind (.threw exc) [.uvGetaddrinfo] host port
  | unresolved {serial : Nat} {exc : Exc} {answers : Answers Sock}
      (answered : state.fiber fib = .wait .getaddrinfo serial (.set (.error exc))) :
      Ends state fib (.resume fib answers) .bind (.threw exc) [] state.host state.port
  | bindFails {serial : Nat} {exc : Exc} {answers : Answers Sock}
      (answered : state.fiber fib = .wait .getaddrinfo serial (.set (.ok ())))
      (failed : checkUvStatus answers.status = .error exc) :
      Ends state fib (.resume fib answers) .bind (.threw exc) [.uvTcpBind] state.host state.port
  | nameFails {serial : Nat} {exc : Exc} {answers : Answers Sock}
      (answered : state.fiber fib = .wait .getaddrinfo serial (.set (.ok ())))
      (bound : 0 ≤ answers.status) (failed : checkUvStatus answers.nameStatus = .error exc) :
      Ends state fib (.resume fib answers) .bind (.threw exc) [.uvTcpBind, .uvTcpGetsockname]
        state.host state.port
  | binds {serial : Nat} {answers : Answers Sock}
      (answered : state.fiber fib = .wait .getaddrinfo serial (.set (.ok ())))
      (bound : 0 ≤ answers.status) (named : 0 ≤ answers.nameStatus) :
      Ends state fib (.resume fib answers) .bind .returned [.uvTcpBind, .uvTcpGetsockname]
        (answers.name.address state.host state.port).1
        (answers.name.address state.host state.port).2
  | listenFails {status : Int} {exc : Exc} (idle : (state.fiber fib).isIdle = true)
      (failed : checkUvStatus status = .error exc) :
      Ends state fib (.listen fib status) .listen (.threw exc) [.uvListen] state.host state.port
  | acceptStops {action : Action Fib Sock} {status : Int} {socket : Sock}
      (entry : AcceptEntry state fib action status socket) (closed : state.closed = true) :
      Ends state fib action .accept (.threw (.runtimeError "connection closed")) []
        state.host state.port
  | acceptUnwinds {socket : Sock} {exc : Exc}
      (unwinding : state.fiber fib = .unwinding socket exc) :
      Ends state fib (.unwound fib) .accept (.threw exc) [] state.host state.port
  | closesAgain (idle : (state.fiber fib).isIdle = true) (closed : state.closed = true) :
      Ends state fib (.close fib) .close .returned [] state.host state.port

/-! ## What one step can do -/

inductive Transition (state : State Fib Sock) : Action Fib Sock → State Fib Sock → Prop where
  | ends {fib : Fib} {action : Action Fib Sock} {operation : Operation}
      {outcome : Outcome Sock} {events : List (Event Fib Sock)} {host : String}
      {port : UInt16} (ends : Ends state fib action operation outcome events host port) :
      Transition state action
        ({ state with host := host, port := port, log := state.log ++ events }.finish fib
          operation outcome)
  | resolves {fib : Fib} {host : String} {port : UInt16} {status : Int}
      (idle : (state.fiber fib).isIdle = true) :
      Transition state (.bind fib host port status)
        ({ state.emit .uvGetaddrinfo with host := host, port := port }.register fib)
  | listens {fib : Fib} {status : Int} (idle : (state.fiber fib).isIdle = true) :
      Transition state (.listen fib status)
        ({ state.emit .uvListen with tcp := { state.tcp with listening := true } }.finish fib
          .listen .returned)
  | waits {fib : Fib} {action : Action Fib Sock} {status : Int} {socket : Sock}
      (entry : AcceptEntry state fib action status socket) (none : state.pending = 0)
      (isOpen : state.closed = false) :
      Transition state action (state.setFiber fib (.waitAccept false))
  | accepts {fib : Fib} {action : Action Fib Sock} {status : Int} {socket : Sock}
      (entry : AcceptEntry state fib action status socket) (some : state.pending ≠ 0)
      (isOpen : state.closed = false) (held : state.tcp.held ≠ []) (accepted : 0 ≤ status) :
      Transition state action
        ((state.take fib socket status).finish fib .accept (.accepted socket))
  | acceptFails {fib : Fib} {action : Action Fib Sock} {status : Int} {socket : Sock}
      {exc : Exc} (entry : AcceptEntry state fib action status socket)
      (some : state.pending ≠ 0) (isOpen : state.closed = false)
      (failed : checkUvStatus status = .error exc) :
      Transition state action
        ((state.take fib socket status).setFiber fib (.unwinding socket exc))
  | closes {fib : Fib} {action : Action Fib Sock} {closer : Closer} {life : Socket.Life}
      (entry : CloseEntry state fib action closer life) (isOpen : state.closed = false) :
      Transition state action
        ({ state with closed := true, life := life }.closeHandle fib closer)
  | closeReturns {fib : Fib} {closer : Closer} {serial : Nat} {result : Except Exc Unit}
      {answers : Answers Sock}
      (ran : state.fiber fib = .wait (.closeHandle closer) serial (.set result)) :
      Transition state (.resume fib answers) (state.closeHandleDone fib closer)
  | destroysClosed {fib : Fib} (idle : ∀ other, (state.fiber other).isIdle = true)
      (closed : state.closed = true) :
      Transition state (.destroy fib)
        ({ state with life := .destroyed }.finish fib .destroy .returned)
  | completes {id : Nat} {status : Int} {request : Request Fib}
      (registered : state.requests.find? (fun request => request.id == id) = some request)
      (awaits : state.fiber request.data.fiber = .wait .getaddrinfo request.id .unset) :
      Transition state (.complete id status)
        ({ state.emit (.callback id status) with
            requests := state.requests.erase request }.setFiber
          request.data.fiber (.wait .getaddrinfo request.id (.set (checkUvStatus status))))
  | connects {status : Int} (listening : state.tcp.listening = true)
      (live : state.tcp.closing = false) (reported : status ≤ 0) :
      Transition state (.connectionCallback status)
        ({ (state.emit (.connectionCallback status)).arrive status with
            fault := state.fault || state.tcp.data != HandleData.server }.onConnection status)
  | handleCloses {fib : Fib} {closer : Closer} {serial : Nat}
      (closing : state.tcp.closing = true) (pending : state.tcp.closed = false)
      (awaits : state.fiber fib = .wait (.closeHandle closer) serial .unset) :
      Transition state .onHandleClosed
        ({ state.emit .onHandleClosed with tcp := { state.tcp with closed := true } }.setFiber
          fib (.wait (.closeHandle closer) serial (.set (.ok ()))))

/-! ## Who owns what libuv points to -/

/-- Every pointer that libuv holds leads to a call that is suspended on it,
and `closed_` is set exactly when `uv_close` was issued. -/
structure Owned (state : State Fib Sock) : Prop where
  fresh : ∀ fib waiting serial promise, state.fiber fib = .wait waiting serial promise →
    serial < state.serials
  pending : ∀ request ∈ state.requests, request.data.serial = request.id ∧
    state.fiber request.data.fiber = .wait .getaddrinfo request.id .unset
  distinct : (state.requests.map Request.id).Nodup
  registered : ∀ fib serial, state.fiber fib = .wait .getaddrinfo serial .unset →
    ∃ request ∈ state.requests, request.id = serial ∧ request.data = ⟨fib, serial⟩
  handle : ∀ fib closer serial promise,
    state.fiber fib = .wait (.closeHandle closer) serial promise →
      state.tcp.closing = true ∧ state.tcp.data = .promise ⟨fib, serial⟩ ∧
        (state.tcp.closed = true ↔ promise ≠ .unset)
  closing : state.tcp.closing = true → state.tcp.closed = false →
    ∃ fib closer serial, state.fiber fib = .wait (.closeHandle closer) serial .unset
  object : state.tcp.closing = false → state.tcp.data = .server ∧ state.tcp.closed = false
  closed_eq : state.closed = state.tcp.closing
  sound : state.fault = false

/-! ## Nothing else happens -/

section Inversion

variable {state : State Fib Sock} {fib : Fib}

omit [DecidableEq Fib] in
theorem canCall_idle (enabled : state.canCall fib = true) :
    (state.fiber fib).isIdle = true := by
  rw [State.canCall, Bool.and_eq_true] at enabled
  exact enabled.2

/-- An operation that ends without any libuv call. -/
theorem ends_silently {action : Action Fib Sock} {operation : Operation}
    {outcome : Outcome Sock}
    (ends : Ends state fib action operation outcome [] state.host state.port) :
    Transition state action (state.finish fib operation outcome) := by
  have quiet : Transition state action _ := .ends ends
  simpa using quiet

theorem bind_transition {host : String} {port : UInt16} {status : Int}
    (idle : (state.fiber fib).isIdle = true) :
    Transition state (.bind fib host port status) (state.bind fib host port status) := by
  unfold State.bind
  simp only
  split
  · rename_i failed
    exact .ends (.lookupFails idle failed)
  · exact .resolves idle

theorem bindResolved_transition {serial : Nat} {result : Except Exc Unit}
    {answers : Answers Sock}
    (answered : state.fiber fib = .wait .getaddrinfo serial (.set result)) :
    Transition state (.resume fib answers)
      (state.bindResolved fib result answers.status answers.nameStatus answers.name) := by
  unfold State.bindResolved
  cases result with
  | error exc => exact ends_silently (.unresolved answered)
  | ok value =>
      simp only
      split
      · rename_i failed
        exact .ends (.bindFails answered failed)
      · rename_i bound
        have bound := checkUvStatus_eq_ok_iff.mp bound
        unfold State.updateAddress
        simp only
        split
        · rename_i failed
          have quiet : Transition state (.resume fib answers) _ :=
            .ends (.nameFails answered bound failed)
          simpa [State.emit] using quiet
        · rename_i named
          have quiet : Transition state (.resume fib answers) _ :=
            .ends (.binds answered bound (checkUvStatus_eq_ok_iff.mp named))
          cases named : answers.name with
          | inet host port => simpa [State.emit, named, SockName.address] using quiet
          | inet6 host port => simpa [State.emit, named, SockName.address] using quiet
          | other => simpa [State.emit, named, SockName.address] using quiet

theorem listen_transition {status : Int} (idle : (state.fiber fib).isIdle = true) :
    Transition state (.listen fib status) (state.listen fib status) := by
  unfold State.listen
  split
  · rename_i failed
    exact .ends (.listenFails idle failed)
  · exact .listens idle

theorem accept_transition {action : Action Fib Sock} {status : Int} {socket : Sock}
    {after : State Fib Sock} (entry : AcceptEntry state fib action status socket)
    (stepped : state.accept fib status socket = some after) :
    Transition state action after := by
  unfold State.accept at stepped
  by_cases closed : state.closed = true
  · rw [if_neg (by simp [closed]), if_pos closed] at stepped
    cases stepped
    exact ends_silently (.acceptStops entry closed)
  · have isOpen : state.closed = false := by simpa using closed
    by_cases none : state.pending = 0
    · rw [if_pos (by simp [none, isOpen])] at stepped
      cases stepped
      exact .waits entry none isOpen
    · rw [if_neg (by simp [none]), if_neg closed] at stepped
      obtain ⟨possible, stepped⟩ := Option.ite_none_left_eq_some.mp stepped
      split at stepped
      · rename_i failed
        cases stepped
        exact .acceptFails entry none isOpen failed
      · rename_i passed
        cases stepped
        have accepted := checkUvStatus_eq_ok_iff.mp passed
        exact .accepts entry none isOpen (fun empty => possible ⟨empty, accepted⟩) accepted

theorem resume_transition {answers : Answers Sock} {after : State Fib Sock}
    (stepped : state.resume fib answers = some after) :
    Transition state (.resume fib answers) after := by
  unfold State.resume at stepped
  split at stepped
  · rename_i notified
    exact accept_transition (.woken notified) stepped
  · rename_i answered
    cases stepped
    exact bindResolved_transition answered
  · rename_i ran
    cases stepped
    exact .closeReturns ran
  · cases stepped

theorem unwound_transition {after : State Fib Sock} (stepped : state.unwound fib = some after) :
    Transition state (.unwound fib) after := by
  unfold State.unwound at stepped
  split at stepped
  · rename_i unwinding
    cases stepped
    exact ends_silently (.acceptUnwinds unwinding)
  · cases stepped

/-- The promise behind a pointer is there and unset. -/
theorem resolve_eq {ref : Socket.PromiseRef Fib} {waiting : Waiting}
    {result : Except Exc Unit}
    (awaits : state.fiber ref.fiber = .wait waiting ref.serial .unset) :
    state.resolve ref result =
      state.setFiber ref.fiber (.wait waiting ref.serial (.set result)) := by
  unfold State.resolve
  rw [awaits]
  simp

theorem complete_transition {id : Nat} {status : Int} {after : State Fib Sock}
    (owned : Owned state) (stepped : state.complete id status = some after) :
    Transition state (.complete id status) after := by
  unfold State.complete at stepped
  split at stepped
  · cases stepped
  · rename_i request registered
    cases stepped
    obtain ⟨serial_eq, awaits⟩ := owned.pending request (List.mem_of_find?_eq_some registered)
    rw [resolve_eq (by rw [serial_eq]; exact awaits), serial_eq]
    exact .completes registered awaits

theorem connectionCallback_transition {status : Int} {after : State Fib Sock}
    (stepped : state.connectionCallback status = some after) :
    Transition state (.connectionCallback status) after := by
  obtain ⟨enabled, result⟩ := Option.ite_none_right_eq_some.mp stepped
  cases result
  rw [Bool.and_eq_true, Bool.and_eq_true, Bool.not_eq_true', decide_eq_true_eq] at enabled
  exact .connects enabled.1.1 enabled.1.2 enabled.2

theorem onHandleClosed_transition {after : State Fib Sock} (owned : Owned state)
    (stepped : state.onHandleClosed = some after) :
    Transition state .onHandleClosed after := by
  obtain ⟨enabled, result⟩ := Option.ite_none_right_eq_some.mp stepped
  rw [Bool.and_eq_true, Bool.not_eq_true'] at enabled
  obtain ⟨closing, pending⟩ := enabled
  obtain ⟨fib, closer, serial, awaits⟩ := owned.closing closing pending
  have data : state.tcp.data = .promise ⟨fib, serial⟩ := (owned.handle _ _ _ _ awaits).2.1
  simp only at result
  split at result
  · rename_i ref points
    cases data.symm.trans points
    cases result
    rw [resolve_eq awaits]
    exact .handleCloses closing pending awaits
  · rename_i points
    cases data.symm.trans points

end Inversion

/-- Every step is one of the listed transitions. -/
theorem step_transition [Fintype Fib] {before after : State Fib Sock}
    {action : Action Fib Sock} (owned : Owned before)
    (stepped : (machine Fib Sock).step before action = some after) :
    Transition before action after := by
  have stepped : before.step action = some after := stepped
  cases action with
  | bind fib host port status =>
      obtain ⟨enabled, result⟩ := Option.ite_none_right_eq_some.mp stepped
      cases result
      exact bind_transition (canCall_idle enabled)
  | listen fib status =>
      obtain ⟨enabled, result⟩ := Option.ite_none_right_eq_some.mp stepped
      cases result
      exact listen_transition (canCall_idle enabled)
  | accept fib status socket =>
      obtain ⟨enabled, result⟩ := Option.ite_none_right_eq_some.mp stepped
      exact accept_transition (.call (canCall_idle enabled)) result
  | close fib =>
      obtain ⟨enabled, result⟩ := Option.ite_none_right_eq_some.mp stepped
      cases result
      have idle := canCall_idle enabled
      unfold State.userClose
      split
      · rename_i closed
        exact ends_silently (.closesAgain idle closed)
      · rename_i isOpen
        exact .closes (.user idle) (by simpa using isOpen)
  | destroy fib =>
      obtain ⟨enabled, result⟩ := Option.ite_none_right_eq_some.mp stepped
      cases result
      unfold State.destroy
      split
      · rename_i closed
        exact .destroysClosed enabled.2 closed
      · rename_i isOpen
        exact .closes (.destructor enabled.2) (by simpa using isOpen)
  | resume fib answers => exact resume_transition stepped
  | unwound fib => exact unwound_transition stepped
  | complete id status => exact complete_transition owned stepped
  | connectionCallback status => exact connectionCallback_transition stepped
  | onHandleClosed => exact onHandleClosed_transition owned stepped

/-! ## Exceptions and the log -/

section Log

variable {state after : State Fib Sock} {action : Action Fib Sock} {fib : Fib}

/-- The log only grows. -/
theorem Transition.log_prefix (transition : Transition state action after) :
    state.log <+: after.log := by
  cases transition <;> simp

/-- An exception in the log is an old one, or that of an operation that ends
in this step. -/
theorem Transition.thrown {operation : Operation} {exc : Exc}
    (transition : Transition state action after)
    (member : .finished fib operation (.threw exc) ∈ after.log) :
    .finished fib operation (.threw exc) ∈ state.log ∨
      ∃ events host port, Ends state fib action operation (.threw exc) events host port := by
  cases transition with
  | @ends ending _ ended outcome events host port ends =>
      rw [State.finish_log, List.mem_append, List.mem_append, List.mem_singleton] at member
      rcases member with (old | early) | new
      · exact .inl old
      · cases ends <;> simp at early
      · injection new with sameFiber sameOperation sameOutcome
        subst sameFiber sameOperation sameOutcome
        exact .inr ⟨events, host, port, ends⟩
  | resolves _ | listens _ | waits _ _ _ | accepts _ _ _ _ _ | acceptFails _ _ _ _ | closes _ _
  | closeReturns _ | destroysClosed _ _ | completes _ _ | connects _ _ _ | handleCloses _ _ _ =>
      exact .inl (by simpa using member)

@[simp] theorem Fiber.notify_eq_unwinding_iff {fiber : Fiber Sock} {socket : Sock} {exc : Exc} :
    fiber.notify = .unwinding socket exc ↔ fiber = .unwinding socket exc := by
  cases fiber <;> simp [Fiber.notify]

/-- A fiber that turns to something else than unwinding. -/
theorem unwinding_of_update {fiber : Fib → Fiber Sock} {value : Fiber Sock} {other : Fib}
    {socket : Sock} {exc : Exc} (plain : ∀ socket exc, value ≠ .unwinding socket exc)
    (unwinds : Function.update fiber fib value other = .unwinding socket exc) :
    fiber other = .unwinding socket exc := by
  by_cases same : other = fib
  · rw [same, Function.update_self] at unwinds
    exact absurd unwinds (plain socket exc)
  · rwa [Function.update_of_ne same] at unwinds

/-- An exception that unwinds `accept` does so already, or comes from the
`uv_accept` of this step. -/
theorem Transition.unwinding {socket : Sock} {exc : Exc}
    (transition : Transition state action after)
    (unwinding : after.fiber fib = .unwinding socket exc) :
    state.fiber fib = .unwinding socket exc ∨ ∃ status,
      AcceptEntry state fib action status socket ∧ state.pending ≠ 0 ∧
        checkUvStatus status = .error exc ∧
        .uvAccept fib state.tcp.held.head? socket status ∈ after.log := by
  cases transition with
  | @acceptFails accepting _ status _ raised entry some _ failed =>
      by_cases same : fib = accepting
      · subst same
        rw [State.setFiber_fiber, Function.update_self] at unwinding
        cases unwinding
        exact .inr ⟨status, entry, some, failed, by simp⟩
      · rw [State.setFiber_fiber, Function.update_of_ne same] at unwinding
        exact .inl unwinding
  | closeReturns _ =>
      rw [closeHandleDone_fiber] at unwinding
      have notified := unwinding_of_update (by simp) unwinding
      exact .inl (Fiber.notify_eq_unwinding_iff.mp notified)
  | connects _ _ _ => exact .inl (Fiber.notify_eq_unwinding_iff.mp unwinding)
  | ends _ | resolves _ | listens _ | waits _ _ _ | accepts _ _ _ _ _ | closes _ _
  | destroysClosed _ _ | completes _ _ | handleCloses _ _ _ =>
      exact .inl (unwinding_of_update (by simp) unwinding)

end Log

end Fiberio.Server
