import Fiberio.Foundation.Ledger
import Fiberio.Server.Transition

/-!
Owns the proof that no run of the server socket leaves a pointer of libuv
dangling: `Owned` holds initially and every transition keeps it, so every
reachable step is a `Transition`.

Does not own which fiber gets which connection.
-/

namespace Fiberio.Server

open Fiberio.Foundation

variable {Fib Sock : Type}

/-- libuv finds a registered request. -/
theorem Owned.find_request {state : State Fib Sock} {request : Request Fib} (owned : Owned state)
    (member : request ∈ state.requests) :
    state.requests.find? (fun other => other.id == request.id) = some request :=
  find_of_distinct owned.distinct member

/-! ## Fibers that libuv does not point into -/

/-- Nothing that libuv holds points into the fiber. -/
def Fiber.Settled (fiber : Fiber Sock) : Prop :=
  ∀ waiting serial, fiber ≠ .wait waiting serial .unset

/-- The fiber does not wait on a promise. -/
def Fiber.Promiseless (fiber : Fiber Sock) : Prop :=
  ∀ waiting serial promise, fiber ≠ .wait waiting serial promise

theorem Fiber.idle_settled {fiber : Fiber Sock} (idle : fiber.isIdle = true) :
    fiber.Settled := by
  intro waiting serial awaits
  rw [awaits] at idle
  cases idle

theorem Fiber.settled_of_set {fiber : Fiber Sock} {waiting : Waiting} {serial : Nat}
    {result : Except Exc Unit} (isSet : fiber = .wait waiting serial (.set result)) :
    fiber.Settled := by
  intro _ _ unset
  rw [isSet] at unset
  cases unset

/-- `notify_all` leaves a wait on a promise alone. -/
@[simp] theorem Fiber.notify_eq_wait_iff {fiber : Fiber Sock} {waiting : Waiting}
    {serial : Nat} {promise : Socket.PromiseState} :
    fiber.notify = .wait waiting serial promise ↔ fiber = .wait waiting serial promise := by
  cases fiber <;> simp [Fiber.notify]

theorem AcceptEntry.settled {state : State Fib Sock} {fib : Fib} {action : Action Fib Sock}
    {status : Int} {socket : Sock} (entry : AcceptEntry state fib action status socket) :
    (state.fiber fib).Settled := by
  cases entry with
  | call idle => exact Fiber.idle_settled idle
  | woken notified =>
      intro waiting serial awaits
      rw [notified] at awaits
      cases awaits

theorem CloseEntry.settled {state : State Fib Sock} {fib : Fib} {action : Action Fib Sock}
    {closer : Closer} {life : Socket.Life} (entry : CloseEntry state fib action closer life) :
    (state.fiber fib).Settled := by
  cases entry with
  | user idle => exact Fiber.idle_settled idle
  | destructor idle => exact Fiber.idle_settled (idle fib)

theorem Ends.settled {state : State Fib Sock} {fib : Fib} {action : Action Fib Sock}
    {operation : Operation} {outcome : Outcome Sock} {events : List (Event Fib Sock)}
    {host : String} {port : UInt16}
    (ends : Ends state fib action operation outcome events host port) :
    (state.fiber fib).Settled := by
  cases ends with
  | lookupFails idle _ | listenFails idle _ | closesAgain idle _ => exact Fiber.idle_settled idle
  | unresolved answered => exact Fiber.settled_of_set answered
  | bindFails answered _ => exact Fiber.settled_of_set answered
  | nameFails answered _ _ => exact Fiber.settled_of_set answered
  | binds answered _ _ => exact Fiber.settled_of_set answered
  | acceptStops entry _ => exact entry.settled
  | acceptUnwinds unwinding =>
      intro waiting serial awaits
      rw [unwinding] at awaits
      cases awaits

/-! ## One kind of change at a time -/

namespace Owned

variable {state after : State Fib Sock} {fib : Fib}

theorem initial (port : UInt16) : Owned (initial port : State Fib Sock) := by
  constructor <;> simp [Server.initial]

/-- Only the waits, the handle and the registered requests matter. -/
theorem congr (owned : Owned state)
    (waits : ∀ fib waiting serial promise, after.fiber fib = .wait waiting serial promise ↔
      state.fiber fib = .wait waiting serial promise)
    (closed : after.closed = state.closed) (data : after.tcp.data = state.tcp.data)
    (closing : after.tcp.closing = state.tcp.closing)
    (handleClosed : after.tcp.closed = state.tcp.closed)
    (requests : after.requests = state.requests) (serials : after.serials = state.serials)
    (fault : after.fault = false) : Owned after := by
  constructor
  · simpa only [waits, serials] using owned.fresh
  · simpa only [waits, requests] using owned.pending
  · simpa only [requests] using owned.distinct
  · simpa only [waits, requests] using owned.registered
  · simpa only [waits, closing, data, handleClosed] using owned.handle
  · simpa only [waits, closing, handleClosed] using owned.closing
  · simpa only [closing, data, handleClosed] using owned.object
  · simpa only [closed, closing] using owned.closed_eq
  · exact fault

/-- Nothing that `Owned` speaks about changes. -/
theorem unaffected (owned : Owned state) (fiber : after.fiber = state.fiber)
    (closed : after.closed = state.closed) (data : after.tcp.data = state.tcp.data)
    (closing : after.tcp.closing = state.tcp.closing)
    (handleClosed : after.tcp.closed = state.tcp.closed)
    (requests : after.requests = state.requests) (serials : after.serials = state.serials)
    (fault : after.fault = state.fault) : Owned after := by
  refine owned.congr ?_ closed data closing handleClosed requests serials
    (fault.trans owned.sound)
  simp [fiber]

theorem notifyAll (owned : Owned state) : Owned state.notifyAll := by
  refine owned.congr ?_ rfl rfl rfl rfl rfl rfl owned.sound
  intro other waiting serial promise
  rw [State.notifyAll_fiber, Fiber.notify_eq_wait_iff]

variable [DecidableEq Fib]

/-- A settled fiber turns to something that is not a promise. -/
theorem leave {value : Fiber Sock} (owned : Owned state)
    (settled : (state.fiber fib).Settled) (plain : value.Promiseless) :
    Owned (state.setFiber fib value) := by
  have earlier : ∀ other waiting serial promise,
      (state.setFiber fib value).fiber other = .wait waiting serial promise →
        state.fiber other = .wait waiting serial promise := by
    intro other waiting serial promise awaits
    by_cases same : other = fib
    · rw [same, State.setFiber_fiber, Function.update_self] at awaits
      exact absurd awaits (plain waiting serial promise)
    · rwa [State.setFiber_fiber, Function.update_of_ne same] at awaits
  have still : ∀ other waiting serial, state.fiber other = .wait waiting serial .unset →
      (state.setFiber fib value).fiber other = .wait waiting serial .unset := by
    intro other waiting serial awaits
    have differs : other ≠ fib := by
      intro same
      rw [same] at awaits
      exact settled _ _ awaits
    rwa [State.setFiber_fiber, Function.update_of_ne differs]
  constructor
  · exact fun _ _ _ _ awaits => owned.fresh _ _ _ _ (earlier _ _ _ _ awaits)
  · intro request member
    obtain ⟨serial_eq, awaits⟩ := owned.pending request member
    exact ⟨serial_eq, still _ _ _ awaits⟩
  · exact owned.distinct
  · exact fun _ _ awaits => owned.registered _ _ (earlier _ _ _ _ awaits)
  · exact fun _ _ _ _ awaits => owned.handle _ _ _ _ (earlier _ _ _ _ awaits)
  · intro closing unclosed
    obtain ⟨other, closer, serial, awaits⟩ := owned.closing closing unclosed
    exact ⟨other, closer, serial, still _ _ _ awaits⟩
  · exact owned.object
  · exact owned.closed_eq
  · exact owned.sound

theorem finish {operation : Operation} {outcome : Outcome Sock} (owned : Owned state)
    (settled : (state.fiber fib).Settled) : Owned (state.finish fib operation outcome) := by
  have left : Owned (state.setFiber fib (.idle (some outcome))) := by
    apply owned.leave settled
    intro _ _ _ awaits
    cases awaits
  exact left.unaffected rfl rfl rfl rfl rfl rfl rfl rfl

/-- How the waits change when a fiber turns to a promise. -/
theorem wait_iff {waiting : Waiting} {serial : Nat} {promise : Socket.PromiseState}
    {other : Fib} {waiting' : Waiting} {serial' : Nat} {promise' : Socket.PromiseState} :
    Function.update state.fiber fib (.wait waiting serial promise) other =
        .wait waiting' serial' promise' ↔
      (other = fib ∧ waiting' = waiting ∧ serial' = serial ∧ promise' = promise) ∨
        (other ≠ fib ∧ state.fiber other = .wait waiting' serial' promise') := by
  by_cases same : other = fib
  · subst same
    simp [eq_comm]
  · simp [same]

/-- A settled fiber asks for an address and waits on its own promise. -/
theorem register (owned : Owned state) (settled : (state.fiber fib).Settled) :
    Owned (state.register fib) := by
  have waits : ∀ other waiting serial promise,
      (state.register fib).fiber other = .wait waiting serial promise ↔
        (other = fib ∧ waiting = .getaddrinfo ∧ serial = state.serials ∧ promise = .unset) ∨
          (other ≠ fib ∧ state.fiber other = .wait waiting serial promise) :=
    fun _ _ _ _ => wait_iff
  have still : ∀ other waiting serial, state.fiber other = .wait waiting serial .unset →
      (state.register fib).fiber other = .wait waiting serial .unset := by
    intro other waiting serial awaits
    apply (waits _ _ _ _).mpr
    refine .inr ⟨?_, awaits⟩
    intro same
    exact settled _ _ (same ▸ awaits)
  constructor
  · intro other waiting serial promise awaits
    show serial < state.serials + 1
    rcases (waits _ _ _ _).mp awaits with ⟨_, _, isNew, _⟩ | ⟨_, earlier⟩
    · omega
    · have := owned.fresh _ _ _ _ earlier
      omega
  · intro request member
    rcases List.mem_append.mp member with earlier | new
    · obtain ⟨serial_eq, awaits⟩ := owned.pending request earlier
      exact ⟨serial_eq, still _ _ _ awaits⟩
    · rw [List.mem_singleton] at new
      subst new
      exact ⟨rfl, (waits _ _ _ _).mpr (.inl ⟨rfl, rfl, rfl, rfl⟩)⟩
  · rw [State.register_requests, List.map_append, List.nodup_append]
    refine ⟨owned.distinct, by simp, ?_⟩
    intro id member new isNew
    obtain ⟨request, listed, rfl⟩ := List.mem_map.mp member
    have := owned.fresh _ _ _ _ (owned.pending request listed).2
    have isNew : new = state.serials := by simpa using isNew
    omega
  · intro other serial awaits
    rcases (waits _ _ _ _).mp awaits with ⟨rfl, _, rfl, _⟩ | ⟨_, earlier⟩
    · exact ⟨_, List.mem_append_right _ (List.mem_singleton_self _), rfl, rfl⟩
    · obtain ⟨request, member, known⟩ := owned.registered _ _ earlier
      exact ⟨request, List.mem_append_left _ member, known⟩
  · intro other closer serial promise awaits
    rcases (waits _ _ _ _).mp awaits with ⟨_, isHandle, _⟩ | ⟨_, earlier⟩
    · cases isHandle
    · exact owned.handle _ _ _ _ earlier
  · intro closing unclosed
    obtain ⟨other, closer, serial, awaits⟩ := owned.closing closing unclosed
    exact ⟨other, closer, serial, still _ _ _ awaits⟩
  · exact owned.object
  · exact owned.closed_eq
  · exact owned.sound

/-- `closed_` is set and the handle's data pointer is redirected to a promise
of the closing fiber. -/
theorem closeHandle {closer : Closer} {life : Socket.Life} (owned : Owned state)
    (settled : (state.fiber fib).Settled) (isOpen : state.closed = false) :
    Owned ({ state with closed := true, life := life }.closeHandle fib closer) := by
  have live : state.tcp.closing = false := owned.closed_eq.symm.trans isOpen
  have waits : ∀ other waiting serial promise,
      ({ state with closed := true, life := life }.closeHandle fib closer).fiber other =
          .wait waiting serial promise ↔
        (other = fib ∧ waiting = .closeHandle closer ∧ serial = state.serials ∧
          promise = .unset) ∨
          (other ≠ fib ∧ state.fiber other = .wait waiting serial promise) :=
    fun _ _ _ _ => wait_iff
  constructor
  · intro other waiting serial promise awaits
    show serial < state.serials + 1
    rcases (waits _ _ _ _).mp awaits with ⟨_, _, isNew, _⟩ | ⟨_, earlier⟩
    · omega
    · have := owned.fresh _ _ _ _ earlier
      omega
  · intro request member
    obtain ⟨serial_eq, awaits⟩ := owned.pending request member
    refine ⟨serial_eq, (waits _ _ _ _).mpr (.inr ⟨?_, awaits⟩)⟩
    intro same
    exact settled _ _ (same ▸ awaits)
  · exact owned.distinct
  · intro other serial awaits
    rcases (waits _ _ _ _).mp awaits with ⟨_, isHandle, _⟩ | ⟨_, earlier⟩
    · cases isHandle
    · exact owned.registered _ _ earlier
  · intro other closer' serial promise awaits
    rcases (waits _ _ _ _).mp awaits with ⟨rfl, _, rfl, rfl⟩ | ⟨_, earlier⟩
    · refine ⟨rfl, rfl, ?_⟩
      simp [(owned.object live).2]
    · -- No other fiber is inside `close` on an open server.
      have closing := (owned.handle _ _ _ _ earlier).1
      rw [live] at closing
      cases closing
  · intro _ _
    exact ⟨fib, closer, state.serials, (waits _ _ _ _).mpr (.inl ⟨rfl, rfl, rfl, rfl⟩)⟩
  · intro notClosing
    cases notClosing
  · rfl
  · exact owned.sound

/-- `addrinfo_callback` answers a registered request through its data
pointer. -/
theorem answer {request : Request Fib} (result : Except Exc Unit) (owned : Owned state)
    (member : request ∈ state.requests)
    (awaits : state.fiber request.data.fiber = .wait .getaddrinfo request.id .unset) :
    Owned ({ state with requests := state.requests.erase request }.setFiber
      request.data.fiber (.wait .getaddrinfo request.id (.set result))) := by
  have waits : ∀ other waiting serial promise,
      Function.update state.fiber request.data.fiber
          (.wait .getaddrinfo request.id (.set result)) other = .wait waiting serial promise ↔
        (other = request.data.fiber ∧ waiting = .getaddrinfo ∧ serial = request.id ∧
          promise = .set result) ∨
          (other ≠ request.data.fiber ∧ state.fiber other = .wait waiting serial promise) :=
    fun _ _ _ _ => wait_iff
  -- Another request waits on another fiber, since its identifier differs.
  have elsewhere : ∀ other ∈ state.requests.erase request,
      other.data.fiber ≠ request.data.fiber := by
    intro other remaining same
    obtain ⟨registered, differs⟩ := mem_erase_of_distinct owned.distinct member remaining
    have awaits' := (owned.pending other registered).2
    rw [same, awaits] at awaits'
    injection awaits' with _ sameId
    exact differs sameId.symm
  constructor
  · intro other waiting serial promise now
    rcases (waits _ _ _ _).mp now with ⟨_, _, rfl, _⟩ | ⟨_, earlier⟩
    · exact owned.fresh _ _ _ _ awaits
    · exact owned.fresh _ _ _ _ earlier
  · intro other remaining
    obtain ⟨serial_eq, awaits'⟩ := owned.pending other (List.mem_of_mem_erase remaining)
    exact ⟨serial_eq, (waits _ _ _ _).mpr (.inr ⟨elsewhere other remaining, awaits'⟩)⟩
  · exact owned.distinct.sublist (List.erase_sublist.map _)
  · intro other serial now
    rcases (waits _ _ _ _).mp now with ⟨_, _, _, isSet⟩ | ⟨differs, before⟩
    · cases isSet
    · obtain ⟨owner, listed, id_eq, data_eq⟩ := owned.registered _ _ before
      refine ⟨owner, (List.mem_erase_of_ne ?_).mpr listed, id_eq, data_eq⟩
      intro same
      rw [← same, data_eq] at differs
      exact differs rfl
  · intro other closer serial promise now
    rcases (waits _ _ _ _).mp now with ⟨_, isHandle, _⟩ | ⟨_, earlier⟩
    · cases isHandle
    · exact owned.handle _ _ _ _ earlier
  · intro closing unclosed
    obtain ⟨other, closer, serial, before⟩ := owned.closing closing unclosed
    refine ⟨other, closer, serial, (waits _ _ _ _).mpr (.inr ⟨?_, before⟩)⟩
    intro same
    rw [same, awaits] at before
    cases before
  · exact owned.object
  · exact owned.closed_eq
  · exact owned.sound

/-- `on_handle_closed` resolves the promise of the closing fiber. -/
theorem handleClosed {closer : Closer} {serial : Nat} (owned : Owned state)
    (closing : state.tcp.closing = true)
    (awaits : state.fiber fib = .wait (.closeHandle closer) serial .unset) :
    Owned ({ state with tcp := { state.tcp with closed := true } }.setFiber fib
      (.wait (.closeHandle closer) serial (.set (.ok ())))) := by
  have data := (owned.handle _ _ _ _ awaits).2.1
  have waits : ∀ other waiting serial' promise,
      Function.update state.fiber fib (.wait (.closeHandle closer) serial (.set (.ok ())))
          other = .wait waiting serial' promise ↔
        (other = fib ∧ waiting = .closeHandle closer ∧ serial' = serial ∧
          promise = .set (.ok ())) ∨
          (other ≠ fib ∧ state.fiber other = .wait waiting serial' promise) :=
    fun _ _ _ _ => wait_iff
  constructor
  · intro other waiting serial' promise now
    rcases (waits _ _ _ _).mp now with ⟨_, _, rfl, _⟩ | ⟨_, earlier⟩
    · exact owned.fresh _ _ _ _ awaits
    · exact owned.fresh _ _ _ _ earlier
  · intro request member
    obtain ⟨serial_eq, before⟩ := owned.pending request member
    refine ⟨serial_eq, (waits _ _ _ _).mpr (.inr ⟨?_, before⟩)⟩
    intro same
    rw [same, awaits] at before
    cases before
  · exact owned.distinct
  · intro other serial' now
    rcases (waits _ _ _ _).mp now with ⟨_, isHandle, _⟩ | ⟨_, earlier⟩
    · cases isHandle
    · exact owned.registered _ _ earlier
  · intro other closer' serial' promise now
    rcases (waits _ _ _ _).mp now with ⟨rfl, _, rfl, rfl⟩ | ⟨differs, earlier⟩
    · refine ⟨closing, data, ?_⟩
      simp
    · -- The data pointer names one closing fiber only.
      have other_data := (owned.handle _ _ _ _ earlier).2.1
      rw [data] at other_data
      cases other_data
      exact absurd rfl differs
  · intro _ unclosed
    cases unclosed
  · intro notClosing
    exact absurd (closing.symm.trans notClosing) (by decide)
  · exact owned.closed_eq
  · exact owned.sound

end Owned

/-! ## Every transition keeps the ownership -/

variable [DecidableEq Fib]

theorem Transition.owned {state after : State Fib Sock} {action : Action Fib Sock}
    (transition : Transition state action after) (owned : Owned state) : Owned after := by
  cases transition with
  | ends ends =>
      refine Owned.finish ?_ ends.settled
      exact owned.unaffected rfl rfl rfl rfl rfl rfl rfl rfl
  | resolves idle =>
      refine Owned.register ?_ (Fiber.idle_settled idle)
      exact owned.unaffected rfl rfl rfl rfl rfl rfl rfl rfl
  | listens idle =>
      refine Owned.finish ?_ (Fiber.idle_settled idle)
      exact owned.unaffected rfl rfl rfl rfl rfl rfl rfl rfl
  | waits entry _ _ =>
      apply owned.leave entry.settled
      intro _ _ _ awaits
      cases awaits
  | accepts entry _ _ _ _ =>
      refine Owned.finish ?_ entry.settled
      exact owned.unaffected rfl rfl rfl rfl rfl rfl rfl rfl
  | acceptFails entry _ _ _ =>
      refine Owned.leave ?_ entry.settled ?_
      · exact owned.unaffected rfl rfl rfl rfl rfl rfl rfl rfl
      · intro _ _ _ awaits
        cases awaits
  | closes entry isOpen => exact owned.closeHandle entry.settled isOpen
  | @closeReturns fib closer serial result answers ran =>
      have settled : ((state.notifyAll.emit .closeReturned).fiber fib).Settled := by
        intro _ _ awaits
        rw [State.emit_fiber, State.notifyAll_fiber, Fiber.notify_eq_wait_iff, ran] at awaits
        cases awaits
      have kept : Owned (state.notifyAll.emit .closeReturned) :=
        owned.notifyAll.unaffected rfl rfl rfl rfl rfl rfl rfl rfl
      unfold State.closeHandleDone
      cases closer with
      | user => exact kept.finish settled
      | destructor =>
          refine Owned.finish ?_ settled
          exact kept.unaffected rfl rfl rfl rfl rfl rfl rfl rfl
  | destroysClosed idle _ =>
      refine Owned.finish ?_ (Fiber.idle_settled (idle _))
      exact owned.unaffected rfl rfl rfl rfl rfl rfl rfl rfl
  | @completes id status request registered awaits =>
      have answered := owned.answer (checkUvStatus status)
        (List.mem_of_find?_eq_some registered) awaits
      exact answered.unaffected rfl rfl rfl rfl rfl rfl rfl rfl
  | connects _ live _ =>
      have data : state.tcp.data = .server := (owned.object live).1
      apply Owned.notifyAll
      refine owned.congr (fun _ _ _ _ => Iff.rfl) rfl rfl rfl rfl rfl rfl ?_
      simp [owned.sound, data]
  | handleCloses closing _ awaits =>
      exact (owned.handleClosed closing awaits).unaffected rfl rfl rfl rfl rfl rfl rfl rfl

/-! ## Reachable states -/

variable [Fintype Fib] {allowed : State Fib Sock → Action Fib Sock → Prop}
  {state : State Fib Sock}

/-- In every reachable state libuv points only into suspended calls. -/
theorem reachable_owned (reachable : (machine Fib Sock).Reachable allowed state) :
    Owned state := by
  apply reachable.invariant
  · intro state initially
    obtain ⟨port, rfl⟩ := initially
    exact Owned.initial port
  · intro before action after owned _ stepped
    exact (step_transition owned stepped).owned owned

/-- The invariant rule of the server socket: an invariant is kept by every
transition of an owned state. -/
theorem reachable_invariant {Invariant : State Fib Sock → Prop}
    (reachable : (machine Fib Sock).Reachable allowed state)
    (initially : ∀ port, Invariant (initial port))
    (preserved : ∀ before action after, Owned before → Invariant before →
      allowed before action → Transition before action after → Invariant after) :
    Invariant state := by
  apply reachable.invariant_under (fun _ => reachable_owned)
  · intro state starts
    obtain ⟨port, rfl⟩ := starts
    exact initially port
  · intro before action after owned holds admitted stepped
    exact preserved before action after owned holds admitted (step_transition owned stepped)

end Fiberio.Server
