import Fiberio.Server.Counting

/-!
Owns what `accept` promises to the fibers that share a server socket: each
connection goes to one of them, none sleeps through one, and after a close
nobody gets one.

Does not own connection callbacks that report an error.
-/

namespace Fiberio.Server

open Fiberio.Foundation

variable {Fib Sock : Type}

/-- libuv reports connections only, and `uv_accept` succeeds when there is one
to take. -/
def Reliable (state : State Fib Sock) : Action Fib Sock → Prop
  | .connectionCallback status => status = 0
  | .accept _ status _ => state.tcp.held ≠ [] → 0 ≤ status
  | .resume fib answers =>
      state.fiber fib = .waitAccept true → state.tcp.held ≠ [] → 0 ≤ answers.status
  | _ => True

instance [DecidableEq Sock] (state : State Fib Sock) :
    (action : Action Fib Sock) → Decidable (Reliable state action)
  | .connectionCallback status => inferInstanceAs (Decidable (status = 0))
  | .accept _ status _ => inferInstanceAs (Decidable (state.tcp.held ≠ [] → 0 ≤ status))
  | .resume fib answers => inferInstanceAs (Decidable
      (state.fiber fib = .waitAccept true → state.tcp.held ≠ [] → 0 ≤ answers.status))
  | .bind _ _ _ _ | .listen _ _ | .close _ | .destroy _ | .unwound _ | .complete _ _
  | .onHandleClosed => .isTrue trivial

/-- What an `accept` on a closed server throws. -/
def connectionClosed : Outcome Sock := .threw (.runtimeError "connection closed")

/-! ## Connections and sockets -/

/-- The fiber and the socket a `uv_accept` was called for. -/
def Event.receiver : Event Fib Sock → Option (Fib × Sock)
  | .uvAccept fib _ socket _ => some (fib, socket)
  | _ => none

/-- The fiber and the socket of an `accept` that returned. -/
def Event.accepted : Event Fib Sock → Option (Fib × Sock)
  | .finished fib .accept (.accepted socket) => some (fib, socket)
  | _ => none

/-- Every `uv_accept` so far belongs to an `accept` that returned the socket,
in the same order. -/
def Delivered (log : List (Event Fib Sock)) : Prop :=
  log.filterMap Event.receiver = log.filterMap Event.accepted

theorem Delivered.append {log events : List (Event Fib Sock)} (delivered : Delivered log)
    (more : Delivered events) : Delivered (log ++ events) := by
  unfold Delivered at *
  rw [List.filterMap_append, List.filterMap_append, delivered, more]

theorem Ends.delivered {state : State Fib Sock} {fib : Fib} {action : Action Fib Sock}
    {operation : Operation} {outcome : Outcome Sock} {events : List (Event Fib Sock)}
    {host : String} {port : UInt16}
    (ends : Ends state fib action operation outcome events host port) :
    Delivered (events ++ [.finished fib operation outcome]) := by
  cases ends <;> rfl

/-- A `uv_accept` that finds a connection succeeds. -/
theorem AcceptEntry.succeeds {state : State Fib Sock} {fib : Fib} {action : Action Fib Sock}
    {status : Int} {socket : Sock} (entry : AcceptEntry state fib action status socket)
    (reliable : Reliable state action) (held : state.tcp.held ≠ []) : 0 ≤ status := by
  cases entry with
  | call _ => exact reliable held
  | woken notified => exact reliable notified held

theorem Reliable.reports {state : State Fib Sock} {action : Action Fib Sock}
    (reliable : Reliable state action) : ReportsConnection state action := by
  cases action with
  | connectionCallback status => exact Int.le_of_eq reliable.symm
  | _ => trivial

theorem Transition.delivered [DecidableEq Fib] {state after : State Fib Sock}
    {action : Action Fib Sock} (transition : Transition state action after)
    (counted : Counted state) (reliable : Reliable state action)
    (delivered : Delivered state.log) : Delivered after.log := by
  cases transition with
  | @ends fib _ operation outcome events _ _ ends =>
      rw [State.finish_log, List.append_assoc]
      exact delivered.append ends.delivered
  | resolves _ => exact delivered.append (rfl : Delivered [.uvGetaddrinfo])
  | @listens fib _ _ =>
      rw [State.finish_log, State.emit_log, List.append_assoc]
      exact delivered.append rfl
  | waits _ _ _ => exact delivered
  | accepts _ _ _ _ _ =>
      rw [State.finish_log, State.take_log, State.emit_log, List.append_assoc]
      exact delivered.append rfl
  | @acceptFails _ _ status _ exc entry some isOpen failed =>
      have succeeds := entry.succeeds reliable (counted.available isOpen some)
      rw [checkUvStatus_ok succeeds] at failed
      cases failed
  | closes _ _ => exact delivered.append (rfl : Delivered [.uvClose])
  | @closeReturns fib closer _ _ _ _ =>
      rw [closeHandleDone_log]
      cases closer <;> exact delivered.append rfl
  | @destroysClosed fib _ _ => exact delivered.append rfl
  | @completes id status _ _ _ =>
      exact delivered.append (rfl : Delivered [.callback id status])
  | @connects status _ _ _ =>
      rw [State.onConnection_log]
      exact (delivered.append (rfl : Delivered [.connectionCallback status])).append rfl
  | handleCloses _ _ _ => exact delivered.append (rfl : Delivered [.onHandleClosed])

/-! ## Sleeping fibers -/

/-- A fiber sleeps unnotified in `accept` only while there is nothing to
accept and no close has returned. -/
structure Attentive (state : State Fib Sock) : Prop where
  asleep : ∀ fib, state.fiber fib = .waitAccept false →
    .closeReturned ∉ state.log ∧ (state.closed = false → state.pending = 0)
  returned : .closeReturned ∈ state.log → state.closed = true
  closer : state.closed = true → .closeReturned ∉ state.log → ∃ fib closer serial promise,
    state.fiber fib = .wait (.closeHandle closer) serial promise
  dropped : state.closed = true → state.tcp.held = []

namespace Attentive

variable {state after : State Fib Sock} {fib : Fib}

theorem initial (port : UInt16) : Attentive (initial port : State Fib Sock) := by
  constructor
  · intro fib waits
    cases waits
  · intro returned
    cases returned
  · intro closed
    cases closed
  · intro closed
    cases closed

/-- Nobody falls asleep, and the closing fiber stays where it is. -/
theorem same (attentive : Attentive state) (events : List (Event Fib Sock))
    (log : after.log = state.log ++ events) (silent : .closeReturned ∉ events)
    (asleep : ∀ fib, after.fiber fib = .waitAccept false →
      state.fiber fib = .waitAccept false ∧ after.pending = state.pending)
    (closers : ∀ fib closer serial promise,
      state.fiber fib = .wait (.closeHandle closer) serial promise →
        ∃ promise, after.fiber fib = .wait (.closeHandle closer) serial promise)
    (closed : after.closed = state.closed)
    (held : state.tcp.held = [] → state.closed = true → after.tcp.held = []) :
    Attentive after := by
  have returned : .closeReturned ∈ after.log ↔ .closeReturned ∈ state.log := by
    rw [log, List.mem_append]
    exact or_iff_left silent
  constructor
  · intro fib waits
    obtain ⟨before, pending⟩ := asleep fib waits
    rw [returned, closed, pending]
    exact attentive.asleep fib before
  · rw [returned, closed]
    exact attentive.returned
  · intro isClosed notReturned
    rw [closed] at isClosed
    rw [returned] at notReturned
    obtain ⟨fib, closer, serial, promise, waits⟩ := attentive.closer isClosed notReturned
    obtain ⟨promise, now⟩ := closers fib closer serial promise waits
    exact ⟨fib, closer, serial, promise, now⟩
  · intro isClosed
    rw [closed] at isClosed
    exact held (attentive.dropped isClosed) isClosed

end Attentive

/-! ### One fiber moves -/

/-- The fiber is not inside `close`. -/
def Fiber.OutsideClose (fiber : Fiber Sock) : Prop :=
  ∀ closer serial promise, fiber ≠ .wait (.closeHandle closer) serial promise

theorem Fiber.idle_outsideClose {fiber : Fiber Sock} (idle : fiber.isIdle = true) :
    fiber.OutsideClose := by
  intro closer serial promise waits
  rw [waits] at idle
  cases idle

theorem AcceptEntry.outsideClose {state : State Fib Sock} {fib : Fib}
    {action : Action Fib Sock} {status : Int} {socket : Sock}
    (entry : AcceptEntry state fib action status socket) : (state.fiber fib).OutsideClose := by
  cases entry with
  | call idle => exact Fiber.idle_outsideClose idle
  | woken notified =>
      intro closer serial promise waits
      rw [notified] at waits
      cases waits

theorem Ends.outsideClose {state : State Fib Sock} {fib : Fib} {action : Action Fib Sock}
    {operation : Operation} {outcome : Outcome Sock} {events : List (Event Fib Sock)}
    {host : String} {port : UInt16}
    (ends : Ends state fib action operation outcome events host port) :
    (state.fiber fib).OutsideClose := by
  cases ends with
  | lookupFails idle _ | listenFails idle _ | closesAgain idle _ =>
      exact Fiber.idle_outsideClose idle
  | acceptStops entry _ => exact entry.outsideClose
  | unresolved here | bindFails here _ | nameFails here _ _ | binds here _ _
  | acceptUnwinds here =>
      intro closer serial promise waits
      rw [here] at waits
      cases waits

/-- No `notify_all` leaves a fiber asleep. -/
theorem Fiber.notify_ne_asleep (fiber : Fiber Sock) : fiber.notify ≠ .waitAccept false := by
  cases fiber <;> simp [Fiber.notify]

section Update

variable [DecidableEq Fib] {fiber : Fib → Fiber Sock} {fib : Fib} {value : Fiber Sock}

theorem asleep_of_update (awake : value ≠ .waitAccept false) {other : Fib}
    (waits : Function.update fiber fib value other = .waitAccept false) :
    fiber other = .waitAccept false := by
  by_cases same : other = fib
  · rw [same, Function.update_self] at waits
    exact absurd waits awake
  · rwa [Function.update_of_ne same] at waits

/-- The closing fiber is another one. -/
theorem closer_of_update (outside : (fiber fib).OutsideClose) {other : Fib} {closer : Closer}
    {serial : Nat} {promise : Socket.PromiseState}
    (waits : fiber other = .wait (.closeHandle closer) serial promise) :
    ∃ promise, Function.update fiber fib value other =
      .wait (.closeHandle closer) serial promise := by
  refine ⟨promise, ?_⟩
  rw [Function.update_of_ne]
  · exact waits
  · intro same
    rw [same] at waits
    exact outside _ _ _ waits

end Update

namespace Attentive

variable [DecidableEq Fib] {state after : State Fib Sock} {fib : Fib}

/-- One fiber that is outside `close` moves, and does not fall asleep. -/
theorem move {value : Fiber Sock} (attentive : Attentive state)
    (events : List (Event Fib Sock)) (log : after.log = state.log ++ events)
    (silent : .closeReturned ∉ events) (fiber : after.fiber = Function.update state.fiber fib value)
    (awake : value ≠ .waitAccept false) (outside : (state.fiber fib).OutsideClose)
    (pending : after.pending = state.pending) (closed : after.closed = state.closed)
    (held : after.tcp.held = state.tcp.held) : Attentive after := by
  refine attentive.same events log silent ?_ ?_ closed (fun empty _ => held.trans empty)
  · intro other waits
    rw [fiber] at waits
    exact ⟨asleep_of_update awake waits, pending⟩
  · intro other closer serial promise waits
    rw [fiber]
    exact closer_of_update outside waits

/-- A connection is taken, so nobody slept. -/
theorem take {value : Fiber Sock} {socket : Sock} {status : Int} (attentive : Attentive state)
    (events : List (Event Fib Sock)) (isOpen : state.closed = false) (some : state.pending ≠ 0)
    (log : after.log = (state.take fib socket status).log ++ events)
    (silent : .closeReturned ∉ events) (fiber : after.fiber = Function.update state.fiber fib value)
    (awake : value ≠ .waitAccept false) (outside : (state.fiber fib).OutsideClose)
    (closed : after.closed = state.closed) : Attentive after := by
  refine attentive.same (.uvAccept fib state.tcp.held.head? socket status :: events) ?_ ?_ ?_ ?_
    closed ?_
  · rw [log, State.take_log, State.emit_log, List.append_assoc]
    rfl
  · simpa using silent
  · intro other waits
    rw [fiber] at waits
    exact absurd ((attentive.asleep other (asleep_of_update awake waits)).2 isOpen) some
  · intro other closer serial promise waits
    rw [fiber]
    exact closer_of_update outside waits
  · intro _ isClosed
    rw [isOpen] at isClosed
    cases isClosed

omit [DecidableEq Fib] in
/-- On an open server no close has returned. -/
theorem notReturned (attentive : Attentive state) (isOpen : state.closed = false) :
    .closeReturned ∉ state.log := by
  intro returned
  have closed := attentive.returned returned
  rw [isOpen] at closed
  cases closed

end Attentive

theorem Transition.attentive [DecidableEq Fib] {state after : State Fib Sock}
    {action : Action Fib Sock} (transition : Transition state action after)
    (owned : Owned state) (attentive : Attentive state) : Attentive after := by
  cases transition with
  | @ends fib _ operation outcome events _ _ ends =>
      refine attentive.move (events ++ [.finished fib operation outcome]) ?_ ?_ rfl ?_
        ends.outsideClose rfl rfl rfl
      · simp
      · cases ends <;> simp
      · simp
  | resolves idle =>
      exact attentive.move [.uvGetaddrinfo] rfl (by simp) rfl (by simp)
        (Fiber.idle_outsideClose idle) rfl rfl rfl
  | @listens fib _ idle =>
      exact attentive.move [.uvListen, .finished fib .listen .returned] (by simp) (by simp) rfl
        (by simp) (Fiber.idle_outsideClose idle) rfl rfl rfl
  | @waits fib _ _ _ entry none isOpen =>
      constructor
      · intro other waits
        exact ⟨attentive.notReturned isOpen, fun _ => none⟩
      · exact attentive.returned
      · intro closed
        rw [State.setFiber_closed, isOpen] at closed
        cases closed
      · exact attentive.dropped
  | @accepts fib _ _ socket entry some isOpen _ _ =>
      exact attentive.take [.finished fib .accept (.accepted socket)] isOpen some rfl (by simp)
        rfl (by simp) entry.outsideClose rfl
  | acceptFails entry some isOpen _ =>
      exact attentive.take [] isOpen some (List.append_nil _).symm (by simp) rfl (by simp)
        entry.outsideClose rfl
  | @closes fib _ closer _ entry isOpen =>
      have notReturned : .closeReturned ∉ state.log ++ [.uvClose] := by
        simpa using attentive.notReturned isOpen
      constructor
      · intro other _
        refine ⟨notReturned, ?_⟩
        intro stillOpen
        cases stillOpen
      · exact fun _ => rfl
      · intro _ _
        exact ⟨fib, closer, state.serials, .unset, by simp⟩
      · exact fun _ => rfl
  | @closeReturns fib closer _ _ _ ran =>
      have closed : state.closed = true := owned.closed_eq.trans (owned.handle _ _ _ _ ran).1
      constructor
      · intro other waits
        rw [closeHandleDone_fiber] at waits
        exact absurd (asleep_of_update (by simp) waits) (Fiber.notify_ne_asleep _)
      · rw [closeHandleDone_closed]
        exact fun _ => closed
      · intro _ notReturned
        rw [closeHandleDone_log] at notReturned
        simp at notReturned
      · rw [closeHandleDone_closed, closeHandleDone_tcp]
        exact attentive.dropped
  | @destroysClosed fib idle _ =>
      exact attentive.move [.finished fib .destroy .returned] rfl (by simp) rfl (by simp)
        (Fiber.idle_outsideClose (idle fib)) rfl rfl rfl
  | @completes id status request _ awaits =>
      refine attentive.move [.callback id status] rfl (by simp) rfl (by simp) ?_ rfl rfl rfl
      intro closer serial promise waits
      rw [awaits] at waits
      cases waits
  | @connects status _ live _ =>
      refine attentive.same [.connectionCallback status, .notifyAll] (by simp) (by simp) ?_ ?_ rfl
        ?_
      · intro other waits
        exact absurd waits (Fiber.notify_ne_asleep _)
      · intro other closer serial promise waits
        exact ⟨promise, Fiber.notify_eq_wait_iff.mpr waits⟩
      · intro _ closed
        rw [owned.closed_eq, live] at closed
        cases closed
  | @handleCloses fib closer serial _ _ awaits =>
      refine attentive.same [.onHandleClosed] rfl (by simp) ?_ ?_ rfl (fun empty _ => empty)
      · intro other waits
        exact ⟨asleep_of_update (by simp) waits, rfl⟩
      · intro other closer' serial' promise waits
        by_cases same : other = fib
        · rw [same, awaits] at waits
          cases waits
          exact ⟨.set (.ok ()), by simp [same]⟩
        · exact ⟨promise, by simpa [same] using waits⟩

/-! ## After a close -/

section Closed

variable [DecidableEq Fib] {state after : State Fib Sock} {fib : Fib}

/-- A closed server stays closed and hands out no connection. -/
theorem Transition.closed {action : Action Fib Sock}
    (transition : Transition state action after) (owned : Owned state)
    (closed : state.closed = true) :
    after.closed = true ∧ taken after.log = taken state.log := by
  have logged : ∀ events : List (Event Fib Sock), taken events = [] →
      taken (state.log ++ events) = taken state.log := by
    intro events none
    rw [taken_append, none, List.append_nil]
  cases transition with
  | @ends fib _ operation outcome events _ _ ends =>
      refine ⟨closed, ?_⟩
      rw [State.finish_log, List.append_assoc, logged]
      rw [taken_append, ends.taken]
      rfl
  | resolves _ => exact ⟨closed, logged [.uvGetaddrinfo] rfl⟩
  | listens _ =>
      refine ⟨closed, ?_⟩
      rw [State.finish_log, State.emit_log, List.append_assoc]
      exact logged _ rfl
  | waits _ _ isOpen | accepts _ _ isOpen _ _ | acceptFails _ _ isOpen _ | closes _ isOpen =>
      rw [closed] at isOpen
      cases isOpen
  | closeReturns _ =>
      rw [closeHandleDone_closed, closeHandleDone_log]
      exact ⟨closed, logged _ rfl⟩
  | destroysClosed _ _ => exact ⟨closed, logged _ rfl⟩
  | completes _ _ => exact ⟨closed, logged _ rfl⟩
  | connects _ live _ =>
      rw [owned.closed_eq, live] at closed
      cases closed
  | handleCloses _ _ _ => exact ⟨closed, logged _ rfl⟩

/-- `accept` on a closed server, from its loop on. -/
theorem accept_closed {status : Int} {socket : Sock} (closed : state.closed = true) :
    state.accept fib status socket = some (state.finish fib .accept connectionClosed) := by
  rw [State.accept, if_neg (by simp [closed]), if_pos closed]
  rfl

variable [Fintype Fib]

theorem resume_closed {answers : Answers Sock} (closed : state.closed = true)
    (notified : state.fiber fib = .waitAccept true) :
    (machine Fib Sock).step state (.resume fib answers) =
      some (state.finish fib .accept connectionClosed) := by
  show state.resume fib answers = _
  rw [State.resume, notified]
  exact accept_closed closed

/-- The fiber has left `accept` with an exception. -/
def Refused (fib : Fib) (state : State Fib Sock) : Prop :=
  state.fiber fib = .idle (some connectionClosed)

variable [Inhabited Sock]

/-- Any answers will do for a fiber that does not ask libuv. -/
def someAnswers : Answers Sock := ⟨0, 0, .other, default⟩

omit [Fintype Fib] [DecidableEq Fib] in
theorem someAnswers_reliable : Reliable state (.resume fib someAnswers) :=
  fun _ _ => Int.le_refl 0

theorem woken_canThrow (closed : state.closed = true)
    (notified : state.fiber fib = .waitAccept true) :
    (machine Fib Sock).CanReach Reliable state (Refused fib) := by
  apply Machine.CanReach.step someAnswers_reliable (resume_closed closed notified)
  apply Machine.CanReach.now
  rw [Refused, State.finish_fiber, Function.update_self]

theorem returning_canThrow {other : Fib} {closer : Closer} {serial : Nat} {notified : Bool}
    {result : Except Exc Unit} (closed : state.closed = true)
    (waits : state.fiber fib = .waitAccept notified)
    (ran : state.fiber other = .wait (.closeHandle closer) serial (.set result)) :
    (machine Fib Sock).CanReach Reliable state (Refused fib) := by
  have returns : (machine Fib Sock).step state (.resume other someAnswers) =
      some (state.closeHandleDone other closer) := by
    show state.resume other someAnswers = _
    rw [State.resume, ran]
  apply Machine.CanReach.step someAnswers_reliable returns
  apply woken_canThrow
  · rw [closeHandleDone_closed]
    exact closed
  · have differs : fib ≠ other := by
      intro same
      rw [same, ran] at waits
      cases waits
    rw [closeHandleDone_fiber, Function.update_of_ne differs, waits]
    rfl

/-- Every fiber that is blocked in `accept` on a closed server comes to throw:
the close callback runs, the closing fiber notifies it and it wakes up. -/
theorem blocked_canThrow {notified : Bool} (owned : Owned state) (attentive : Attentive state)
    (closed : state.closed = true) (waits : state.fiber fib = .waitAccept notified) :
    (machine Fib Sock).CanReach Reliable state (Refused fib) := by
  cases notified with
  | true => exact woken_canThrow closed waits
  | false =>
      obtain ⟨other, closer, serial, promise, closing⟩ :=
        attentive.closer closed (attentive.asleep fib waits).1
      cases promise with
      | set result => exact returning_canThrow closed waits closing
      | unset =>
          obtain ⟨issued, data, ran⟩ := owned.handle _ _ _ _ closing
          have pending : state.tcp.closed = false := by simpa using ran
          have callback : (machine Fib Sock).step state .onHandleClosed =
              some ({ state.emit .onHandleClosed with
                tcp := { state.tcp with closed := true } }.setFiber other
                  (.wait (.closeHandle closer) serial (.set (.ok ())))) := by
            show state.onHandleClosed = _
            rw [State.onHandleClosed, if_pos (by simp [issued, pending])]
            simp only
            split
            · rename_i ref points
              cases data.symm.trans points
              rw [resolve_eq closing]
            · rename_i points
              cases data.symm.trans points
          have differs : fib ≠ other := by
            intro same
            rw [same, closing] at waits
            cases waits
          apply Machine.CanReach.step trivial callback
          exact returning_canThrow closed
            (by rw [State.setFiber_fiber, Function.update_of_ne differs]; exact waits)
            (by rw [State.setFiber_fiber, Function.update_self])

end Closed

/-! ## What `accept` promises -/

/-- The calls of `uv_accept` find the connections in the order of their
arrival, each one a connection that has arrived and that none before it took,
and the calls of `accept` return in that order. -/
structure HandsOut (state : State Fib Sock) : Prop where
  inOrder : taken state.log = arrivals (taken state.log).length
  arrived : (taken state.log).length ≤ state.arrived
  held : state.closed = false →
    taken state.log ++ state.tcp.held.map some = arrivals state.arrived
  delivered : Delivered state.log
  nonnegative : 0 ≤ state.pending

/-- Nobody sleeps through a connection or a close. -/
structure Wakes (state : State Fib Sock) : Prop where
  connection : state.closed = false → 0 < state.pending →
    ∀ fib, state.fiber fib ≠ .waitAccept false
  closed : .closeReturned ∈ state.log → ∀ fib, state.fiber fib ≠ .waitAccept false

/-- From a closed server on, no connection is taken, and every `accept` that
is blocked or starts throws. -/
structure Refuses [DecidableEq Fib] [Fintype Fib] (state : State Fib Sock) : Prop where
  takesNone : ∀ action after, (machine Fib Sock).step state action = some after →
    after.closed = true ∧ taken after.log = taken state.log
  starting : ∀ fib status socket after,
    (machine Fib Sock).step state (.accept fib status socket) = some after →
      after = state.finish fib .accept connectionClosed
  resuming : ∀ fib notified answers after, state.fiber fib = .waitAccept notified →
    (machine Fib Sock).step state (.resume fib answers) = some after →
      after = state.finish fib .accept connectionClosed
  throwing : ∀ fib notified, state.fiber fib = .waitAccept notified →
    (machine Fib Sock).CanReach Reliable state (Refused fib)

theorem Counted.handsOut {state : State Fib Sock} (counted : Counted state)
    (delivered : Delivered state.log) : HandsOut state := by
  have length : (taken state.log).length ≤ state.arrived := by
    have shorter := counted.handed.length_le
    rwa [arrivals, List.length_map, List.length_range] at shorter
  refine ⟨?_, length, counted.queue, delivered, counted.nonnegative⟩
  have inOrder := List.prefix_iff_eq_take.mp counted.handed
  rw [arrivals, ← List.map_take, List.take_range, Nat.min_eq_left length] at inOrder
  exact inOrder

theorem Attentive.wakes {state : State Fib Sock} (attentive : Attentive state) :
    Wakes state := by
  constructor
  · intro isOpen some fib waits
    have none := (attentive.asleep fib waits).2 isOpen
    omega
  · intro returned fib waits
    exact (attentive.asleep fib waits).1 returned

theorem Attentive.refuses [DecidableEq Fib] [Fintype Fib] [Inhabited Sock]
    {state : State Fib Sock} (attentive : Attentive state) (owned : Owned state)
    (closed : state.closed = true) : Refuses state := by
  constructor
  · intro action after stepped
    exact (step_transition owned stepped).closed owned closed
  · intro fib status socket after stepped
    obtain ⟨_, result⟩ := Option.ite_none_right_eq_some.mp
      (stepped : state.step (.accept fib status socket) = some after)
    rw [accept_closed closed] at result
    exact (Option.some.inj result).symm
  · intro fib notified answers after waits stepped
    cases notified with
    | true =>
        rw [resume_closed closed waits] at stepped
        exact (Option.some.inj stepped).symm
    | false =>
        have stuck : state.resume fib answers = none := by
          rw [State.resume, waits]
        exact absurd (stuck.symm.trans stepped) (by simp)
  · intro fib notified waits
    exact blocked_canThrow owned attentive closed waits

section Reachable

variable [DecidableEq Fib] [Fintype Fib] {state : State Fib Sock}

theorem reachable_attentive {allowed : State Fib Sock → Action Fib Sock → Prop}
    (reachable : (machine Fib Sock).Reachable allowed state) : Attentive state := by
  apply reachable_invariant reachable Attentive.initial
  intro before action after owned attentive _ transition
  exact transition.attentive owned attentive

theorem reachable_delivered (reachable : (machine Fib Sock).Reachable Reliable state) :
    Counted state ∧ Delivered state.log := by
  apply reachable_invariant reachable
  · exact fun port => ⟨Counted.initial port, rfl⟩
  · intro before action after owned invariant reliable transition
    exact ⟨transition.counted owned invariant.1 reliable.reports,
      transition.delivered invariant.1 reliable invariant.2⟩

/-- Any number of fibers share `accept` on one server socket. -/
theorem accept_serves_each_connection_once [Inhabited Sock]
    (reachable : (machine Fib Sock).Reachable Reliable state) :
    HandsOut state ∧ Wakes state ∧ (state.closed = true → Refuses state) := by
  obtain ⟨counted, delivered⟩ := reachable_delivered reachable
  have attentive := reachable_attentive reachable
  exact ⟨counted.handsOut delivered, attentive.wakes,
    attentive.refuses (reachable_owned reachable)⟩

end Reachable

/-- Two fibers are woken for one connection: a late caller takes it, one waiter
goes back to sleep, and then the server is closed. -/
theorem accept_serves_late_caller :
    ∃ state : State (Fin 4) Unit,
      (machine (Fin 4) Unit).exec (initial 0)
        [.listen 3 0, .accept 0 0 (), .accept 1 0 (), .connectionCallback 0, .accept 2 0 (),
          .resume 0 someAnswers, .close 3] = some state ∧
      state.closed = true ∧ state.fiber 0 = .waitAccept false ∧
      state.fiber 1 = .waitAccept true ∧
      HandsOut state ∧ Wakes state ∧ (state.closed = true → Refuses state) := by
  have first : (machine (Fin 4) Unit).Reachable Reliable (initial 0) := .start ⟨_, rfl⟩
  have reachable := first.exec (by decide +kernel)
    (rfl : (machine (Fin 4) Unit).exec (initial 0)
      [.listen 3 0, .accept 0 0 (), .accept 1 0 (), .connectionCallback 0, .accept 2 0 (),
        .resume 0 someAnswers, .close 3] = some _)
  exact ⟨_, rfl, rfl, rfl, rfl, accept_serves_each_connection_once reachable⟩

end Fiberio.Server
