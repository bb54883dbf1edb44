import Fiberio.Socket.Ownership

/-!
Owns how a close ends. `close` sets `closed_` first and lets only
`socket_closed_error` pass, so it finishes its job when every shutdown status
is one that `check_uv_status` accepts or turns into that exception; any other
status leaves a socket that is closed with a live handle.

Does not own what the readers obtain.
-/

namespace Fiberio.Socket

open Fiberio.Foundation

variable {Fib : Type}

/-! ## Shutdown statuses -/

/-- A shutdown status that `close` survives. -/
def Tolerated (status : Int) : Prop := 0 ≤ status ∨ Disconnected status

instance : DecidablePred Tolerated := fun status =>
  inferInstanceAs (Decidable (0 ≤ status ∨ Disconnected status))

def Fiber.isWoken : Fiber → Bool
  | .waitRead notified _ => notified
  | _ => false

namespace State

/-- The status with which this step answers a shutdown: the one `uv_shutdown`
returns to a `close` that starts, or the one the shutdown callback reports. -/
def shutdownStatus (state : State Fib) : Action Fib → Option Int
  | .close _ status | .destroy _ status => if state.closed then none else some status
  | .resume fib status =>
      if (state.fiber fib).isWoken && !state.closed && decide (state.buf = 0) &&
          decide (state.len = errorEof) then
        some status
      else
        none
  | .complete id status =>
      match state.requests.find? (fun request => request.id == id) with
      | some request => if request.kind = .shutdown then some status else none
      | none => none
  | .connect _ _ | .read _ _ _ | .write _ _ _ | .readCallback _ _ | .onHandleClosed => none

end State

/-- Every status that answers a shutdown is tolerated. -/
def GracefulShutdown (state : State Fib) (action : Action Fib) : Prop :=
  ∀ status ∈ state.shutdownStatus action, Tolerated status

instance (state : State Fib) (action : Action Fib) :
    Decidable (GracefulShutdown state action) :=
  inferInstanceAs (Decidable (∀ status ∈ state.shutdownStatus action, Tolerated status))

/-- A fiber may always be resumed with the status zero. -/
theorem gracefulShutdown_resume (state : State Fib) (fib : Fib) :
    GracefulShutdown state (.resume fib 0) := by
  intro status asked
  have isZero : status = 0 := by
    simp only [State.shutdownStatus] at asked
    split at asked
    · exact (Option.some.inj asked).symm
    · cases asked
  exact .inl (by omega)

/-! ## The order of a close -/

/-- What `close` does on its way, in order. -/
def closeSequence : List (Event Fib) :=
  [.uvShutdown, .uvClose, .onHandleClosed, .notifyAll, .closeReturned]

def Event.endsClose : Event Fib → Bool
  | .closeReturned | .closeThrew _ => true
  | _ => false

/-- How far the only close has come. -/
structure ClosesInOrder (state : State Fib) : Prop where
  tolerated : ∀ fib closer serial exc,
    state.fiber fib = .wait (.shutdown closer) serial (.set (.error exc)) →
      exc = .socketClosedError
  running : state.life ≠ .terminated
  silent : ∀ exc, .closeThrew exc ∉ state.log
  shutdown : state.closed = true → List.Sublist [.uvShutdown] state.log
  uvClose : state.tcp.closing = true → List.Sublist [.uvShutdown, .uvClose] state.log
  ran : state.tcp.closed = true → List.Sublist [.uvShutdown, .uvClose, .onHandleClosed] state.log
  pending : state.closed = true →
    .closeReturned ∈ state.log ∨ ∃ fib, (state.fiber fib).InClose
  returned : .closeReturned ∈ state.log → List.Sublist closeSequence state.log ∧
    state.closed = true ∧ state.tcp.closing = true ∧ state.tcp.closed = true ∧
    ∀ fib call, state.fiber fib ≠ .waitRead false call
  destroyed : state.life = .destroyed → .closeReturned ∈ state.log

namespace ClosesInOrder

variable {state after : State Fib} {fib : Fib}

theorem initial (memory : Memory UInt8) : ClosesInOrder (initial memory : State Fib) := by
  constructor
  · intro fib closer serial exc awaits
    cases awaits
  · intro terminated
    cases terminated
  · intro exc member
    cases member
  · intro closed
    cases closed
  · intro closing
    cases closing
  · intro closed
    cases closed
  · intro closed
    cases closed
  · intro member
    cases member
  · intro destroyed
    cases destroyed

theorem mem_of_append {events : List (Event Fib)} {event : Event Fib}
    (log : after.log = state.log ++ events) (plain : events.any Event.endsClose = false)
    (ending : event.endsClose = true) (member : event ∈ after.log) : event ∈ state.log := by
  rw [log] at member
  rcases List.mem_append.mp member with earlier | new
  · exact earlier
  · have contradiction : event.endsClose = false := by
      simpa using List.any_eq_false.mp plain event new
    exact absurd (ending.symm.trans contradiction) (by decide)

/-- A step that does not move the close forward. -/
theorem quiet (order : ClosesInOrder state) (events : List (Event Fib))
    (log : after.log = state.log ++ events) (plain : events.any Event.endsClose = false)
    (closed : after.closed = state.closed) (closing : after.tcp.closing = state.tcp.closing)
    (handleClosed : after.tcp.closed = state.tcp.closed) (life : after.life = state.life)
    (closers : ∀ fib, (state.fiber fib).InClose → (after.fiber fib).InClose)
    (answered : ∀ fib closer serial exc,
      after.fiber fib = .wait (.shutdown closer) serial (.set (.error exc)) →
        exc = .socketClosedError)
    (blocked : ∀ fib call, after.fiber fib = .waitRead false call →
      state.fiber fib = .waitRead false call ∨ state.closed = false) :
    ClosesInOrder after := by
  have grows : ∀ {events' : List (Event Fib)}, List.Sublist events' state.log →
      List.Sublist events' after.log := by
    intro events' sublist
    rw [log]
    exact sublist.trans (List.sublist_append_left _ _)
  have kept : .closeReturned ∈ state.log → .closeReturned ∈ after.log := by
    intro member
    rw [log]
    exact List.mem_append_left _ member
  constructor
  · exact answered
  · rw [life]
    exact order.running
  · exact fun exc member => order.silent exc (mem_of_append log plain rfl member)
  · rw [closed]
    exact fun isClosed => grows (order.shutdown isClosed)
  · rw [closing]
    exact fun isClosing => grows (order.uvClose isClosing)
  · rw [handleClosed]
    exact fun ran => grows (order.ran ran)
  · rw [closed]
    intro isClosed
    rcases order.pending isClosed with member | ⟨other, inside⟩
    · exact .inl (kept member)
    · exact .inr ⟨other, closers other inside⟩
  · intro member
    obtain ⟨sequence, isClosed, isClosing, ran, woken⟩ :=
      order.returned (mem_of_append log plain rfl member)
    rw [closed, closing, handleClosed]
    refine ⟨grows sequence, isClosed, isClosing, ran, fun other call waits => ?_⟩
    rcases blocked other call waits with earlier | isOpen
    · exact woken other call earlier
    · exact absurd (isOpen.symm.trans isClosed) (by decide)
  · rw [life]
    exact fun destroyed => kept (order.destroyed destroyed)

variable [DecidableEq Fib]

/-- A fiber outside `close` moves on and stays outside. -/
theorem move {value : Fiber} (order : ClosesInOrder state) (events : List (Event Fib))
    (log : after.log = state.log ++ events) (plain : events.any Event.endsClose = false)
    (fibers : after.fiber = Function.update state.fiber fib value)
    (outside : ¬ (state.fiber fib).InClose) (stays : ¬ value.InClose)
    (blocked : ∀ call, value = .waitRead false call → state.closed = false)
    (closed : after.closed = state.closed) (closing : after.tcp.closing = state.tcp.closing)
    (handleClosed : after.tcp.closed = state.tcp.closed) (life : after.life = state.life) :
    ClosesInOrder after := by
  refine order.quiet events log plain closed closing handleClosed life ?_ ?_ ?_
  · intro other inside
    have differs : other ≠ fib := by
      intro same
      exact outside (same ▸ inside)
    rw [fibers, Function.update_of_ne differs]
    exact inside
  · intro other closer serial exc awaits
    by_cases same : other = fib
    · rw [same, fibers, Function.update_self] at awaits
      exact absurd ⟨closer, serial, _, .inl awaits⟩ stays
    · rw [fibers, Function.update_of_ne same] at awaits
      exact order.tolerated _ _ _ _ awaits
  · intro other call waits
    by_cases same : other = fib
    · rw [same, fibers, Function.update_self] at waits
      exact .inr (blocked call waits)
    · rw [fibers, Function.update_of_ne same] at waits
      exact .inl waits

/-- `closed_` is set and the fiber suspends in the shutdown, or at once in the
close of the handle. -/
theorem enter {waiting : Waiting} {serial : Nat}
    (order : ClosesInOrder state) (rest : List (Event Fib)) (isOpen : state.closed = false)
    (log : after.log = state.log ++ .uvShutdown :: rest)
    (plain : rest.any Event.endsClose = false)
    (fibers : after.fiber = Function.update state.fiber fib (.wait waiting serial .unset))
    (inside : (Fiber.wait waiting serial .unset).InClose)
    (closing : after.tcp.closing = true → List.Sublist [.uvClose] rest)
    (unclosed : after.tcp.closed = false)
    (life : after.life = state.life ∨ after.life = .destroying) : ClosesInOrder after := by
  have notReturned : .closeReturned ∉ after.log := by
    intro member
    have earlier : Event.closeReturned ∈ state.log :=
      mem_of_append log (by rw [List.any_cons, plain]; rfl) rfl member
    exact absurd (isOpen.symm.trans (order.returned earlier).2.1) (by decide)
  have started : List.Sublist [.uvShutdown] after.log := by
    rw [log]
    exact (List.Sublist.cons_cons _ (List.nil_sublist _)).trans (List.sublist_append_right _ _)
  constructor
  · intro other closer serial' exc awaits
    by_cases same : other = fib
    · rw [same, fibers, Function.update_self] at awaits
      cases awaits
    · rw [fibers, Function.update_of_ne same] at awaits
      exact order.tolerated _ _ _ _ awaits
  · rcases life with same | destroying
    · rw [same]
      exact order.running
    · rw [destroying]
      decide
  · intro exc member
    exact order.silent exc (mem_of_append log (by rw [List.any_cons, plain]; rfl) rfl member)
  · exact fun _ => started
  · intro isClosing
    rw [log]
    exact ((closing isClosing).cons_cons _).trans (List.sublist_append_right _ _)
  · intro ran
    exact absurd (unclosed.symm.trans ran) (by decide)
  · intro _
    exact .inr ⟨fib, by rw [fibers, Function.update_self]; exact inside⟩
  · exact fun member => absurd member notReturned
  · intro destroyed
    rcases life with same | destroying
    · have earlier := order.destroyed (same ▸ destroyed)
      exact absurd (isOpen.symm.trans (order.returned earlier).2.1) (by decide)
    · rw [destroying] at destroyed
      cases destroyed

/-- The fiber inside `close` takes the next of its steps that does not leave
it: `uv_close` after the shutdown, or the close callback. -/
theorem advance {event : Event Fib} {value : Fiber} (order : ClosesInOrder state)
    (log : after.log = state.log ++ [event]) (plain : event.endsClose = false)
    (fibers : after.fiber = Function.update state.fiber fib value) (inside : value.InClose)
    (answered : ∀ closer serial exc, value ≠ .wait (.shutdown closer) serial (.set (.error exc)))
    (notReturned : .closeReturned ∉ state.log) (closed : after.closed = state.closed)
    (closing : after.tcp.closing = true → List.Sublist [.uvShutdown, .uvClose] after.log)
    (ran : after.tcp.closed = true →
      List.Sublist [.uvShutdown, .uvClose, .onHandleClosed] after.log)
    (life : after.life = state.life) : ClosesInOrder after := by
  have plain : [event].any Event.endsClose = false := by
    rw [List.any_cons, plain]
    rfl
  have stillNot : .closeReturned ∉ after.log :=
    fun member => notReturned (mem_of_append log plain rfl member)
  constructor
  · intro other closer serial exc awaits
    by_cases same : other = fib
    · rw [same, fibers, Function.update_self] at awaits
      exact absurd awaits (answered closer serial exc)
    · rw [fibers, Function.update_of_ne same] at awaits
      exact order.tolerated _ _ _ _ awaits
  · rw [life]
    exact order.running
  · exact fun exc member => order.silent exc (mem_of_append log plain rfl member)
  · intro isClosed
    rw [log]
    exact (order.shutdown (closed ▸ isClosed)).trans (List.sublist_append_left _ _)
  · exact closing
  · exact ran
  · exact fun _ => .inr ⟨fib, by rw [fibers, Function.update_self]; exact inside⟩
  · exact fun member => absurd member stillNot
  · intro destroyed
    exact absurd (order.destroyed (life ▸ destroyed)) notReturned

/-- The close callback has run: every reader is notified and `close` returns. -/
theorem leaves {rest : List (Event Fib)} {last : Option Outcome} (order : ClosesInOrder state)
    (log : after.log = state.log ++ .notifyAll :: .closeReturned :: rest)
    (plain : rest.any Event.endsClose = false)
    (fibers : after.fiber = Function.update state.notifyAll.fiber fib (.idle last))
    (isClosed : state.closed = true) (isClosing : state.tcp.closing = true)
    (ran : state.tcp.closed = true) (closed : after.closed = state.closed)
    (tcp : after.tcp = state.tcp)
    (life : after.life = state.life ∨ after.life = .destroyed) : ClosesInOrder after := by
  have grows : ∀ {events' : List (Event Fib)}, List.Sublist events' state.log →
      List.Sublist events' after.log := by
    intro events' sublist
    rw [log]
    exact sublist.trans (List.sublist_append_left _ _)
  have member : .closeReturned ∈ after.log := by
    rw [log]
    simp
  have sequence : List.Sublist closeSequence after.log := by
    rw [log]
    exact (order.ran ran).append
      (List.Sublist.cons_cons _ (List.Sublist.cons_cons _ (List.nil_sublist _)))
  have waits : ∀ other waiting serial promise,
      after.fiber other = .wait waiting serial promise →
        state.fiber other = .wait waiting serial promise := by
    intro other waiting serial promise awaits
    by_cases same : other = fib
    · rw [same, fibers, Function.update_self] at awaits
      cases awaits
    · rw [fibers, Function.update_of_ne same, State.notifyAll_fiber] at awaits
      exact Fiber.notify_eq_wait_iff.mp awaits
  constructor
  · exact fun other closer serial exc awaits => order.tolerated _ _ _ _ (waits _ _ _ _ awaits)
  · rcases life with same | destroyed
    · rw [same]
      exact order.running
    · rw [destroyed]
      decide
  · intro exc thrown
    rw [log] at thrown
    rcases List.mem_append.mp thrown with earlier | new
    · exact order.silent exc earlier
    · have inRest : .closeThrew exc ∈ rest := by simpa using new
      exact absurd (List.any_eq_false.mp plain _ inRest) (by simp [Event.endsClose])
  · exact fun _ => grows (order.shutdown isClosed)
  · exact fun _ => grows (order.uvClose isClosing)
  · exact fun _ => grows (order.ran ran)
  · exact fun _ => .inl member
  · intro _
    rw [closed, tcp]
    refine ⟨sequence, isClosed, isClosing, ran, fun other call blocked => ?_⟩
    by_cases same : other = fib
    · rw [same, fibers, Function.update_self] at blocked
      cases blocked
    · rw [fibers, Function.update_of_ne same, State.notifyAll_fiber] at blocked
      exact absurd (Fiber.notify_eq_waitRead_iff.mp blocked).1 (by decide)
  · exact fun _ => member

end ClosesInOrder

/-! ## Every tolerated step keeps the order -/

section Preservation

variable [DecidableEq Fib] {state after entered : State Fib} {fib : Fib} {action : Action Fib}

theorem Tolerated.error {status : Int} {exc : Exc} (tolerated : Tolerated status)
    (failed : checkUvStatus status = .error exc) : exc = .socketClosedError := by
  rcases tolerated with nonnegative | gone
  · rw [checkUvStatus_ok nonnegative] at failed
    cases failed
  · rw [checkUvStatus_socketClosed_iff.mpr gone] at failed
    cases failed
    rfl

omit [DecidableEq Fib] in
/-- The status of an entered `close` answers its shutdown. -/
theorem CloseEntry.shutdownStatus {status : Int} {closer : Closer}
    (entry : CloseEntry state fib action status closer entered)
    (isOpen : state.closed = false) : status ∈ state.shutdownStatus action := by
  cases entry with
  | user _ => simp [State.shutdownStatus, isOpen]
  | destructor _ => simp [State.shutdownStatus, isOpen]
  | eof woken finished atEof =>
      simp [State.shutdownStatus, woken, isOpen, finished, atEof, Fiber.isWoken]

omit [DecidableEq Fib] in
theorem CloseEntry.unchanged {status : Int} {closer : Closer}
    (entry : CloseEntry state fib action status closer entered) :
    entered.log = state.log ∧ (entered.life = state.life ∨ entered.life = .destroying) := by
  cases entry with
  | user _ => exact ⟨rfl, .inl rfl⟩
  | destructor _ => exact ⟨rfl, .inr rfl⟩
  | eof _ _ _ => exact ⟨rfl, .inl rfl⟩

omit [DecidableEq Fib] in
/-- The fiber that enters `read`, and the events up to there. -/
theorem ReadEntry.outside {status : Int} {call : ReadCall}
    (entry : ReadEntry state fib action status call entered) :
    ¬ (state.fiber fib).InClose ∧ entered.fiber = state.fiber ∧
      entered.closed = state.closed ∧ entered.tcp = state.tcp ∧ entered.life = state.life ∧
      ∃ events, entered.log = state.log ++ events ∧ events.any Event.endsClose = false := by
  cases entry with
  | start idle _ _ =>
      exact ⟨(Fiber.idle_promiseless idle).notInClose, rfl, rfl, rfl, rfl, [], by simp, rfl⟩
  | again woken _ _ _ _ _ =>
      exact ⟨(Fiber.waitRead_promiseless woken).notInClose, rfl, rfl, rfl, rfl, [_], rfl, rfl⟩

/-- A read was entered on an open socket, and the fiber waits or leaves. -/
theorem ClosesInOrder.read {status : Int} {call : ReadCall} {value : Fiber}
    (order : ClosesInOrder state) (entry : ReadEntry state fib action status call entered)
    (events : List (Event Fib)) (isOpen : entered.closed = false)
    (log : after.log = entered.log ++ events) (plain : events.any Event.endsClose = false)
    (fibers : after.fiber = Function.update entered.fiber fib value) (stays : ¬ value.InClose)
    (closed : after.closed = entered.closed)
    (closing : after.tcp.closing = entered.tcp.closing)
    (handleClosed : after.tcp.closed = entered.tcp.closed) (life : after.life = entered.life) :
    ClosesInOrder after := by
  obtain ⟨outside, sameFiber, sameClosed, sameTcp, sameLife, earlier, earlierLog, earlierPlain⟩ :=
    entry.outside
  refine order.move (earlier ++ events) ?_ ?_ (sameFiber ▸ fibers) outside stays
    (fun _ _ => sameClosed ▸ isOpen) (closed.trans sameClosed) ?_ ?_ (life.trans sameLife)
  · rw [log, earlierLog, List.append_assoc]
  · rw [List.any_append, earlierPlain, plain]
    rfl
  · rw [closing, sameTcp]
  · rw [handleClosed, sameTcp]

theorem Transition.closesInOrder (transition : Transition state action after)
    (owned : Owned state) (order : ClosesInOrder state)
    (graceful : GracefulShutdown state action) : ClosesInOrder after := by
  cases transition with
  | @ends events fib _ operation outcome _ unbound _ _ quiet _ _ _ =>
      let ending : Event Fib := .finished fib operation outcome
      have plain : (events ++ [ending]).any Event.endsClose = false := by
        rw [List.any_append, Bool.or_eq_false_iff]
        refine ⟨List.any_eq_false.mpr fun event member => ?_, rfl⟩
        cases quiet event member <;> simp [Event.endsClose]
      exact order.move (events ++ [ending]) (by simp [ending]) plain rfl unbound.notInClose
        (Fiber.idle_notInClose _) (by simp) (by simp) (by simp) (by simp) (by simp)
  | resolves idle _ =>
      exact order.move [.uvGetaddrinfo] (by simp) rfl rfl
        (Fiber.idle_promiseless idle).notInClose (Fiber.wait_notInClose rfl) (by simp) (by simp)
        (by simp) (by simp) (by simp)
  | connects resolved =>
      exact order.move [.uvTcpConnect] (by simp) rfl rfl
        (by rw [resolved]; exact Fiber.wait_notInClose rfl) (Fiber.wait_notInClose rfl) (by simp)
        (by simp) (by simp) (by simp) (by simp)
  | writes idle _ _ =>
      exact order.move [.uvWrite] (by simp) rfl rfl
        (Fiber.idle_promiseless idle).notInClose (Fiber.wait_notInClose rfl) (by simp) (by simp)
        (by simp) (by simp) (by simp)
  | @admits _ _ _ call _ entry isOpen _ _ =>
      exact order.read entry [.admitted call.id, .uvReadStart] isOpen (by simp) rfl rfl
        Fiber.waitRead_notInClose (by simp) (by simp) (by simp) (by simp)
  | @rejects fib _ _ call _ exc entry isOpen _ _ =>
      exact order.read entry
        [.admitted call.id, .uvReadStart, .finished fib .read (.threw exc)] isOpen (by simp) rfl
        rfl (Fiber.idle_notInClose _) (by simp) (by simp) (by simp) (by simp)
  | @readsNull fib _ _ call entered entry isOpen _ _ =>
      exact order.read entry [.admitted call.id, .uvReadStart, .finished fib .read
          (.returned (call.result entered.memory (toSize (toInt64 call.size))))] isOpen
        (by simp) rfl rfl (Fiber.idle_notInClose _) (by simp) (by simp) (by simp) (by simp)
  | waitsAgain woken _ isOpen =>
      exact order.move [] (by simp) rfl rfl (Fiber.waitRead_promiseless woken).notInClose
        Fiber.waitRead_notInClose (fun _ _ => isOpen) rfl rfl rfl rfl
  | @readFails fib _ _ woken _ _ =>
      exact order.move [.finished fib .read (.threw (.ioError (.text "read failed")))] (by simp)
        rfl rfl (Fiber.waitRead_promiseless woken).notInClose (Fiber.idle_notInClose _) (by simp)
        (by simp) (by simp) (by simp) (by simp)
  | readReturns ends _ =>
      exact order.move [_, _] (by simp; exact ⟨rfl, rfl⟩) rfl rfl
        (Fiber.waitRead_promiseless ends.woken).notInClose (Fiber.idle_notInClose _) (by simp)
        (by simp) (by simp) (by simp) (by simp)
  | readStops ends _ =>
      exact order.move [_, _] (by simp; exact ⟨rfl, rfl⟩) rfl rfl
        (Fiber.waitRead_promiseless ends.woken).notInClose (Fiber.idle_notInClose _) (by simp)
        (by simp) (by simp) (by simp) (by simp)
  | @shutsDown _ _ _ closer _ entry isOpen _ =>
      obtain ⟨_, fibers, handle⟩ := entry.marked owned
      refine order.enter [] isOpen (by rw [← entry.unchanged.1]; simp) rfl (by rw [← fibers]; rfl)
        ⟨closer, _, _, .inl rfl⟩ ?_ ?_ entry.unchanged.2
      · simp [handle, owned.live isOpen]
      · simp [handle, owned.object (owned.live isOpen)]
  | @closesAtOnce _ _ _ closer _ entry isOpen _ =>
      obtain ⟨_, fibers, handle⟩ := entry.marked owned
      refine order.enter [.uvClose] isOpen (by rw [← entry.unchanged.1]; simp) rfl
        (by rw [← fibers]; rfl)
        ⟨closer, _, _, .inr rfl⟩ (fun _ => List.Sublist.refl _) ?_ entry.unchanged.2
      simp [handle, owned.object (owned.live isOpen)]
  | closeFails entry isOpen failed notGone =>
      exact absurd ((graceful _ (entry.shutdownStatus isOpen)).error failed) notGone
  | @closes fib closer serial _ _ shut _ =>
      have live : state.tcp.closing = false := owned.shutting _ _ _ _ shut
      have closed : state.closed = true := owned.closers _ ⟨closer, serial, _, .inl shut⟩
      refine order.advance (by simp; rfl) rfl rfl ⟨closer, _, _, .inr rfl⟩
        (by rintro _ _ _ ⟨⟩) ?_ (by simp) (fun _ => ?_) ?_ (by simp)
      · intro member
        exact absurd (live.symm.trans (order.returned member).2.2.1) (by decide)
      · rw [State.closeHandle_log]
        simpa using (order.shutdown closed).append (List.Sublist.refl [.uvClose])
      · simp [owned.object live]
  | shutdownFails shut notGone => exact absurd (order.tolerated _ _ _ _ shut) notGone
  | closeReturnsToUser ran =>
      obtain ⟨closing, _, closed⟩ := owned.handle _ _ _ _ ran
      exact order.leaves (by simp; rfl) rfl rfl (owned.closers _ ⟨_, _, _, .inr ran⟩) closing
        (closed.mpr (by simp)) (by simp) (by simp) (.inl (by simp))
  | closeReturnsToDestructor ran =>
      obtain ⟨closing, _, closed⟩ := owned.handle _ _ _ _ ran
      exact order.leaves (by simp; rfl) rfl rfl (owned.closers _ ⟨_, _, _, .inr ran⟩) closing
        (closed.mpr (by simp)) (by simp) (by simp) (.inr (by simp))
  | closeReturnsToRead ran _ _ =>
      obtain ⟨closing, _, closed⟩ := owned.handle _ _ _ _ ran
      exact order.leaves (by simp; rfl) rfl rfl (owned.closers _ ⟨_, _, _, .inr ran⟩) closing
        (closed.mpr (by simp)) (by simp) (by simp) (.inl (by simp))
  | closeStopsRead ran _ =>
      obtain ⟨closing, _, closed⟩ := owned.handle _ _ _ _ ran
      exact order.leaves (by simp; rfl) rfl rfl (owned.closers _ ⟨_, _, _, .inr ran⟩) closing
        (closed.mpr (by simp)) (by simp) (by simp) (.inl (by simp))
  | @destroysClosed fib _ idle closed =>
      have member : .closeReturned ∈ state.log := by
        rcases order.pending closed with member | ⟨other, inside⟩
        · exact member
        · exact absurd inside (Fiber.idle_promiseless (idle other)).notInClose
      have left : ClosesInOrder (state.finish fib .destroy (.returned [])) :=
        order.move [.finished fib .destroy (.returned [])] (by simp) rfl rfl
          (Fiber.idle_promiseless (idle fib)).notInClose (Fiber.idle_notInClose _) (by simp)
          (by simp) (by simp) (by simp) (by simp)
      exact { left with
        running := by simp
        destroyed := fun _ => List.mem_append_left _ member }
  | @completes id status request waiting registered issued awaits =>
      refine order.quiet [.callback id status] (by simp) rfl (by simp) (by simp) (by simp)
        (by simp) ?_ ?_ ?_
      · intro other inside
        by_cases same : other = request.data.fiber
        · subst same
          rw [awaits] at inside
          obtain ⟨closer, serial, promise, shut | closing⟩ := inside
          · cases shut
            exact ⟨closer, request.id, .set (checkUvStatus status), .inl (by simp)⟩
          · cases closing
            exact ⟨closer, request.id, .set (checkUvStatus status), .inr (by simp)⟩
        · simpa [same] using inside
      · intro other closer serial exc answered
        by_cases same : other = request.data.fiber
        · subst same
          simp only [State.setFiber_fiber, Function.update_self] at answered
          injection answered with isShutdown _ isSet
          injection isSet with failed
          subst isShutdown
          have kind : request.kind = .shutdown := by
            cases kind : request.kind <;> rw [kind] at issued <;> first | rfl | cases issued
          have tolerated : Tolerated status := by
            apply graceful
            simp [State.shutdownStatus, registered, kind]
          exact tolerated.error failed
        · rw [State.setFiber_fiber, Function.update_of_ne same] at answered
          exact order.tolerated _ _ _ _ answered
      · intro other call waits
        by_cases same : other = request.data.fiber
        · subst same
          simp at waits
        · exact .inl (by simpa [same] using waits)
  | @delivers nread _ _ _ _ _ =>
      refine order.quiet [.readCallback nread, .uvReadStop, .notifyAll] (by simp) rfl (by simp)
        (by simp) (by simp) (by simp) ?_ ?_ ?_
      · intro other inside
        simpa [Fiber.inClose_notify_iff] using inside
      · intro other closer serial exc answered
        exact order.tolerated other closer serial exc (by simpa using answered)
      · intro other call waits
        simp at waits
  | @handleCloses fib closer serial closing pending _ awaits =>
      refine order.advance (by simp; rfl) rfl rfl ⟨closer, _, _, .inr rfl⟩
        (by rintro _ _ _ ⟨⟩) ?_ (by simp) (fun _ => ?_) (fun _ => ?_) (by simp)
      · intro member
        exact absurd (pending.symm.trans (order.returned member).2.2.2.1) (by decide)
      · simpa using (order.uvClose closing).trans (List.sublist_append_left _ _)
      · simpa using (order.uvClose closing).append (List.Sublist.refl [.onHandleClosed])

end Preservation

/-! ## A close that has begun can finish -/

section Progress

variable [DecidableEq Fib] [Fintype Fib] {state : State Fib} {fib : Fib}

/-- The close has returned to its caller. -/
def CloseReturned (state : State Fib) : Prop := .closeReturned ∈ state.log

instance (state : State Fib) : Decidable (CloseReturned state) :=
  inferInstanceAs (Decidable (.closeReturned ∈ state.log))

theorem step_running (order : ClosesInOrder state) (fib : Fib) (id : Nat) (status : Int) :
    (machine Fib).step state (.resume fib status) = state.resume fib status ∧
      (machine Fib).step state (.complete id status) = state.complete id status ∧
      (machine Fib).step state .onHandleClosed = state.onHandleClosed :=
  ⟨if_neg order.running, if_neg order.running, if_neg order.running⟩

omit [Fintype Fib] in
theorem closeHandleDone_returned {closer : Closer} {status : Int}
    (closed : state.closed = true) :
    CloseReturned (state.closeHandleDone fib closer status) := by
  unfold CloseReturned State.closeHandleDone
  cases closer with
  | user => simp
  | destructor => simp
  | eof call =>
      have closed : (state.notifyAll.emit .closeReturned).closed = true := by simpa using closed
      simp only [State.readEnd, State.readReturned, closed, if_true]
      split
      · rw [State.read, if_pos (by simp)]
        simp
      · simp

/-- The close callback has run and the closing fiber is resumed. -/
theorem canReach_closed {closer : Closer} {serial : Nat} {result : Except Exc Unit}
    (owned : Owned state) (order : ClosesInOrder state)
    (ran : state.fiber fib = .wait (.closeHandle closer) serial (.set result)) :
    (machine Fib).CanReach GracefulShutdown state CloseReturned := by
  have stepped : (machine Fib).step state (.resume fib 0) =
      some (state.closeHandleDone fib closer 0) := by
    rw [(step_running order fib 0 0).1]
    simp only [State.resume, ran, State.resumeWith]
  have closed : state.closed = true := owned.closers _ ⟨closer, serial, _, .inr ran⟩
  exact .step (gracefulShutdown_resume state fib) stepped (.now (closeHandleDone_returned closed))

/-- The handle has no request left, so libuv runs the close callback. -/
theorem canReach_handleClosed {closer : Closer} {serial : Nat} (owned : Owned state)
    (order : ClosesInOrder state)
    (awaits : state.fiber fib = .wait (.closeHandle closer) serial .unset)
    (answered : ∀ request ∈ state.requests, request.kind = .getaddrinfo) :
    (machine Fib).CanReach GracefulShutdown state CloseReturned := by
  obtain ⟨closing, data, closedIff⟩ := owned.handle _ _ _ _ awaits
  have pending : state.tcp.closed = false := by simpa using closedIff
  have stepped : (machine Fib).step state .onHandleClosed =
      some ({ state.emit .onHandleClosed with tcp := { state.tcp with closed := true } }.setFiber
        fib (.wait (.closeHandle closer) serial (.set (.ok ())))) := by
    have enabled : (state.tcp.closing && !state.tcp.closed &&
        state.requests.all (fun request => request.kind == RequestKind.getaddrinfo)) = true := by
      simpa [closing, pending] using answered
    rw [(step_running order fib 0 0).2.2, State.onHandleClosed, if_pos enabled]
    simp only [data]
    rw [resolve_eq awaits]
  have transition := step_transition owned stepped
  have graceful : GracefulShutdown state .onHandleClosed := by
    simp [GracefulShutdown, State.shutdownStatus]
  exact .step graceful stepped (canReach_closed (transition.owned owned)
    (transition.closesInOrder owned order graceful) (Function.update_self _ _ _))

theorem complete_eq {request : Request Fib} {waiting : Waiting} (status : Int)
    (owned : Owned state) (order : ClosesInOrder state) (member : request ∈ state.requests)
    (awaits : state.fiber request.data.fiber = .wait waiting request.id .unset) :
    (machine Fib).step state (.complete request.id status) =
      some ({ state.emit (.callback request.id status) with
          requests := state.requests.erase request
          tcp := { state.tcp with
            shut := state.tcp.shut ||
              (request.kind == RequestKind.shutdown && decide (0 ≤ status)) } }.setFiber
        request.data.fiber (.wait waiting request.id (.set (checkUvStatus status)))) := by
  have serial_eq : request.data.serial = request.id := (owned.pending request member).1
  rw [(step_running order request.data.fiber request.id status).2.1, State.complete,
    owned.find_request member]
  simp only
  rw [resolve_eq (by rw [serial_eq]; exact awaits), serial_eq]

/-- libuv cancels what is left on the handle, one request after the other. -/
theorem canReach_drained {closer : Closer} {serial : Nat} (owned : Owned state)
    (order : ClosesInOrder state)
    (awaits : state.fiber fib = .wait (.closeHandle closer) serial .unset) :
    (machine Fib).CanReach GracefulShutdown state CloseReturned := by
  -- The induction is on the number of registered requests.
  obtain ⟨count, size⟩ : ∃ count, state.requests.length = count := ⟨_, rfl⟩
  induction count generalizing state with
  | zero =>
      refine canReach_handleClosed owned order awaits ?_
      rw [List.length_eq_zero_iff.mp size]
      exact fun request member => absurd member List.not_mem_nil
  | succ count inductionHypothesis =>
      by_cases answered : ∀ request ∈ state.requests, request.kind = .getaddrinfo
      · exact canReach_handleClosed owned order awaits answered
      · push Not at answered
        obtain ⟨request, member, notResolution⟩ := answered
        obtain ⟨_, waiting, issued, waits⟩ := owned.pending request member
        have notShutdown : request.kind ≠ .shutdown := by
          intro isShutdown
          have isClosing := (owned.handle _ _ _ _ awaits).1
          cases waiting <;> rw [isShutdown] at issued <;> try cases issued
          exact absurd ((owned.shutting _ _ _ _ waits).symm.trans isClosing) (by decide)
        have stepped := complete_eq uvEcanceled owned order member waits
        have graceful : GracefulShutdown state (.complete request.id uvEcanceled) := by
          simp [GracefulShutdown, State.shutdownStatus, owned.find_request member, notShutdown]
        have transition := step_transition owned stepped
        have differs : fib ≠ request.data.fiber := by
          rintro rfl
          rw [awaits] at waits
          cases waits
          cases kind : request.kind <;> rw [kind] at issued <;> cases issued
        refine .step graceful stepped (inductionHypothesis (transition.owned owned)
          (transition.closesInOrder owned order graceful) ?_ ?_)
        · rw [State.setFiber_fiber, Function.update_of_ne differs]
          exact awaits
        · rw [State.setFiber_requests]
          show (state.requests.erase request).length = count
          rw [List.length_erase_of_mem member, size]
          rfl

/-- The shutdown was answered and `close` goes on to the handle. -/
theorem canReach_shut {closer : Closer} {serial : Nat} {result : Except Exc Unit}
    (owned : Owned state) (order : ClosesInOrder state)
    (shut : state.fiber fib = .wait (.shutdown closer) serial (.set result)) :
    (machine Fib).CanReach GracefulShutdown state CloseReturned := by
  have stepped : (machine Fib).step state (.resume fib 0) =
      some (state.closeHandle fib closer) := by
    rw [(step_running order fib 0 0).1]
    simp only [State.resume, shut, State.resumeWith, State.shutdownDone]
    cases result with
    | ok value => rfl
    | error exc =>
        rw [order.tolerated _ _ _ _ shut]
        rfl
  have transition := step_transition owned stepped
  have graceful := gracefulShutdown_resume state fib
  exact .step graceful stepped (canReach_drained (transition.owned owned)
    (transition.closesInOrder owned order graceful) (Function.update_self _ _ _))

/-- In every state of a graceful run with `closed_` set, the close has
returned or can still return. -/
theorem canReach_closeReturned (owned : Owned state) (order : ClosesInOrder state)
    (closed : state.closed = true) :
    (machine Fib).CanReach GracefulShutdown state CloseReturned := by
  rcases order.pending closed with returned | ⟨fib, closer, serial, promise, shut | handle⟩
  · exact .now returned
  · cases promise with
    | set result => exact canReach_shut owned order shut
    | unset =>
        rcases owned.registered _ _ _ shut with ⟨_, isHandle⟩ | ⟨request, member, id_eq, data_eq⟩
        · cases isHandle
        · have waits : state.fiber request.data.fiber =
              .wait (.shutdown closer) request.id .unset := by
            rw [data_eq, id_eq]
            exact shut
          have stepped := complete_eq 0 owned order member waits
          have transition := step_transition owned stepped
          have graceful : GracefulShutdown state (.complete request.id 0) := by
            intro status answers
            have isZero : status = 0 := by
              simp only [State.shutdownStatus, owned.find_request member] at answers
              split at answers
              · exact (Option.some.inj answers).symm
              · cases answers
            exact .inl (by omega)
          exact .step graceful stepped (canReach_shut (transition.owned owned)
            (transition.closesInOrder owned order graceful) (Function.update_self _ _ _))
  · cases promise with
    | set result => exact canReach_closed owned order handle
    | unset => exact canReach_drained owned order handle

end Progress

/-! ## Reachable states -/

variable [DecidableEq Fib] [Fintype Fib] {state : State Fib}

theorem reachable_closesInOrder
    (reachable : (machine Fib).Reachable GracefulShutdown state) : ClosesInOrder state := by
  apply reachable_invariant reachable ClosesInOrder.initial
  intro before action after owned order graceful transition
  exact transition.closesInOrder owned order graceful

/-- When every shutdown status is tolerated, no exception leaves `close`; once
`closed_` is set the close can return, and when it has, `uv_shutdown`,
`uv_close`, the close callback and `notify_all` came before, in this order, and
no reader is left blocked. A destroyed socket has no live handle. -/
theorem close_finishes_when_shutdown_tolerated
    (reachable : (machine Fib).Reachable GracefulShutdown state) :
    (∀ exc, .closeThrew exc ∉ state.log) ∧ state.life ≠ .terminated ∧
      (state.closed = true → (machine Fib).CanReach GracefulShutdown state CloseReturned) ∧
      (CloseReturned state → List.Sublist closeSequence state.log ∧
        state.tcp.closing = true ∧ state.tcp.closed = true ∧
        ∀ fib call, state.fiber fib ≠ .waitRead false call) ∧
      (state.life = .destroyed → state.tcp.closing = true ∧ state.tcp.closed = true) := by
  have owned := reachable_owned reachable
  have order := reachable_closesInOrder reachable
  refine ⟨order.silent, order.running, canReach_closeReturned owned order, ?_, ?_⟩
  · intro returned
    obtain ⟨sequence, _, closing, ran, woken⟩ := order.returned returned
    exact ⟨sequence, closing, ran, woken⟩
  · intro destroyed
    obtain ⟨_, _, closing, ran, _⟩ := order.returned (order.destroyed destroyed)
    exact ⟨closing, ran⟩

/-- A reader is blocked, the shutdown callback reports `UV_ENOTCONN`, and the
object is destroyed after the close. -/
theorem close_finishes_after_enotconn :
    ∃ state : State (Fin 2), (machine (Fin 2)).Reachable GracefulShutdown state ∧
      state.life = .destroyed ∧ state.tcp.closing = true ∧ state.tcp.closed = true ∧
      ∀ fib call, state.fiber fib ≠ .waitRead false call := by
  have first : (machine (Fin 2)).Reachable GracefulShutdown (initial fun _ => 0) :=
    .start ⟨_, rfl⟩
  have reachable := first.exec (by decide +kernel)
    (rfl : (machine (Fin 2)).exec (initial fun _ => 0)
      [.read 0 (.read 100 8) 0, .close 1 0, .complete 0 uvEnotconn, .resume 1 0,
        .onHandleClosed, .resume 1 0, .resume 0 0, .destroy 0 0] = some _)
  obtain ⟨_, _, _, returned, destroyed⟩ := close_finishes_when_shutdown_tolerated reachable
  obtain ⟨closing, ran⟩ := destroyed rfl
  exact ⟨_, reachable, rfl, closing, ran, (returned (by decide +kernel)).2.2.2⟩

/-- The shutdown callback reports `UV_ECONNRESET`: `close` throws with
`closed_` set, and the destructor returns with a live handle. -/
theorem close_throws_after_econnreset :
    ∃ final : State (Fin 1), (machine (Fin 1)).exec (initial fun _ => 0)
        [.close 0 0, .complete 0 uvEconnreset, .resume 0 0, .destroy 0 0] = some final ∧
      .closeThrew (.uvError uvEconnreset) ∈ final.log ∧ final.closed = true ∧
      final.life = .destroyed ∧ final.tcp.closing = false ∧ final.tcp.closed = false :=
  ⟨_, rfl, by decide +kernel, rfl, rfl, rfl, rfl⟩

end Fiberio.Socket
