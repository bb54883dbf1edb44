import Fiberio.Foundation.Progress
import Fiberio.Socket.Lending
import Fiberio.Socket.Lifetime

/-!
Owns that no operation of a socket is ever stuck. In every state that any run
can reach, whatever statuses libuv has answered so far, some sequence of
callbacks and resumptions, without a new call, brings every fiber back to its
caller; so the object can always be destroyed.

Does not own fairness: whether libuv runs these callbacks is up to the network.
-/

namespace Fiberio.Socket

open Fiberio.Foundation

variable {Fib : Type}

/-! ## How far a fiber is from its caller -/

/-- How many steps the fiber is away from its caller, at most, when every
answer is an error: a reader may still have to close the socket. -/
def Fiber.distance : Fiber → Nat
  | .idle _ => 0
  | .wait waiting _ promise =>
      match waiting, promise with
      | .shutdown _, .unset => 4
      | .shutdown _, .set _ => 3
      | _, .unset => 2
      | _, .set _ => 1
  | .waitRead true _ => 5
  | .waitRead false _ => 6

theorem Fiber.distance_notify_le (fiber : Fiber) : fiber.notify.distance ≤ fiber.distance := by
  cases fiber with
  | waitRead notified call => cases notified <;> simp [Fiber.notify, Fiber.distance]
  | idle last => exact Nat.le_refl _
  | wait waiting serial promise => exact Nat.le_refl _

theorem Fiber.distance_set_lt (waiting : Waiting) (serial : Nat) (result : Except Exc Unit) :
    (Fiber.wait waiting serial (.set result)).distance <
      (Fiber.wait waiting serial .unset).distance := by
  cases waiting <;> simp [Fiber.distance]

theorem Fiber.distance_closeHandle_lt {waiting : Waiting} {serial serial' : Nat}
    {result : Except Exc Unit} {closer : Closer} (shutdown : waiting = .shutdown closer) :
    (Fiber.wait (.closeHandle closer) serial' .unset).distance <
      (Fiber.wait waiting serial (.set result)).distance := by
  rw [shutdown]
  simp [Fiber.distance]

theorem Fiber.distance_idle_lt {fiber : Fiber} (inside : fiber.isIdle = false)
    (last : Option Outcome) : (Fiber.idle last).distance < fiber.distance := by
  cases fiber with
  | idle last => cases inside
  | waitRead notified call => cases notified <;> simp [Fiber.distance]
  | wait waiting serial promise => cases waiting <;> cases promise <;> simp [Fiber.distance]

/-- Where each fiber of the socket is. -/
def State.distance (state : State Fib) (fib : Fib) : Nat := (state.fiber fib).distance

variable [DecidableEq Fib] {state after : State Fib} {fib : Fib}

/-- One fiber moves closer to its caller, and the others may be woken. -/
theorem closer_of_update {fibers : Fib → Fiber} {value : Fiber}
    (moved : after.fiber = Function.update fibers fib value)
    (others : ∀ other, (fibers other).distance ≤ (state.fiber other).distance)
    (less : value.distance < (state.fiber fib).distance) :
    Machine.Closer State.distance state after := by
  constructor
  · intro other
    unfold State.distance
    rw [moved]
    by_cases same : other = fib
    · rw [same, Function.update_self]
      exact Nat.le_of_lt less
    · rw [Function.update_of_ne same]
      exact others other
  · refine ⟨fib, ?_⟩
    unfold State.distance
    rw [moved, Function.update_self]
    exact less

theorem closer_of_move {value : Fiber} (moved : after.fiber = Function.update state.fiber fib value)
    (less : value.distance < (state.fiber fib).distance) :
    Machine.Closer State.distance state after :=
  closer_of_update moved (fun _ => Nat.le_refl _) less

theorem closer_of_finish {last : Option Outcome}
    (moved : after.fiber = Function.update state.fiber fib (.idle last))
    (inside : (state.fiber fib).isIdle = false) : Machine.Closer State.distance state after :=
  closer_of_move moved (Fiber.distance_idle_lt inside last)

/-! ## A step for every fiber that is inside -/

section Steps

/-- The shutdown was answered, and no destructor is waiting for it. -/
theorem closer_shutdownDone {closer : Closer} {serial : Nat} {result : Except Exc Unit}
    (awaits : state.fiber fib = .wait (.shutdown closer) serial (.set result))
    (member : closer ≠ .destructor) :
    Machine.Closer State.distance state (state.shutdownDone fib closer result) := by
  have inside : (state.fiber fib).isIdle = false := by
    rw [awaits]
    rfl
  have closes : Machine.Closer State.distance state (state.closeHandle fib closer) := by
    apply closer_of_move rfl
    rw [awaits]
    exact Fiber.distance_closeHandle_lt rfl
  cases result with
  | ok value => exact closes
  | error exc =>
      simp only [State.shutdownDone, State.shutdownThrew]
      split
      · exact closes
      · cases closer with
        | user => exact closer_of_finish rfl inside
        | eof call => exact closer_of_finish rfl inside
        | destructor => exact absurd rfl member

/-- The handle was closed: everybody is woken and `close` returns. -/
theorem closer_closeHandleDone {closer : Closer} {serial : Nat} {result : Except Exc Unit}
    {status : Int} (awaits : state.fiber fib = .wait (.closeHandle closer) serial (.set result))
    (closed : state.closed = true) :
    Machine.Closer State.distance state (state.closeHandleDone fib closer status) := by
  have inside : (state.fiber fib).isIdle = false := by
    rw [awaits]
    rfl
  have returns : ∀ after : State Fib, (∃ last, after.fiber =
      Function.update state.notifyAll.fiber fib (.idle last)) →
        Machine.Closer State.distance state after := by
    rintro after ⟨last, moved⟩
    refine closer_of_update moved (fun other => ?_) (Fiber.distance_idle_lt inside last)
    exact Fiber.distance_notify_le _
  apply returns
  cases closer with
  | user => exact ⟨_, rfl⟩
  | destructor => exact ⟨_, rfl⟩
  | eof call =>
      have stillClosed : (state.notifyAll.emit .closeReturned).closed = true := closed
      simp only [State.closeHandleDone, State.readEnd, State.readReturned, stillClosed, if_true]
      split
      · rw [State.read, if_pos (by simp)]
        exact ⟨_, rfl⟩
      · exact ⟨_, rfl⟩

/-- A fiber whose promise is set goes on, and gets an error for an answer. -/
theorem closer_resumeWith {waiting : Waiting} {serial : Nat} {result : Except Exc Unit}
    (owned : Owned state) (awaits : state.fiber fib = .wait waiting serial (.set result))
    (member : waiting ≠ .shutdown .destructor) :
    Machine.Closer State.distance state (state.resumeWith fib waiting result uvEnotconn) := by
  have inside : (state.fiber fib).isIdle = false := by
    rw [awaits]
    rfl
  cases waiting with
  | getaddrinfo =>
      simp only [State.resumeWith, State.connectResolved, checkUvStatus_enotconn]
      split <;> exact closer_of_finish rfl inside
  | connect =>
      simp only [State.resumeWith, State.connectDone]
      split <;> exact closer_of_finish rfl inside
  | write =>
      simp only [State.resumeWith, State.writeDone]
      split <;> exact closer_of_finish rfl inside
  | shutdown closer => exact closer_shutdownDone awaits (by simpa using member)
  | closeHandle closer =>
      exact closer_closeHandleDone awaits (owned.closers fib ⟨_, _, _, .inr awaits⟩)

/-- A woken reader gets an error for an answer when it reads again, and closes
the handle at once when it has met the end of the stream. -/
theorem closer_readWoken {call : ReadCall} (lends : Lends state)
    (woken : state.fiber fib = .waitRead true call) :
    Machine.Closer State.distance state (state.readWoken fib call uvEnotconn) := by
  have inside : (state.fiber fib).isIdle = false := by
    rw [woken]
    rfl
  have ends : ∀ len, Machine.Closer State.distance state
      ({ state with reading := false, len := len }.readReturned fib call (toSize len)
        uvEnotconn) := by
    intro len
    unfold State.readReturned State.read
    simp only [checkUvStatus_enotconn]
    split
    · split
      · exact closer_of_finish rfl inside
      · rw [if_neg (by simp)]
        exact closer_of_finish rfl inside
    · exact closer_of_finish rfl inside
  have readEnds : Machine.Closer State.distance state
      ({ state with reading := false }.readEnd fib call uvEnotconn) := by
    unfold State.readEnd
    by_cases closed : state.closed = true
    · simpa only [closed, if_true] using ends 0
    · rw [Bool.not_eq_true] at closed
      simpa only [closed, Bool.false_eq_true, if_false] using ends state.len
  have notAgain : ¬ (state.buf ≠ 0 && !state.closed) = true := by
    rcases lends.notified _ _ woken with closed | ⟨null, _⟩
    · simp [closed]
    · simp [null]
  unfold State.readWoken
  rw [if_neg notAgain]
  simp only
  split
  · split
    · exact readEnds
    · simp only [State.close, checkUvStatus_enotconn, State.shutdownThrew]
      apply closer_of_move rfl
      rw [woken]
      simp [Fiber.distance]
  · split
    · exact closer_of_finish rfl inside
    · exact readEnds

end Steps

/-! ## The socket comes to rest -/

/-- A callback or a resumption, and no shutdown that fails in a way `close`
does not expect. -/
def Calm (state : State Fib) (action : Action Fib) : Prop :=
  action.caller = none ∧ GracefulShutdown state action

omit [DecidableEq Fib] in
/-- `UV_ENOTCONN` is a status that `close` survives. -/
theorem calm_enotconn (state : State Fib) (fib : Fib) (id : Nat) :
    Calm state (.resume fib uvEnotconn) ∧ Calm state (.complete id uvEnotconn) := by
  refine ⟨⟨rfl, ?_⟩, rfl, ?_⟩
  · intro status asked
    simp only [State.shutdownStatus] at asked
    split at asked
    · cases asked
      exact .inr (.inl rfl)
    · cases asked
  · intro status asked
    simp only [State.shutdownStatus] at asked
    split at asked
    · split at asked
      · cases asked
        exact .inr (.inl rfl)
      · cases asked
    · cases asked

omit [DecidableEq Fib] in
theorem calm_callback (state : State Fib) (nread : Int) (bytes : List UInt8) :
    Calm state (.readCallback nread bytes) ∧ Calm state .onHandleClosed := by
  refine ⟨⟨rfl, ?_⟩, rfl, ?_⟩
  · intro status asked
    cases asked
  · intro status asked
    cases asked

variable [Fintype Fib]

/-- Every fiber is outside. -/
def AtRest (state : State Fib) : Prop := ∀ fib, (state.fiber fib).isIdle = true

/-- The object is alive, in a state that some run reaches. -/
structure Usable (state : State Fib) : Prop where
  reachable : (machine Fib).Reachable Machine.AnyStep state
  alive : state.life = .alive

namespace Usable

theorem step_eq (usable : Usable state) (fib : Fib) (id : Nat) (status nread : Int)
    (bytes : List UInt8) :
    (machine Fib).step state (.resume fib status) = state.resume fib status ∧
      (machine Fib).step state (.complete id status) = state.complete id status ∧
      (machine Fib).step state (.readCallback nread bytes) = state.readCallback nread bytes ∧
      (machine Fib).step state .onHandleClosed = state.onHandleClosed := by
  have running : ¬ state.life = .terminated := by
    rw [usable.alive]
    decide
  exact ⟨if_neg running, if_neg running, if_neg running, if_neg running⟩

theorem notDestructor (usable : Usable state) : ¬ (state.fiber fib).InDestructor := fun inside =>
  (reachable_lifetime usable.reachable).begun fib inside usable.alive

/-- A step without a call keeps the object alive. -/
theorem next {action : Action Fib} (usable : Usable state) (calm : Calm state action)
    (stepped : (machine Fib).step state action = some after) : Usable after := by
  refine ⟨usable.reachable.next trivial stepped, ?_⟩
  have transition := step_transition (reachable_owned usable.reachable) stepped
  have none : ∀ fib, ¬ (state.fiber fib).InDestructor := fun _ => usable.notDestructor
  cases transition with
  | admits entry _ _ _ => cases entry <;> exact usable.alive
  | rejects entry _ _ _ => cases entry <;> exact usable.alive
  | readsNull entry _ _ _ => cases entry <;> exact usable.alive
  | shutsDown entry _ _ => cases entry <;> first | exact usable.alive | cases calm.1
  | closesAtOnce entry _ _ => cases entry <;> first | exact usable.alive | cases calm.1
  | closeFails entry _ _ _ => cases entry <;> first | exact usable.alive | cases calm.1
  | @shutdownFails _ closer _ _ _ shut _ =>
      cases closer with
      | user => exact usable.alive
      | eof call => exact usable.alive
      | destructor => exact absurd ⟨_, _, .inl shut⟩ (none _)
  | closeReturnsToDestructor ran => exact absurd ⟨_, _, .inr ran⟩ (none _)
  | destroysClosed _ _ => cases calm.1
  | _ => exact usable.alive

/-- A fiber whose promise is set, or that was woken, is resumed. -/
theorem closer_resume (usable : Usable state)
    (ready : (∃ waiting serial result, state.fiber fib = .wait waiting serial (.set result)) ∨
      ∃ call, state.fiber fib = .waitRead true call) :
    ∃ after, (machine Fib).step state (.resume fib uvEnotconn) = some after ∧
      Machine.Closer State.distance state after := by
  rw [(usable.step_eq fib 0 uvEnotconn 0 []).1]
  rcases ready with ⟨waiting, serial, result, awaits⟩ | ⟨call, woken⟩
  · simp only [State.resume, awaits]
    refine ⟨_, rfl, closer_resumeWith (reachable_owned usable.reachable) awaits ?_⟩
    rintro rfl
    exact usable.notDestructor ⟨_, _, .inl awaits⟩
  · simp only [State.resume, woken]
    exact ⟨_, rfl, closer_readWoken (reachable_lends usable.reachable) woken⟩

/-- The request of a call that waits for it is answered. -/
theorem closer_complete {waiting : Waiting} {serial : Nat} (usable : Usable state)
    (awaits : state.fiber fib = .wait waiting serial .unset)
    (notHandle : ∀ closer, waiting ≠ .closeHandle closer) :
    ∃ id after, (machine Fib).step state (.complete id uvEnotconn) = some after ∧
      Machine.Closer State.distance state after := by
  have owned := reachable_owned usable.reachable
  rcases owned.registered _ _ _ awaits with ⟨closer, isHandle⟩ | ⟨request, member, id_eq, data_eq⟩
  · exact absurd isHandle (notHandle closer)
  · have serial_eq : request.data.serial = serial := by rw [data_eq]
    have fiber_eq : request.data.fiber = fib := by rw [data_eq]
    refine ⟨request.id, ?_⟩
    rw [(usable.step_eq fib request.id uvEnotconn 0 []).2.1, State.complete,
      owned.find_request member]
    refine ⟨_, rfl, ?_⟩
    rw [resolve_eq (by rw [fiber_eq, serial_eq]; exact awaits), fiber_eq, serial_eq]
    apply closer_of_move rfl
    rw [awaits]
    exact Fiber.distance_set_lt waiting serial _

/-- libuv reports an error to the blocked reader. -/
theorem closer_readCallback {call : ReadCall} (usable : Usable state)
    (waits : state.fiber fib = .waitRead false call) (watching : state.tcp.watching = true) :
    ∃ after, (machine Fib).step state (.readCallback uvEnobufs []) = some after ∧
      Machine.Closer State.distance state after := by
  have deliverable : state.canDeliver uvEnobufs [] = true := by
    unfold State.canDeliver
    split
    · simp
    · rw [if_neg (by decide)]
      simp
  have enabled : (state.tcp.watching && state.canDeliver uvEnobufs []) = true := by
    rw [watching, deliverable]
    rfl
  rw [(usable.step_eq fib 0 0 uvEnobufs []).2.2.1, State.readCallback, if_pos enabled]
  simp only
  rw [if_neg (by decide), if_neg (by decide)]
  refine ⟨_, rfl, fun other => Fiber.distance_notify_le _, fib, ?_⟩
  show (state.fiber fib).notify.distance < (state.fiber fib).distance
  rw [waits]
  simp [Fiber.notify, Fiber.distance]

/-- Nothing but the close callback is missing. -/
theorem closer_onHandleClosed {closer : Closer} {serial : Nat} (usable : Usable state)
    (awaits : state.fiber fib = .wait (.closeHandle closer) serial .unset)
    (requests : state.requests = []) :
    ∃ after, (machine Fib).step state .onHandleClosed = some after ∧
      Machine.Closer State.distance state after := by
  have owned := reachable_owned usable.reachable
  obtain ⟨closing, data, closedIff⟩ := owned.handle _ _ _ _ awaits
  have pending : state.tcp.closed = false := by simpa using closedIff
  have enabled : (state.tcp.closing && !state.tcp.closed &&
      state.requests.all (fun request => request.kind == RequestKind.getaddrinfo)) = true := by
    simp [closing, pending, requests]
  rw [(usable.step_eq fib 0 0 0 []).2.2.2, State.onHandleClosed, if_pos enabled]
  simp only [data]
  refine ⟨_, rfl, ?_⟩
  rw [resolve_eq awaits]
  apply closer_of_move rfl
  rw [awaits]
  exact Fiber.distance_set_lt _ serial _

/-- As long as some fiber is inside, some step without a call brings one
closer to its caller. -/
theorem closer_step (usable : Usable state) (busy : ¬ AtRest state) :
    ∃ action after, Calm state action ∧ (machine Fib).step state action = some after ∧
      Machine.Closer State.distance state after := by
  have lends := reachable_lends usable.reachable
  by_cases ready : ∃ fib, (∃ waiting serial result,
      state.fiber fib = .wait waiting serial (.set result)) ∨
        ∃ call, state.fiber fib = .waitRead true call
  · obtain ⟨fib, ready⟩ := ready
    obtain ⟨after, stepped, closer⟩ := usable.closer_resume ready
    exact ⟨_, after, (calm_enotconn state fib 0).1, stepped, closer⟩
  by_cases requested : ∃ fib waiting serial, state.fiber fib = .wait waiting serial .unset ∧
      ∀ closer, waiting ≠ .closeHandle closer
  · obtain ⟨fib, waiting, serial, awaits, notHandle⟩ := requested
    obtain ⟨id, after, stepped, closer⟩ := usable.closer_complete awaits notHandle
    exact ⟨_, after, (calm_enotconn state fib id).2, stepped, closer⟩
  -- Only blocked readers and a close that waits for its callback are left.
  have handle : ∀ fib waiting serial promise, state.fiber fib = .wait waiting serial promise →
      promise = .unset ∧ ∃ closer, waiting = .closeHandle closer := by
    intro fib waiting serial promise awaits
    cases promise with
    | set result => exact absurd ⟨fib, .inl ⟨_, _, _, awaits⟩⟩ ready
    | unset =>
        refine ⟨rfl, ?_⟩
        by_contra notHandle
        push Not at notHandle
        exact requested ⟨fib, waiting, serial, awaits, notHandle⟩
  have requests : state.requests = [] := by
    rw [List.eq_nil_iff_forall_not_mem]
    intro request member
    obtain ⟨_, waiting, issued, awaits⟩ :=
      (reachable_owned usable.reachable).pending request member
    obtain ⟨_, closer, rfl⟩ := handle _ _ _ _ awaits
    cases kind : request.kind <;> rw [kind] at issued <;> cases issued
  have closes : ClosingHandle state → ∃ action after, Calm state action ∧
      (machine Fib).step state action = some after ∧
        Machine.Closer State.distance state after := by
    rintro ⟨fib, closer, serial, promise, awaits⟩
    obtain ⟨rfl, _⟩ := handle _ _ _ _ awaits
    obtain ⟨after, stepped, closer⟩ := usable.closer_onHandleClosed awaits requests
    exact ⟨_, after, (calm_callback state 0 []).2, stepped, closer⟩
  unfold AtRest at busy
  push Not at busy
  obtain ⟨fib, inside⟩ := busy
  cases fiber : state.fiber fib with
  | idle last =>
      rw [fiber] at inside
      exact absurd rfl inside
  | wait waiting serial promise =>
      obtain ⟨rfl, closer, rfl⟩ := handle _ _ _ _ fiber
      exact closes ⟨fib, closer, serial, _, fiber⟩
  | waitRead notified call =>
      cases notified with
      | true => exact absurd ⟨fib, .inr ⟨call, fiber⟩⟩ ready
      | false =>
          rcases (lends.blocked _ _ fiber).2.2 with watching | closing
          · obtain ⟨after, stepped, closer⟩ := usable.closer_readCallback fiber watching
            exact ⟨_, after, (calm_callback state uvEnobufs []).1, stepped, closer⟩
          · exact closes closing

theorem canRest (usable : Usable state) : (machine Fib).CanReach Calm state AtRest := by
  apply Machine.canReach_of_closer State.distance usable
  intro state usable
  by_cases rest : AtRest state
  · exact .inl rest
  · obtain ⟨action, after, calm, stepped, closer⟩ := usable.closer_step rest
    exact .inr ⟨action, after, calm, stepped, usable.next calm stepped, closer⟩

end Usable

/-- No operation is ever stuck: from every reachable state of a socket that is
not being destroyed, whatever the run and its statuses were, callbacks and
resumptions alone can bring every fiber back to its caller. -/
theorem socket_can_come_to_rest
    (reachable : (machine Fib).Reachable Machine.AnyStep state) (alive : state.life = .alive) :
    (machine Fib).CanReach Calm state AtRest :=
  Usable.canRest ⟨reachable, alive⟩

/-- A reader is blocked and a write is under way while a third fiber's `close`
has thrown. -/
theorem rest_after_failed_close :
    ∃ state : State (Fin 3), (machine (Fin 3)).Reachable Machine.AnyStep state ∧
      state.closed = true ∧ (state.fiber 0).isIdle = false ∧ (state.fiber 1).isIdle = false ∧
      (machine (Fin 3)).CanReach Calm state AtRest := by
  have first : (machine (Fin 3)).Reachable Machine.AnyStep (initial fun _ => 0) := .start ⟨_, rfl⟩
  have reachable := first.exec (Machine.along_anyStep _ _)
    (rfl : (machine (Fin 3)).exec (initial fun _ => 0)
      [.read 0 (.readExactly 100 8) 0, .write 1 [1, 2] 0, .close 2 uvEconnreset] = some _)
  exact ⟨_, reachable, rfl, rfl, rfl, socket_can_come_to_rest reachable rfl⟩

/-! ## A clean end -/

/-- The destructor waits for the close callback and for nothing else. -/
theorem canDestroy_closing {serial : Nat}
    (reachable : (machine Fib).Reachable GracefulShutdown state)
    (awaits : state.fiber fib = .wait (.closeHandle .destructor) serial .unset)
    (requests : state.requests = []) :
    (machine Fib).CanReach GracefulShutdown state fun final => final.life = .destroyed := by
  have order := reachable_closesInOrder reachable
  have owned := reachable_owned reachable
  obtain ⟨closing, data, closedIff⟩ := owned.handle _ _ _ _ awaits
  have pending : state.tcp.closed = false := by simpa using closedIff
  have enabled : (state.tcp.closing && !state.tcp.closed &&
      state.requests.all (fun request => request.kind == RequestKind.getaddrinfo)) = true := by
    simp [closing, pending, requests]
  have ran : ∃ after, (machine Fib).step state .onHandleClosed = some after ∧
      after.fiber fib = .wait (.closeHandle .destructor) serial (.set (.ok ())) := by
    rw [(step_running order fib 0 0).2.2, State.onHandleClosed, if_pos enabled]
    simp only [data]
    refine ⟨_, rfl, ?_⟩
    rw [resolve_eq awaits]
    exact Function.update_self _ _ _
  obtain ⟨after, stepped, set⟩ := ran
  have afterReached := reachable.next (calm_callback state 0 []).2.2 stepped
  have returns : (machine Fib).step after (.resume fib 0) =
      some (after.closeHandleDone fib .destructor 0) := by
    rw [(step_running (reachable_closesInOrder afterReached) fib 0 0).1]
    simp only [State.resume, set, State.resumeWith]
  exact .step (calm_callback state 0 []).2.2 stepped
    (.step (gracefulShutdown_resume after fib) returns (.now rfl))

/-- An object at rest is destroyed by whoever drops the last reference. -/
theorem canDestroy_atRest (reachable : (machine Fib).Reachable GracefulShutdown state)
    (alive : state.life = .alive) (rest : AtRest state) (fib : Fib) :
    (machine Fib).CanReach GracefulShutdown state fun final => final.life = .destroyed := by
  have graceful : GracefulShutdown state (.destroy fib uvEnotconn) := by
    intro status asked
    simp only [State.shutdownStatus] at asked
    split at asked
    · cases asked
    · cases asked
      exact .inr (.inl rfl)
  have stepped := destroy_enabled alive rest fib uvEnotconn
  apply Machine.CanReach.step graceful stepped
  have afterReached := reachable.next graceful stepped
  unfold State.destroy at afterReached ⊢
  split
  · exact .now rfl
  · rename_i isOpen
    rw [if_neg isOpen] at afterReached
    simp only [State.close, checkUvStatus_enotconn, State.shutdownThrew] at afterReached ⊢
    apply canDestroy_closing afterReached (Function.update_self _ _ _)
    exact (reachable_owned reachable).no_requests rest

/-- A socket always has a clean end: in every graceful run the object can still
be destroyed, whatever its fibers are doing, and once it is destroyed nothing
can reach it any more. -/
theorem socket_ends_cleanly (reachable : (machine Fib).Reachable GracefulShutdown state) :
    (state.life = .destroyed → OutOfReach state) ∧
      ∀ _fib : Fib, state.life = .alive → (machine Fib).CanReach GracefulShutdown state
        fun final => final.life = .destroyed ∧ OutOfReach final := by
  refine ⟨outOfReach_of_destroyed reachable, fun fib alive => ?_⟩
  have usable : Usable state := ⟨reachable.mono fun _ _ _ => trivial, alive⟩
  have rests := (usable.canRest.keeping usable fun before action after known calm stepped =>
    known.next calm stepped).mono fun state action (calm : Calm state action) => calm.2
  have kept : ∀ before action after, (machine Fib).Reachable GracefulShutdown before →
      GracefulShutdown before action → (machine Fib).step before action = some after →
        (machine Fib).Reachable GracefulShutdown after := fun _ _ _ => .next
  apply (rests.keeping reachable kept).trans
  rintro middle ⟨⟨rest, middleUsable⟩, middleReached⟩
  have destroyed := canDestroy_atRest middleReached middleUsable.alive rest fib
  apply (destroyed.keeping middleReached kept).trans
  rintro final ⟨dead, finalReached⟩
  exact .now ⟨dead, outOfReach_of_destroyed finalReached dead⟩

/-- A connect waits for its address and a reader for its bytes. -/
theorem clean_end_of_busy_socket :
    ∃ state : State (Fin 2), (machine (Fin 2)).Reachable GracefulShutdown state ∧
      (state.fiber 0).isIdle = false ∧ (state.fiber 1).isIdle = false ∧
      (machine (Fin 2)).CanReach GracefulShutdown state fun final =>
        final.life = .destroyed ∧ OutOfReach final := by
  have first : (machine (Fin 2)).Reachable GracefulShutdown (initial fun _ => 0) :=
    .start ⟨_, rfl⟩
  have reachable := first.exec (by decide +kernel)
    (rfl : (machine (Fin 2)).exec (initial fun _ => 0)
      [.connect 0 0, .read 1 (.readString .cpp17 8 100) 0] = some _)
  exact ⟨_, reachable, rfl, rfl, (socket_ends_cleanly reachable).2 0 rfl⟩

end Fiberio.Socket
