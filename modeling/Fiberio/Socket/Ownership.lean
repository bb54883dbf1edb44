import Fiberio.Foundation.Ledger
import Fiberio.Socket.Transition

/-!
Owns the proof that no run of the socket leaves a pointer of libuv dangling:
`Owned` holds initially and every transition keeps it, so every reachable
step is a `Transition`.

Does not own what the fibers do with the socket.
-/

namespace Fiberio.Socket

open Fiberio.Foundation

variable {Fib : Type} [DecidableEq Fib]

omit [DecidableEq Fib] in
/-- libuv finds a registered request. -/
theorem Owned.find_request {state : State Fib} {request : Request Fib} (owned : Owned state)
    (member : request ∈ state.requests) :
    state.requests.find? (fun other => other.id == request.id) = some request :=
  find_of_distinct owned.distinct member

/-- Nothing that libuv holds points into the fiber. -/
def Fiber.Settled (fiber : Fiber) : Prop :=
  ∀ waiting serial, fiber ≠ .wait waiting serial .unset

/-- The fiber does not wait on a promise. -/
def Fiber.Promiseless (fiber : Fiber) : Prop :=
  ∀ waiting serial promise, fiber ≠ .wait waiting serial promise

theorem Fiber.Promiseless.settled {fiber : Fiber} (plain : fiber.Promiseless) :
    fiber.Settled := fun waiting serial => plain waiting serial .unset

theorem Fiber.Promiseless.notInClose {fiber : Fiber} (plain : fiber.Promiseless) :
    ¬ fiber.InClose := by
  rintro ⟨closer, serial, promise, shut | closing⟩
  · exact plain _ _ _ shut
  · exact plain _ _ _ closing

theorem Fiber.idle_promiseless {fiber : Fiber} (idle : fiber.isIdle = true) :
    fiber.Promiseless := by
  rintro waiting serial promise rfl
  cases idle

theorem Fiber.Unbound.settled {fiber : Fiber} (unbound : fiber.Unbound) : fiber.Settled := by
  rcases unbound with idle | ⟨waiting, serial, result, rfl, _⟩
  · exact (Fiber.idle_promiseless idle).settled
  · intro _ _ unset
    cases unset

theorem Fiber.Unbound.notInClose {fiber : Fiber} (unbound : fiber.Unbound) :
    ¬ fiber.InClose := by
  rintro ⟨closer, serial, promise, inside⟩
  rcases unbound with idle | ⟨waiting, serial', result, awaits, kinds⟩
  · rcases inside with shut | closing
    · rw [shut] at idle
      cases idle
    · rw [closing] at idle
      cases idle
  · rcases inside with shut | closing
    · rw [shut] at awaits
      cases awaits
      simp at kinds
    · rw [closing] at awaits
      cases awaits
      simp at kinds

theorem Fiber.idle_notInClose (last : Option Outcome) : ¬ (Fiber.idle last).InClose := by
  rintro ⟨closer, serial, promise, shut | closing⟩
  · cases shut
  · cases closing

theorem Fiber.waitRead_notInClose {notified : Bool} {call : ReadCall} :
    ¬ (Fiber.waitRead notified call).InClose := by
  rintro ⟨closer, serial, promise, shut | closing⟩
  · cases shut
  · cases closing

/-- The wait is one of `close`. -/
def Waiting.inClose : Waiting → Bool
  | .shutdown _ | .closeHandle _ => true
  | _ => false

theorem Fiber.wait_notInClose {waiting : Waiting} {serial : Nat} {promise : PromiseState}
    (outside : waiting.inClose = false) : ¬ (Fiber.wait waiting serial promise).InClose := by
  rintro ⟨closer, _, _, shut | closing⟩
  · cases shut
    cases outside
  · cases closing
    cases outside

/-- `notify_all` leaves a wait on a promise alone. -/
@[simp] theorem Fiber.notify_eq_wait_iff {fiber : Fiber} {waiting : Waiting} {serial : Nat}
    {promise : PromiseState} :
    fiber.notify = .wait waiting serial promise ↔ fiber = .wait waiting serial promise := by
  cases fiber <;> simp [Fiber.notify]

@[simp] theorem Fiber.notify_eq_waitRead_iff {fiber : Fiber} {notified : Bool}
    {call : ReadCall} : fiber.notify = .waitRead notified call ↔
      notified = true ∧ ∃ earlier, fiber = .waitRead earlier call := by
  cases fiber <;> simp [Fiber.notify, eq_comm]

theorem Fiber.inClose_notify_iff {fiber : Fiber} : fiber.notify.InClose ↔ fiber.InClose := by
  simp only [Fiber.InClose, Fiber.notify_eq_wait_iff]

namespace Owned

variable {state : State Fib} {fib : Fib}

omit [DecidableEq Fib] in
/-- Only the waits, the handle and the registered requests matter. -/
theorem congr {after : State Fib} (owned : Owned state)
    (waits : ∀ fib waiting serial promise, after.fiber fib = .wait waiting serial promise ↔
      state.fiber fib = .wait waiting serial promise)
    (closed : after.closed = state.closed) (data : after.tcp.data = state.tcp.data)
    (closing : after.tcp.closing = state.tcp.closing)
    (handleClosed : after.tcp.closed = state.tcp.closed)
    (watched : after.tcp.watching = true → state.tcp.closing = false)
    (requests : after.requests = state.requests) (serials : after.serials = state.serials)
    (fault : after.fault = false) : Owned after := by
  have inClose : ∀ fib, (after.fiber fib).InClose ↔ (state.fiber fib).InClose := by
    intro fib
    simp only [Fiber.InClose, waits]
  constructor
  · simpa only [inClose, closed] using owned.closers
  · simpa only [inClose] using owned.alone
  · simpa only [waits, serials] using owned.fresh
  · simpa only [waits, requests] using owned.pending
  · simpa only [requests] using owned.distinct
  · simpa only [waits, requests] using owned.registered
  · simpa only [waits, closing] using owned.shutting
  · simpa only [waits, closing, data, handleClosed] using owned.handle
  · simpa only [waits, closing, closed, handleClosed] using owned.closing
  · simpa only [closing, data, handleClosed] using owned.object
  · simpa only [closing] using watched
  · exact fault

omit [DecidableEq Fib] in
/-- Nothing that `Owned` speaks about changes. -/
theorem unaffected {after : State Fib} (owned : Owned state)
    (fiber : after.fiber = state.fiber) (closed : after.closed = state.closed)
    (tcp : after.tcp = state.tcp) (requests : after.requests = state.requests)
    (serials : after.serials = state.serials) (fault : after.fault = state.fault) :
    Owned after := by
  refine owned.congr ?_ closed (by rw [tcp]) (by rw [tcp]) (by rw [tcp]) ?_ requests serials
    (fault.trans owned.sound)
  · simp [fiber]
  · rw [tcp]
    exact owned.watched

omit [DecidableEq Fib] in
/-- `closed_` is set. -/
theorem mark (owned : Owned state) : Owned { state with closed := true } :=
  { owned with
    closers := fun _ _ => rfl
    closing := fun closing => ⟨rfl, (owned.closing closing).2⟩ }

omit [DecidableEq Fib] in
/-- On an open socket no fiber is inside `close`. -/
theorem noCloser (owned : Owned state) (isOpen : state.closed = false) (other : Fib) :
    ¬ (state.fiber other).InClose := by
  intro inside
  exact absurd (isOpen.symm.trans (owned.closers other inside)) (by decide)

omit [DecidableEq Fib] in
/-- The handle of an open socket is not closing. -/
theorem live (owned : Owned state) (isOpen : state.closed = false) :
    state.tcp.closing = false := by
  by_contra closing
  have closing : state.tcp.closing = true := by simpa using closing
  exact absurd (isOpen.symm.trans (owned.closing closing).1) (by decide)

/-- A settled fiber turns to something that is not a promise. -/
theorem leave {value : Fiber} (owned : Owned state) (settled : (state.fiber fib).Settled)
    (plain : value.Promiseless) : Owned (state.setFiber fib value) := by
  have waits : ∀ other waiting serial promise,
      (state.setFiber fib value).fiber other = .wait waiting serial promise ↔
        other ≠ fib ∧ state.fiber other = .wait waiting serial promise := by
    intro other waiting serial promise
    by_cases same : other = fib
    · subst same
      simpa using plain waiting serial promise
    · simp [same]
  have inClose : ∀ other, ((state.setFiber fib value).fiber other).InClose →
      (state.fiber other).InClose := by
    rintro other ⟨closer, serial, promise, shut | closing⟩
    · exact ⟨closer, serial, promise, .inl ((waits _ _ _ _).mp shut).2⟩
    · exact ⟨closer, serial, promise, .inr ((waits _ _ _ _).mp closing).2⟩
  have still : ∀ other waiting serial, state.fiber other = .wait waiting serial .unset →
      (state.setFiber fib value).fiber other = .wait waiting serial .unset := by
    intro other waiting serial awaits
    refine (waits _ _ _ _).mpr ⟨?_, awaits⟩
    rintro rfl
    exact settled _ _ awaits
  constructor
  · exact fun other inside => owned.closers other (inClose other inside)
  · exact fun first second one two => owned.alone _ _ (inClose _ one) (inClose _ two)
  · exact fun other _ _ _ awaits => owned.fresh _ _ _ _ ((waits _ _ _ _).mp awaits).2
  · intro request member
    obtain ⟨serial_eq, waiting, issued, awaits⟩ := owned.pending request member
    exact ⟨serial_eq, waiting, issued, still _ _ _ awaits⟩
  · exact owned.distinct
  · exact fun other _ _ awaits => owned.registered _ _ _ ((waits _ _ _ _).mp awaits).2
  · exact fun other _ _ _ awaits => owned.shutting _ _ _ _ ((waits _ _ _ _).mp awaits).2
  · exact fun other _ _ _ awaits => owned.handle _ _ _ _ ((waits _ _ _ _).mp awaits).2
  · intro closing
    refine ⟨(owned.closing closing).1, fun pending => ?_⟩
    obtain ⟨other, closer, serial, awaits⟩ := (owned.closing closing).2 pending
    exact ⟨other, closer, serial, still _ _ _ awaits⟩
  · exact owned.object
  · exact owned.watched
  · exact owned.sound

theorem finish {operation : Operation} {outcome : Outcome} (owned : Owned state)
    (settled : (state.fiber fib).Settled) : Owned (state.finish fib operation outcome) := by
  have left : Owned (state.setFiber fib (.idle (some outcome))) :=
    owned.leave settled (by rintro _ _ _ ⟨⟩)
  exact left.congr (fun _ _ _ _ => Iff.rfl) rfl rfl rfl rfl left.watched rfl rfl left.sound

/-- How the waits change when a fiber turns to a new promise. -/
theorem wait_iff {waiting : Waiting} {serial : Nat} {promise : PromiseState} {other : Fib}
    {waiting' : Waiting} {serial' : Nat} {promise' : PromiseState} :
    Function.update state.fiber fib (.wait waiting serial promise) other =
        .wait waiting' serial' promise' ↔
      (other = fib ∧ waiting' = waiting ∧ serial' = serial ∧ promise' = promise) ∨
        (other ≠ fib ∧ state.fiber other = .wait waiting' serial' promise') := by
  by_cases same : other = fib
  · subst same
    simp [eq_comm]
  · simp [same]

/-- A settled fiber issues a request and waits on its own promise. A shutdown
is issued by the only fiber inside `close`, before the handle is closed. -/
theorem register {kind : RequestKind} {waiting : Waiting} (owned : Owned state)
    (settled : (state.fiber fib).Settled) (issued : waiting.issues kind = true)
    (shutdown : ∀ closer, waiting = .shutdown closer → state.closed = true ∧
      state.tcp.closing = false ∧ ∀ other, other ≠ fib → ¬ (state.fiber other).InClose) :
    Owned (state.register fib kind waiting) := by
  have notHandle : ∀ closer, waiting ≠ .closeHandle closer := by
    rintro closer rfl
    cases kind <;> cases issued
  have waits : ∀ other waiting' serial' promise',
      (state.register fib kind waiting).fiber other = .wait waiting' serial' promise' ↔
        (other = fib ∧ waiting' = waiting ∧ serial' = state.serials ∧ promise' = .unset) ∨
          (other ≠ fib ∧ state.fiber other = .wait waiting' serial' promise') :=
    fun _ _ _ _ => wait_iff
  have inClose : ∀ other, ((state.register fib kind waiting).fiber other).InClose →
      (other = fib ∧ ∃ closer, waiting = .shutdown closer) ∨
        (other ≠ fib ∧ (state.fiber other).InClose) := by
    rintro other ⟨closer, serial, promise, shut | closing⟩
    · rcases (waits _ _ _ _).mp shut with ⟨same, isShutdown, _⟩ | ⟨differs, earlier⟩
      · exact .inl ⟨same, closer, isShutdown.symm⟩
      · exact .inr ⟨differs, closer, serial, promise, .inl earlier⟩
    · rcases (waits _ _ _ _).mp closing with ⟨_, isHandle, _⟩ | ⟨differs, earlier⟩
      · exact absurd isHandle.symm (notHandle closer)
      · exact .inr ⟨differs, closer, serial, promise, .inr earlier⟩
  have still : ∀ other waiting' serial', state.fiber other = .wait waiting' serial' .unset →
      (state.register fib kind waiting).fiber other = .wait waiting' serial' .unset := by
    intro other waiting' serial' awaits
    refine (waits _ _ _ _).mpr (.inr ⟨?_, awaits⟩)
    rintro rfl
    exact settled _ _ awaits
  constructor
  · intro other inside
    rcases inClose other inside with ⟨_, closer, isShutdown⟩ | ⟨_, earlier⟩
    · exact (shutdown closer isShutdown).1
    · exact owned.closers other earlier
  · intro first second one two
    rcases inClose first one with ⟨rfl, closer, isShutdown⟩ | ⟨firstDiffers, firstBefore⟩ <;>
      rcases inClose second two with ⟨rfl, closer', isShutdown'⟩ | ⟨differs, before⟩
    · rfl
    · exact absurd before ((shutdown closer isShutdown).2.2 second differs)
    · exact absurd firstBefore ((shutdown closer' isShutdown').2.2 first firstDiffers)
    · exact owned.alone _ _ firstBefore before
  · intro other waiting' serial' promise' awaits
    show serial' < state.serials + 1
    rcases (waits _ _ _ _).mp awaits with ⟨_, _, rfl, _⟩ | ⟨_, earlier⟩
    · omega
    · have := owned.fresh _ _ _ _ earlier
      omega
  · intro request member
    rcases List.mem_append.mp member with earlier | new
    · obtain ⟨serial_eq, waiting', issued', awaits⟩ := owned.pending request earlier
      exact ⟨serial_eq, waiting', issued', still _ _ _ awaits⟩
    · obtain rfl := List.mem_singleton.mp new
      exact ⟨rfl, waiting, issued, (waits _ _ _ _).mpr (.inl ⟨rfl, rfl, rfl, rfl⟩)⟩
  · have old : ∀ id ∈ state.requests.map Request.id, id < state.serials := by
      intro id member
      obtain ⟨request, listed, rfl⟩ := List.mem_map.mp member
      obtain ⟨_, waiting', _, awaits⟩ := owned.pending request listed
      exact owned.fresh _ _ _ _ awaits
    simp only [State.register_requests, List.map_append, List.map_cons, List.map_nil]
    refine List.nodup_append.mpr ⟨owned.distinct, by simp, ?_⟩
    intro id member new isNew
    have := old id member
    simp only [List.mem_singleton] at isNew
    omega
  · intro other waiting' serial' awaits
    rcases (waits _ _ _ _).mp awaits with ⟨rfl, _, rfl, _⟩ | ⟨_, earlier⟩
    · exact .inr ⟨_, List.mem_append_right _ (List.mem_singleton_self _), rfl, rfl⟩
    · rcases owned.registered _ _ _ earlier with handle | ⟨request, member, known⟩
      · exact .inl handle
      · exact .inr ⟨request, List.mem_append_left _ member, known⟩
  · intro other closer serial promise awaits
    rcases (waits _ _ _ _).mp awaits with ⟨_, isShutdown, _⟩ | ⟨_, earlier⟩
    · exact (shutdown closer isShutdown.symm).2.1
    · exact owned.shutting _ _ _ _ earlier
  · intro other closer serial promise awaits
    rcases (waits _ _ _ _).mp awaits with ⟨_, isHandle, _⟩ | ⟨_, earlier⟩
    · exact absurd isHandle.symm (notHandle closer)
    · exact owned.handle _ _ _ _ earlier
  · intro closing
    refine ⟨(owned.closing closing).1, fun pending => ?_⟩
    obtain ⟨other, closer, serial, awaits⟩ := (owned.closing closing).2 pending
    exact ⟨other, closer, serial, still _ _ _ awaits⟩
  · exact owned.object
  · exact owned.watched
  · exact owned.sound

/-- The only fiber inside `close` redirects the handle's data pointer to its
own promise and closes the handle. -/
theorem closeHandle {closer : Closer} (owned : Owned state)
    (settled : (state.fiber fib).Settled) (closed : state.closed = true)
    (live : state.tcp.closing = false)
    (others : ∀ other, other ≠ fib → ¬ (state.fiber other).InClose) :
    Owned (state.closeHandle fib closer) := by
  have waits : ∀ other waiting' serial' promise',
      (state.closeHandle fib closer).fiber other = .wait waiting' serial' promise' ↔
        (other = fib ∧ waiting' = .closeHandle closer ∧ serial' = state.serials ∧
          promise' = .unset) ∨
          (other ≠ fib ∧ state.fiber other = .wait waiting' serial' promise') :=
    fun _ _ _ _ => wait_iff
  have inClose : ∀ other, ((state.closeHandle fib closer).fiber other).InClose →
      other = fib := by
    rintro other ⟨closer', serial, promise, shut | closing⟩
    · rcases (waits _ _ _ _).mp shut with ⟨same, _⟩ | ⟨differs, earlier⟩
      · exact same
      · exact absurd ⟨closer', serial, promise, .inl earlier⟩ (others other differs)
    · rcases (waits _ _ _ _).mp closing with ⟨same, _⟩ | ⟨differs, earlier⟩
      · exact same
      · exact absurd ⟨closer', serial, promise, .inr earlier⟩ (others other differs)
  have notShutting : ∀ other closer' serial promise,
      (state.closeHandle fib closer).fiber other ≠ .wait (.shutdown closer') serial promise := by
    intro other closer' serial promise awaits
    rcases (waits _ _ _ _).mp awaits with ⟨_, isHandle, _⟩ | ⟨differs, earlier⟩
    · cases isHandle
    · exact others other differs ⟨closer', serial, promise, .inl earlier⟩
  constructor
  · exact fun _ _ => closed
  · intro first second one two
    rw [inClose first one, inClose second two]
  · intro other waiting' serial' promise' awaits
    show serial' < state.serials + 1
    rcases (waits _ _ _ _).mp awaits with ⟨_, _, rfl, _⟩ | ⟨_, earlier⟩
    · omega
    · have := owned.fresh _ _ _ _ earlier
      omega
  · intro request member
    obtain ⟨serial_eq, waiting', issued', awaits⟩ := owned.pending request member
    refine ⟨serial_eq, waiting', issued', (waits _ _ _ _).mpr (.inr ⟨?_, awaits⟩)⟩
    intro same
    exact settled _ _ (same ▸ awaits)
  · exact owned.distinct
  · intro other waiting' serial' awaits
    rcases (waits _ _ _ _).mp awaits with ⟨_, rfl, _⟩ | ⟨_, earlier⟩
    · exact .inl ⟨closer, rfl⟩
    · exact owned.registered _ _ _ earlier
  · exact fun other closer' serial promise awaits =>
      absurd awaits (notShutting other closer' serial promise)
  · intro other closer' serial promise awaits
    rcases (waits _ _ _ _).mp awaits with ⟨rfl, _, rfl, rfl⟩ | ⟨differs, earlier⟩
    · refine ⟨rfl, rfl, ?_⟩
      simp [(owned.object live).2]
    · exact absurd ⟨closer', serial, promise, .inr earlier⟩ (others other differs)
  · intro _
    refine ⟨closed, fun _ => ⟨fib, closer, state.serials, ?_⟩⟩
    exact (waits _ _ _ _).mpr (.inl ⟨rfl, rfl, rfl, rfl⟩)
  · intro notClosing
    cases notClosing
  · intro watching
    cases watching
  · exact owned.sound

/-- The promise of a pending wait is resolved: who waits, and for what, stays. -/
theorem wait_set_iff {waiting : Waiting} {serial : Nat} {result : Except Exc Unit}
    (awaits : state.fiber fib = .wait waiting serial .unset) {other : Fib}
    {waiting' : Waiting} {serial' : Nat} :
    (∃ promise, Function.update state.fiber fib (.wait waiting serial (.set result)) other =
        .wait waiting' serial' promise) ↔
      ∃ promise, state.fiber other = .wait waiting' serial' promise := by
  by_cases same : other = fib
  · subst same
    simp [awaits]
  · simp [same]

/-- A callback answers a registered request through its data pointer. -/
theorem answer {request : Request Fib} {waiting : Waiting} (result : Except Exc Unit)
    (owned : Owned state) (member : request ∈ state.requests)
    (issued : waiting.issues request.kind = true)
    (awaits : state.fiber request.data.fiber = .wait waiting request.id .unset) :
    Owned ({ state with requests := state.requests.erase request }.setFiber
      request.data.fiber (.wait waiting request.id (.set result))) := by
  have notHandle : ∀ closer, waiting ≠ .closeHandle closer := by
    rintro closer rfl
    cases kind : request.kind <;> rw [kind] at issued <;> cases issued
  have waits : ∀ other waiting' serial' promise',
      Function.update state.fiber request.data.fiber
          (.wait waiting request.id (.set result)) other = .wait waiting' serial' promise' ↔
        (other = request.data.fiber ∧ waiting' = waiting ∧ serial' = request.id ∧
          promise' = .set result) ∨
          (other ≠ request.data.fiber ∧ state.fiber other = .wait waiting' serial' promise') :=
    fun _ _ _ _ => wait_iff
  have earlier : ∀ other waiting' serial' promise',
      Function.update state.fiber request.data.fiber
          (.wait waiting request.id (.set result)) other = .wait waiting' serial' promise' →
        ∃ promise, state.fiber other = .wait waiting' serial' promise :=
    fun _ _ _ promise' now => (wait_set_iff awaits).mp ⟨promise', now⟩
  have inClose : ∀ other,
      (Function.update state.fiber request.data.fiber
        (.wait waiting request.id (.set result)) other).InClose →
        (state.fiber other).InClose := by
    rintro other ⟨closer, serial, promise, shut | closing⟩
    · obtain ⟨promise, before⟩ := earlier _ _ _ _ shut
      exact ⟨closer, serial, promise, .inl before⟩
    · obtain ⟨promise, before⟩ := earlier _ _ _ _ closing
      exact ⟨closer, serial, promise, .inr before⟩
  -- Another request waits on another fiber, since its identifier differs.
  have elsewhere : ∀ other ∈ state.requests.erase request,
      other.data.fiber ≠ request.data.fiber := by
    intro other remaining same
    obtain ⟨registered, differs⟩ := mem_erase_of_distinct owned.distinct member remaining
    obtain ⟨_, waiting', _, awaits'⟩ := owned.pending other registered
    rw [same, awaits] at awaits'
    injection awaits' with _ sameId
    exact differs sameId.symm
  constructor
  · exact fun other inside => owned.closers other (inClose other inside)
  · exact fun first second one two => owned.alone _ _ (inClose _ one) (inClose _ two)
  · intro other waiting' serial' promise' now
    obtain ⟨promise, before⟩ := earlier _ _ _ _ now
    exact owned.fresh _ _ _ _ before
  · intro other remaining
    obtain ⟨serial_eq, waiting', issued', awaits'⟩ :=
      owned.pending other (List.mem_of_mem_erase remaining)
    exact ⟨serial_eq, waiting', issued',
      (waits _ _ _ _).mpr (.inr ⟨elsewhere other remaining, awaits'⟩)⟩
  · exact owned.distinct.sublist (List.erase_sublist.map _)
  · intro other waiting' serial' now
    rcases (waits _ _ _ _).mp now with ⟨_, _, _, isSet⟩ | ⟨differs, before⟩
    · cases isSet
    · rcases owned.registered _ _ _ before with handle | ⟨owner, listed, id_eq, data_eq⟩
      · exact .inl handle
      · refine .inr ⟨owner, (List.mem_erase_of_ne ?_).mpr listed, id_eq, data_eq⟩
        rintro rfl
        rw [data_eq] at differs
        exact differs rfl
  · intro other closer serial promise now
    obtain ⟨promise, before⟩ := earlier _ _ _ _ now
    exact owned.shutting _ _ _ _ before
  · intro other closer serial promise now
    rcases (waits _ _ _ _).mp now with ⟨_, isHandle, _⟩ | ⟨_, before⟩
    · exact absurd isHandle.symm (notHandle closer)
    · exact owned.handle _ _ _ _ before
  · intro closing
    refine ⟨(owned.closing closing).1, fun unclosed => ?_⟩
    obtain ⟨other, closer, serial, before⟩ := (owned.closing closing).2 unclosed
    refine ⟨other, closer, serial, (waits _ _ _ _).mpr (.inr ⟨?_, before⟩)⟩
    intro same
    rw [same, awaits] at before
    injection before with isHandle
    exact notHandle closer isHandle
  · exact owned.object
  · exact owned.watched
  · exact owned.sound

/-- The close callback answers the fiber that closed the handle. -/
theorem handleClosed {closer : Closer} {serial : Nat} (owned : Owned state)
    (closing : state.tcp.closing = true)
    (awaits : state.fiber fib = .wait (.closeHandle closer) serial .unset) :
    Owned ({ state with tcp := { state.tcp with closed := true } }.setFiber fib
      (.wait (.closeHandle closer) serial (.set (.ok ())))) := by
  have waits : ∀ other waiting' serial' promise',
      Function.update state.fiber fib (.wait (.closeHandle closer) serial (.set (.ok ()))) other =
          .wait waiting' serial' promise' ↔
        (other = fib ∧ waiting' = .closeHandle closer ∧ serial' = serial ∧
          promise' = .set (.ok ())) ∨
          (other ≠ fib ∧ state.fiber other = .wait waiting' serial' promise') :=
    fun _ _ _ _ => wait_iff
  have earlier : ∀ other waiting' serial' promise',
      Function.update state.fiber fib (.wait (.closeHandle closer) serial (.set (.ok ()))) other =
          .wait waiting' serial' promise' →
        ∃ promise, state.fiber other = .wait waiting' serial' promise :=
    fun _ _ _ promise' now => (wait_set_iff awaits).mp ⟨promise', now⟩
  have inClose : ∀ other,
      (Function.update state.fiber fib
        (.wait (.closeHandle closer) serial (.set (.ok ()))) other).InClose →
        (state.fiber other).InClose := by
    rintro other ⟨closer, serial, promise, shut | closing⟩
    · obtain ⟨promise, before⟩ := earlier _ _ _ _ shut
      exact ⟨closer, serial, promise, .inl before⟩
    · obtain ⟨promise, before⟩ := earlier _ _ _ _ closing
      exact ⟨closer, serial, promise, .inr before⟩
  have inside : (state.fiber fib).InClose := ⟨closer, serial, _, .inr awaits⟩
  constructor
  · exact fun other inside => owned.closers other (inClose other inside)
  · exact fun first second one two => owned.alone _ _ (inClose _ one) (inClose _ two)
  · intro other waiting' serial' promise' now
    obtain ⟨promise, before⟩ := earlier _ _ _ _ now
    exact owned.fresh _ _ _ _ before
  · intro request member
    obtain ⟨serial_eq, waiting', issued, before⟩ := owned.pending request member
    refine ⟨serial_eq, waiting', issued, (waits _ _ _ _).mpr (.inr ⟨?_, before⟩)⟩
    intro same
    rw [same, awaits] at before
    injection before with isHandle
    subst isHandle
    cases kind : request.kind <;> rw [kind] at issued <;> cases issued
  · exact owned.distinct
  · intro other waiting' serial' now
    rcases (waits _ _ _ _).mp now with ⟨_, _, _, isSet⟩ | ⟨_, before⟩
    · cases isSet
    · exact owned.registered _ _ _ before
  · intro other closer serial promise now
    obtain ⟨promise, before⟩ := earlier _ _ _ _ now
    exact owned.shutting _ _ _ _ before
  · intro other closer' serial' promise' now
    rcases (waits _ _ _ _).mp now with ⟨rfl, isHandle, rfl, rfl⟩ | ⟨differs, before⟩
    · exact ⟨closing, (owned.handle _ _ _ _ awaits).2.1, by simp⟩
    · exact absurd (owned.alone _ _ ⟨closer', serial', promise', .inr before⟩ inside) differs
  · exact fun _ => ⟨(owned.closing closing).1, fun unclosed => by cases unclosed⟩
  · intro live
    exact absurd (closing.symm.trans live) (by decide)
  · exact owned.watched
  · exact owned.sound

omit [DecidableEq Fib] in
theorem initial (memory : Memory UInt8) : Owned (initial memory : State Fib) := by
  constructor
  · rintro fib ⟨_, _, _, shut | closing⟩
    · cases shut
    · cases closing
  · rintro first second ⟨_, _, _, shut | closing⟩
    · cases shut
    · cases closing
  · rintro fib waiting serial promise ⟨⟩
  · intro request member
    cases member
  · exact List.nodup_nil
  · rintro fib waiting serial ⟨⟩
  · rintro fib closer serial promise ⟨⟩
  · rintro fib closer serial promise ⟨⟩
  · rintro ⟨⟩
  · exact fun _ => ⟨rfl, rfl⟩
  · rintro ⟨⟩
  · rfl

end Owned

/-! ## Every transition keeps the ownership -/

section Preservation

variable {state after entered : State Fib} {fib : Fib} {action : Action Fib}

theorem Fiber.waitRead_promiseless {fiber : Fiber} {notified : Bool} {call : ReadCall}
    (waits : fiber = .waitRead notified call) : fiber.Promiseless := by
  rintro waiting serial promise rfl
  cases waits

omit [DecidableEq Fib] in
theorem Fiber.set_settled {waiting : Waiting} {serial : Nat} {result : Except Exc Unit}
    (isSet : state.fiber fib = .wait waiting serial (.set result)) :
    (state.fiber fib).Settled := by
  intro _ _ unset
  rw [isSet] at unset
  cases unset

omit [DecidableEq Fib] in
theorem ReadEntry.settled {status : Int} {call : ReadCall}
    (entry : ReadEntry state fib action status call entered) :
    (entered.fiber fib).Settled := by
  cases entry with
  | start idle _ _ => exact (Fiber.idle_promiseless idle).settled
  | again woken _ _ _ _ _ => exact (Fiber.waitRead_promiseless woken).settled

omit [DecidableEq Fib] in
theorem ReadEntry.owned {status : Int} {call : ReadCall}
    (entry : ReadEntry state fib action status call entered)
    (owned : Owned state) : Owned entered := by
  cases entry with
  | start _ _ _ => exact owned.unaffected rfl rfl rfl rfl rfl rfl
  | again _ _ _ _ _ _ => exact owned.unaffected rfl rfl rfl rfl rfl rfl

omit [DecidableEq Fib] in
theorem CloseEntry.promiseless {status : Int} {closer : Closer}
    (entry : CloseEntry state fib action status closer entered) :
    (state.fiber fib).Promiseless := by
  cases entry with
  | user idle => exact Fiber.idle_promiseless idle
  | destructor idle => exact Fiber.idle_promiseless (idle fib)
  | eof woken _ _ => exact Fiber.waitRead_promiseless woken

omit [DecidableEq Fib] in
/-- What `close` starts from once it has set `closed_`. -/
theorem CloseEntry.marked {status : Int} {closer : Closer}
    (entry : CloseEntry state fib action status closer entered) (owned : Owned state) :
    Owned { entered.emit .uvShutdown with closed := true } ∧ entered.fiber = state.fiber ∧
      entered.tcp = state.tcp := by
  have entered_owned : Owned entered ∧ entered.fiber = state.fiber ∧ entered.tcp = state.tcp := by
    cases entry with
    | user _ => exact ⟨owned, rfl, rfl⟩
    | destructor _ => exact ⟨owned.unaffected rfl rfl rfl rfl rfl rfl, rfl, rfl⟩
    | eof _ _ _ => exact ⟨owned.unaffected rfl rfl rfl rfl rfl rfl, rfl, rfl⟩
  obtain ⟨kept, fibers, handle⟩ := entered_owned
  exact ⟨kept.mark.unaffected rfl rfl rfl rfl rfl rfl, fibers, handle⟩

theorem Owned.closeThrew {closer : Closer} {exc : Exc} (owned : Owned state)
    (settled : (state.fiber fib).Settled) : Owned (state.closeThrew fib closer exc) := by
  cases closer with
  | user =>
      have thrown : Owned (state.emit (.closeThrew exc)) :=
        owned.unaffected rfl rfl rfl rfl rfl rfl
      exact thrown.finish settled
  | eof call =>
      have thrown : Owned { state.emit (.closeThrew exc) with buf := 0, reading := false } :=
        owned.unaffected rfl rfl rfl rfl rfl rfl
      exact thrown.finish settled
  | destructor => exact owned.unaffected rfl rfl rfl rfl rfl rfl

omit [DecidableEq Fib] in
theorem Owned.notifyAll (owned : Owned state) : Owned state.notifyAll := by
  refine owned.congr ?_ rfl rfl rfl rfl owned.watched rfl rfl owned.sound
  intro other waiting serial promise
  rw [State.notifyAll_fiber, Fiber.notify_eq_wait_iff]

omit [DecidableEq Fib] in
/-- The fiber that closed the handle is about to leave `close`. -/
theorem Owned.closeReturns {closer : Closer} {serial : Nat} {result : Except Exc Unit}
    (owned : Owned state)
    (ran : state.fiber fib = .wait (.closeHandle closer) serial (.set result)) :
    Owned (state.notifyAll.emit .closeReturned) ∧
      ((state.notifyAll.emit .closeReturned).fiber fib).Settled := by
  refine ⟨owned.notifyAll.unaffected rfl rfl rfl rfl rfl rfl, ?_⟩
  intro waiting' serial'
  show (state.fiber fib).notify ≠ _
  rw [ran]
  rintro ⟨⟩

theorem Transition.owned (transition : Transition state action after) (owned : Owned state) :
    Owned after := by
  cases transition with
  | ends events unbound _ _ _ _ _ _ =>
      exact Owned.finish (owned.unaffected rfl rfl rfl rfl rfl rfl) unbound.settled
  | resolves idle _ =>
      exact Owned.register (owned.unaffected rfl rfl rfl rfl rfl rfl)
        (Fiber.idle_promiseless idle).settled rfl (by rintro closer ⟨⟩)
  | connects resolved =>
      exact Owned.register (owned.unaffected rfl rfl rfl rfl rfl rfl)
        (Fiber.set_settled resolved) rfl (by rintro closer ⟨⟩)
  | writes idle _ _ =>
      refine Owned.register ?_ (Fiber.idle_promiseless idle).settled rfl (by rintro closer ⟨⟩)
      exact owned.congr (fun _ _ _ _ => Iff.rfl) rfl rfl rfl rfl owned.watched rfl rfl
        owned.sound
  | admits entry isOpen _ _ =>
      refine Owned.leave ?_ entry.settled (by rintro _ _ _ ⟨⟩)
      have kept := entry.owned owned
      exact kept.congr (fun _ _ _ _ => Iff.rfl) rfl rfl rfl rfl (fun _ => kept.live isOpen)
        rfl rfl kept.sound
  | rejects entry _ _ _ =>
      refine Owned.finish ?_ entry.settled
      exact (entry.owned owned).unaffected rfl rfl rfl rfl rfl rfl
  | readsNull entry isOpen _ _ =>
      refine Owned.finish ?_ entry.settled
      have kept := entry.owned owned
      exact kept.congr (fun _ _ _ _ => Iff.rfl) rfl rfl rfl rfl (fun _ => kept.live isOpen)
        rfl rfl kept.sound
  | waitsAgain woken _ _ =>
      exact owned.leave (Fiber.waitRead_promiseless woken).settled (by rintro _ _ _ ⟨⟩)
  | readFails woken _ _ =>
      refine Owned.finish ?_ (Fiber.waitRead_promiseless woken).settled
      exact owned.unaffected rfl rfl rfl rfl rfl rfl
  | readReturns ends _ =>
      refine Owned.finish ?_ (Fiber.waitRead_promiseless ends.woken).settled
      exact owned.unaffected rfl rfl rfl rfl rfl rfl
  | readStops ends _ =>
      refine Owned.finish ?_ (Fiber.waitRead_promiseless ends.woken).settled
      exact owned.unaffected rfl rfl rfl rfl rfl rfl
  | shutsDown entry isOpen _ =>
      obtain ⟨marked, fibers, handle⟩ := entry.marked owned
      refine marked.register (fibers ▸ entry.promiseless.settled) rfl fun closer _ => ?_
      refine ⟨rfl, handle ▸ owned.live isOpen, fun other _ => ?_⟩
      exact fibers ▸ owned.noCloser isOpen other
  | closesAtOnce entry isOpen _ =>
      obtain ⟨marked, fibers, handle⟩ := entry.marked owned
      refine marked.closeHandle (fibers ▸ entry.promiseless.settled) rfl
        (handle ▸ owned.live isOpen) fun other _ => ?_
      exact fibers ▸ owned.noCloser isOpen other
  | closeFails entry _ _ _ =>
      obtain ⟨marked, fibers, _⟩ := entry.marked owned
      exact marked.closeThrew (fibers ▸ entry.promiseless.settled)
  | closes shut _ =>
      refine owned.closeHandle (Fiber.set_settled shut)
        (owned.closers _ ⟨_, _, _, .inl shut⟩) (owned.shutting _ _ _ _ shut) ?_
      intro other differs inside
      exact differs (owned.alone _ _ inside ⟨_, _, _, .inl shut⟩)
  | shutdownFails shut _ => exact owned.closeThrew (Fiber.set_settled shut)
  | closeReturnsToUser ran =>
      obtain ⟨kept, settled⟩ := owned.closeReturns ran
      exact kept.finish settled
  | closeReturnsToDestructor ran =>
      obtain ⟨kept, settled⟩ := owned.closeReturns ran
      exact Owned.finish (kept.unaffected rfl rfl rfl rfl rfl rfl) settled
  | closeReturnsToRead ran _ _ =>
      obtain ⟨kept, settled⟩ := owned.closeReturns ran
      exact Owned.finish (kept.unaffected rfl rfl rfl rfl rfl rfl) settled
  | closeStopsRead ran _ =>
      obtain ⟨kept, settled⟩ := owned.closeReturns ran
      exact Owned.finish (kept.unaffected rfl rfl rfl rfl rfl rfl) settled
  | destroysClosed idle _ =>
      exact Owned.finish (owned.unaffected rfl rfl rfl rfl rfl rfl)
        (Fiber.idle_promiseless (idle _)).settled
  | @completes _ status _ _ registered issued awaits =>
      have answered := owned.answer (checkUvStatus status)
        (List.mem_of_find?_eq_some registered) issued awaits
      exact answered.congr (fun _ _ _ _ => Iff.rfl) rfl rfl rfl rfl answered.watched rfl rfl
        answered.sound
  | delivers watching _ _ =>
      have silent : Owned state.notifyAll := owned.notifyAll
      refine silent.congr (fun _ _ _ _ => Iff.rfl) rfl rfl rfl rfl (by rintro ⟨⟩) rfl rfl ?_
      have data : state.tcp.data = .socket := (owned.object (owned.watched watching)).1
      simp [State.onReadFinished, State.notifyAll, State.emit, owned.sound, data]
  | handleCloses closing _ _ awaits =>
      exact (owned.handleClosed closing awaits).unaffected rfl rfl rfl rfl rfl rfl

end Preservation

/-! ## Reachable states -/

variable [Fintype Fib] {allowed : State Fib → Action Fib → Prop} {state : State Fib}

/-- In every reachable state libuv points only into suspended calls. -/
theorem reachable_owned (reachable : (machine Fib).Reachable allowed state) : Owned state := by
  apply reachable.invariant
  · rintro _ ⟨memory, rfl⟩
    exact Owned.initial memory
  · intro before action after owned _ stepped
    exact (step_transition owned stepped).owned owned

/-- The invariant rule of the socket: an invariant is kept by every
transition of an owned state. -/
theorem reachable_invariant {Invariant : State Fib → Prop}
    (reachable : (machine Fib).Reachable allowed state)
    (initially : ∀ memory, Invariant (initial memory))
    (preserved : ∀ before action after, Owned before → Invariant before →
      allowed before action → Transition before action after → Invariant after) :
    Invariant state := by
  apply reachable.invariant_under (fun _ => reachable_owned)
  · rintro _ ⟨memory, rfl⟩
    exact initially memory
  · intro before action after owned holds admitted stepped
    exact preserved before action after owned holds admitted (step_transition owned stepped)

end Fiberio.Socket
