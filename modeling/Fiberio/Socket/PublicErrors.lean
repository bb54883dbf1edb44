import Fiberio.Socket.Answers

/-!
Owns the exceptions that leave the operations of a socket. `connect`
translates what `check_uv_status` throws; the other operations let it through,
so the class of their exceptions depends on the statuses they meet.

Does not own the exceptions of a server socket.
-/

namespace Fiberio.Socket

open Fiberio.Foundation

variable {Fib : Type}

/-! ## The statuses that decide -/

/-- The wait ends in an exception that leaves the operation as it is. -/
def Waiting.exposed : Waiting → Bool
  | .write | .shutdown .user | .shutdown (.eof _) => true
  | .getaddrinfo | .connect | .shutdown .destructor | .closeHandle _ => false

def Fiber.exposed : Fiber → Bool
  | .wait waiting _ _ => waiting.exposed
  | _ => false

/-- The woken reader goes on to a call of libuv: `uv_shutdown` when it has seen
an EOF, or `uv_read_start` when its caller reads again. -/
def State.readsOn (state : State Fib) (fib : Fib) : Bool :=
  match state.fiber fib with
  | .waitRead true call =>
      decide (state.buf = 0) && !state.closed &&
        (decide (state.len = errorEof) || (decide (state.len ≠ errorReadFailed) &&
          call.continues (toSize state.len) state.closed))
  | _ => false

/-- Every status that reaches `read`, `write` or `close`, returned by the
libuv call or reported to the callback, stands for a public exception or for
none. What reaches `connect` does not matter, and a closed socket calls
nothing; nor does a read beside another one, or one that has nothing to read. -/
def MeetsPublicStatus (state : State Fib) : Action Fib → Prop
  | .read _ request status => state.closed = false → state.reading = false →
      (request.first state.calls state.closed).isRight = true → PublicStatus status
  | .write _ _ status | .close _ status => state.closed = false → PublicStatus status
  | .resume fib status => state.readsOn fib = true → PublicStatus status
  | .complete id status => ∀ request ∈ state.requests, request.id = id →
      (state.fiber request.data.fiber).exposed = true → PublicStatus status
  | .connect _ _ | .destroy _ _ | .readCallback _ _ | .onHandleClosed => True

instance decidableMeetsPublicStatus (state : State Fib) :
    (action : Action Fib) → Decidable (MeetsPublicStatus state action)
  | .read _ request status => inferInstanceAs (Decidable
      (state.closed = false → state.reading = false →
        (request.first state.calls state.closed).isRight = true → PublicStatus status))
  | .write _ _ status | .close _ status =>
      inferInstanceAs (Decidable (state.closed = false → PublicStatus status))
  | .resume fib status =>
      inferInstanceAs (Decidable (state.readsOn fib = true → PublicStatus status))
  | .complete id status => inferInstanceAs (Decidable (∀ request ∈ state.requests,
      request.id = id → (state.fiber request.data.fiber).exposed = true → PublicStatus status))
  | .connect _ _ | .destroy _ _ | .readCallback _ _ | .onHandleClosed => .isTrue trivial

/-! ## Where an exception comes from -/

/-- Why an exception leaves an operation in this step. -/
inductive Thrown (state : State Fib) (fib : Fib) (action : Action Fib) :
    Operation → Exc → Prop where
  | ends {operation : Operation} {exc : Exc}
      (ends : EndsThrow state fib action operation exc) : Thrown state fib action operation exc
  | rejected {status : Int} {call : ReadCall} {entered : State Fib} {exc : Exc}
      (entry : ReadEntry state fib action status call entered)
      (isOpen : entered.closed = false) (free : entered.reading = false)
      (failed : checkUvStatus status = .error exc) : Thrown state fib action .read exc
  | readFailed : Thrown state fib action .read (.ioError (.text "read failed"))
  | readStopped : Thrown state fib action .read .socketClosedError
  | closeFailed {status : Int} {closer : Closer} {entered : State Fib} {operation : Operation}
      {exc : Exc} (entry : CloseEntry state fib action status closer entered)
      (isOpen : state.closed = false) (exposed : closer ≠ .destructor)
      (failed : checkUvStatus status = .error exc) :
      Thrown state fib action operation exc
  | shutdownFailed {closer : Closer} {serial : Nat} {operation : Operation} {exc : Exc}
      (shut : state.fiber fib = .wait (.shutdown closer) serial (.set (.error exc)))
      (exposed : closer ≠ .destructor) : Thrown state fib action operation exc

section Inversion

variable [DecidableEq Fib] {state after entered : State Fib} {fib other : Fib}
  {action : Action Fib} {operation : Operation} {exc : Exc}

/-- A fiber ends an operation: an exception in the log is an old one or the
one of this end. -/
theorem thrown_of_finish {ended : Operation} {outcome : Outcome}
    (member : .finished other operation (.threw exc) ∈ (state.finish fib ended outcome).log) :
    .finished other operation (.threw exc) ∈ state.log ∨
      other = fib ∧ operation = ended ∧ outcome = .threw exc := by
  rw [State.finish_log, List.mem_append, List.mem_singleton] at member
  rcases member with old | new
  · exact .inl old
  · injection new with sameFiber sameOperation sameOutcome
    exact .inr ⟨sameFiber, sameOperation, sameOutcome.symm⟩

theorem thrown_of_closeThrew {closer : Closer} {raised : Exc}
    (member : .finished other operation (.threw exc) ∈ (state.closeThrew fib closer raised).log) :
    .finished other operation (.threw exc) ∈ state.log ∨
      other = fib ∧ exc = raised ∧ closer ≠ .destructor := by
  cases closer with
  | user | eof _ =>
      rcases thrown_of_finish member with old | ⟨sameFiber, _, same⟩
      · exact .inl (by simpa using old)
      · injection same with same
        exact .inr ⟨sameFiber, same.symm, by simp⟩
  | destructor => exact .inl (by simpa [State.closeThrew] using member)

omit [DecidableEq Fib] in
theorem ReadEntry.thrown {status : Int} {call : ReadCall}
    (entry : ReadEntry state fib action status call entered)
    (member : .finished other operation (.threw exc) ∈ entered.log) :
    .finished other operation (.threw exc) ∈ state.log := by
  cases entry with
  | start _ _ _ => exact member
  | again _ _ _ _ _ _ => simpa [State.leaveRead] using member

omit [DecidableEq Fib] in
theorem CloseEntry.thrown {status : Int} {closer : Closer}
    (entry : CloseEntry state fib action status closer entered)
    (member : .finished other operation (.threw exc) ∈ (entered.emit .uvShutdown).log) :
    .finished other operation (.threw exc) ∈ state.log := by
  cases entry <;> simpa using member

/-- Every exception in the log was there before, or is thrown in this step. -/
theorem Transition.thrown (transition : Transition state action after)
    (member : .finished fib operation (.threw exc) ∈ after.log) :
    .finished fib operation (.threw exc) ∈ state.log ∨
      Thrown state fib action operation exc := by
  cases transition with
  | ends events _ _ _ quiet _ thrown _ =>
      rcases thrown_of_finish member with old | ⟨rfl, rfl, rfl⟩
      · rcases List.mem_append.mp old with old | new
        · exact .inl old
        · have impossible := quiet _ new
          cases impossible
      · exact .inr (.ends (thrown exc rfl))
  | resolves _ _ => exact .inl (by simpa using member)
  | connects _ => exact .inl (by simpa using member)
  | writes _ _ _ => exact .inl (by simpa using member)
  | admits entry _ _ _ => exact .inl (entry.thrown (by simpa using member))
  | rejects entry isOpen free failed =>
      rcases thrown_of_finish member with old | ⟨rfl, rfl, same⟩
      · exact .inl (entry.thrown (by simpa using old))
      · injection same with same
        exact .inr (.rejected entry isOpen free (same ▸ failed))
  | readsNull entry _ _ _ =>
      rcases thrown_of_finish member with old | ⟨_, _, same⟩
      · exact .inl (entry.thrown (by simpa using old))
      · cases same
  | waitsAgain _ _ _ => exact .inl member
  | readFails _ _ _ =>
      rcases thrown_of_finish member with old | ⟨_, rfl, same⟩
      · exact .inl old
      · cases same
        exact .inr .readFailed
  | readReturns _ _ =>
      rcases thrown_of_finish member with old | ⟨_, _, same⟩
      · exact .inl (by simpa using old)
      · cases same
  | readStops _ _ =>
      rcases thrown_of_finish member with old | ⟨_, rfl, same⟩
      · exact .inl (by simpa using old)
      · cases same
        exact .inr .readStopped
  | shutsDown entry _ _ => exact .inl (entry.thrown member)
  | closesAtOnce entry _ _ => exact .inl (entry.thrown (by simpa using member))
  | closeFails entry isOpen failed _ =>
      rcases thrown_of_closeThrew member with old | ⟨rfl, rfl, exposed⟩
      · exact .inl (entry.thrown old)
      · exact .inr (.closeFailed entry isOpen exposed failed)
  | closes _ _ => exact .inl (by simpa using member)
  | shutdownFails shut _ =>
      rcases thrown_of_closeThrew member with old | ⟨rfl, rfl, exposed⟩
      · exact .inl old
      · exact .inr (.shutdownFailed shut exposed)
  | closeReturnsToUser _ =>
      rcases thrown_of_finish member with old | ⟨_, _, same⟩
      · exact .inl (by simpa using old)
      · cases same
  | closeReturnsToDestructor _ =>
      rcases thrown_of_finish member with old | ⟨_, _, same⟩
      · exact .inl (by simpa using old)
      · cases same
  | closeReturnsToRead _ _ _ =>
      rcases thrown_of_finish member with old | ⟨_, _, same⟩
      · exact .inl (by simpa using old)
      · cases same
  | closeStopsRead _ _ =>
      rcases thrown_of_finish member with old | ⟨_, rfl, same⟩
      · exact .inl (by simpa using old)
      · cases same
        exact .inr .readStopped
  | destroysClosed _ _ =>
      rcases thrown_of_finish member with old | ⟨_, _, same⟩
      · exact .inl old
      · cases same
  | completes _ _ _ => exact .inl (by simpa using member)
  | delivers _ _ _ => exact .inl (by simpa using member)
  | handleCloses _ _ _ _ => exact .inl (by simpa using member)

end Inversion

/-! ## Public exceptions only -/

/-- Every exception that has left an operation because of a status or of the
closed socket is public. A buffer that is too long for its container is
refused for neither reason. -/
def EscapesPublic (state : State Fib) : Prop :=
  ∀ fib operation exc, .finished fib operation (.threw exc) ∈ state.log →
    exc.isIoError = true ∨ operation = .read ∧ exc.isContainerError = true

/-- No private exception has escaped, and none waits in a promise to do so. -/
structure Public (state : State Fib) : Prop where
  escaped : EscapesPublic state
  promised : ∀ fib waiting serial exc,
    state.fiber fib = .wait waiting serial (.set (.error exc)) → waiting.exposed = true →
      exc.isIoError = true

theorem Public.initial (memory : Memory UInt8) : Public (initial memory : State Fib) := by
  constructor
  · intro fib operation exc member
    cases member
  · intro fib waiting serial exc isSet
    cases isSet

section Preservation

variable {state after : State Fib} {fib : Fib} {action : Action Fib} {operation : Operation}
  {exc : Exc}

/-- An exception in a promise comes from `check_uv_status`. -/
theorem Accounted.judged {waiting : Waiting} {serial : Nat} (accounted : Accounted state)
    (isSet : state.fiber fib = .wait waiting serial (.set (.error exc))) :
    ∃ status, checkUvStatus status = .error exc := by
  cases waiting with
  | closeHandle closer =>
      have ok := accounted.ended fib _ serial _ rfl (Fiber.promise_eq_set_iff.mpr isSet)
      cases ok
  | getaddrinfo | connect | write | shutdown _ =>
      obtain ⟨status, _, judged⟩ := accounted.ledger.own serial _
        ⟨fib, _, rfl, Fiber.promise_eq_set_iff.mpr isSet⟩
      exact ⟨status, judged.symm⟩

theorem EndsThrow.isPublic (ends : EndsThrow state fib action operation exc)
    (accounted : Accounted state) (isPublic : Public state)
    (meets : MeetsPublicStatus state action) :
    exc.isIoError = true ∨ operation = .read ∧ exc.isContainerError = true := by
  cases ends with
  | closed _ _ => exact .inl rfl
  | refused => exact .inl rfl
  | tooLong refused => exact .inr ⟨rfl, CppStd.refuses_isContainerError refused⟩
  | connect failed => exact .inl (checkUvStatus_translate failed)
  | connectAnswered answered =>
      obtain ⟨_, failed⟩ := accounted.judged answered
      exact .inl (checkUvStatus_translate failed)
  | write called isOpen failed =>
      rw [called] at meets
      exact .inl ((checkUvStatus_isIoError_iff failed).mpr (meets isOpen))
  | writeAnswered answered => exact .inl (isPublic.promised _ _ _ _ answered rfl)

/-- The status of `uv_read_start` is one of those that decide. -/
theorem ReadEntry.meets {status : Int} {call : ReadCall} {entered : State Fib}
    (entry : ReadEntry state fib action status call entered) (isOpen : entered.closed = false)
    (free : entered.reading = false) (meets : MeetsPublicStatus state action) :
    PublicStatus status := by
  cases entry with
  | start _ _ first => exact meets isOpen free (by rw [first]; rfl)
  | again woken finished stillOpen _ notFailed continues =>
      apply meets
      simp [State.readsOn, woken, finished, stillOpen, notFailed, continues]

/-- So is the status of `uv_shutdown`, unless the destructor called it. -/
theorem CloseEntry.meets {status : Int} {closer : Closer} {entered : State Fib}
    (entry : CloseEntry state fib action status closer entered) (isOpen : state.closed = false)
    (exposed : closer ≠ .destructor) (meets : MeetsPublicStatus state action) :
    PublicStatus status := by
  cases entry with
  | user _ => exact meets isOpen
  | destructor _ => exact absurd rfl exposed
  | eof woken finished atEof =>
      apply meets
      simp [State.readsOn, woken, finished, isOpen, atEof]

theorem Thrown.isPublic (thrown : Thrown state fib action operation exc)
    (accounted : Accounted state) (isPublic : Public state)
    (meets : MeetsPublicStatus state action) :
    exc.isIoError = true ∨ operation = .read ∧ exc.isContainerError = true := by
  cases thrown with
  | ends ends => exact ends.isPublic accounted isPublic meets
  | rejected entry isOpen free failed =>
      exact .inl ((checkUvStatus_isIoError_iff failed).mpr (entry.meets isOpen free meets))
  | readFailed => exact .inl rfl
  | readStopped => exact .inl rfl
  | closeFailed entry isOpen exposed failed =>
      exact .inl ((checkUvStatus_isIoError_iff failed).mpr (entry.meets isOpen exposed meets))
  | @shutdownFailed closer _ _ _ shut exposed =>
      apply Or.inl
      apply isPublic.promised _ _ _ _ shut
      cases closer with
      | user | eof _ => rfl
      | destructor => exact absurd rfl exposed

variable [DecidableEq Fib]

/-- A private exception enters a promise by the callback of an exposed wait,
whose status is one of those that decide. -/
theorem Transition.promised (transition : Transition state action after) (owned : Owned state)
    (isPublic : Public state) (meets : MeetsPublicStatus state action) {waiting : Waiting}
    {serial : Nat} (isSet : after.fiber fib = .wait waiting serial (.set (.error exc)))
    (exposed : waiting.exposed = true) : exc.isIoError = true := by
  rcases (transition.resolution owned).resolved (Fiber.promise_eq_set_iff.mpr isSet) with
    held | ⟨status, asked, registered, awaits, _, failed⟩ | ⟨_, impossible⟩
  · exact isPublic.promised _ _ _ _ (Fiber.promise_eq_set_iff.mp held) exposed
  · obtain ⟨request, member, listed⟩ := List.mem_map.mp registered
    have sameFiber : request.data.fiber = fib := congrArg Prod.snd listed
    rw [Action.answered_eq_some_iff.mp asked] at meets
    apply (checkUvStatus_isIoError_iff failed.symm).mpr
    apply meets request member (congrArg Prod.fst listed)
    rw [sameFiber, Fiber.promise_eq_unset_iff.mp awaits]
    exact exposed
  · cases impossible

theorem Transition.isPublic (transition : Transition state action after) (owned : Owned state)
    (accounted : Accounted state) (isPublic : Public state)
    (meets : MeetsPublicStatus state action) : Public after := by
  constructor
  · intro fib operation exc member
    rcases transition.thrown member with old | thrown
    · exact isPublic.escaped fib operation exc old
    · exact thrown.isPublic accounted isPublic meets
  · intro fib waiting serial exc isSet exposed
    exact transition.promised owned isPublic meets isSet exposed

end Preservation

theorem reachable_public [DecidableEq Fib] [Fintype Fib] {state : State Fib}
    (reachable : (machine Fib).Reachable MeetsPublicStatus state) : Public state := by
  have both : Accounted state ∧ Public state := by
    apply reachable_invariant reachable
    · exact fun memory => ⟨Accounted.initial memory, Public.initial memory⟩
    · intro before action after owned invariant meets transition
      exact ⟨(transition.resolution owned).accounted invariant.1,
        transition.isPublic owned invariant.1 invariant.2 meets⟩
  exact both.2

end Fiberio.Socket
