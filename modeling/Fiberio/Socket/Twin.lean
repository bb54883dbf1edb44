import Fiberio.Socket.Span

/-!
Owns the twin of a socket: while a fiber is inside a read, the socket with
another read in its place, another buffer and another memory. As long as the
reader itself does not run, every step of a socket is a step of its twin.

Does not own which reads may stand in each other's place.
-/

namespace Fiberio.Socket

open Fiberio.Foundation

/-! ## Twins -/

/-- The wait, if it is for the close at the end of a read's stream, with
another read in that place. -/
def Waiting.withCall (call : ReadCall) : Waiting → Waiting
  | .shutdown (.eof _) => .shutdown (.eof call)
  | .closeHandle (.eof _) => .closeHandle (.eof call)
  | waiting => waiting

/-- The fiber with another read in the place of its own. -/
def Fiber.withCall (call : ReadCall) : Fiber → Fiber
  | .idle last => .idle last
  | .waitRead notified _ => .waitRead notified call
  | .wait waiting serial promise => .wait (waiting.withCall call) serial promise

theorem Fiber.withCall_notify (call : ReadCall) (fiber : Fiber) :
    (fiber.withCall call).notify = fiber.notify.withCall call := by
  cases fiber <;> rfl

variable {Fib : Type} [DecidableEq Fib]

/-- The same state with another read in the place of the fiber's own. -/
@[simps]
def State.twin (state : State Fib) (fib : Fib) (call : ReadCall) (buf : Nat)
    (memory : Memory UInt8) : State Fib :=
  { state with
    fiber := Function.update state.fiber fib ((state.fiber fib).withCall call)
    buf := buf
    memory := memory }

section Twin

variable (state : State Fib) {fib other : Fib} {call : ReadCall} {buf : Nat}
  {memory : Memory UInt8}

theorem twin_setFiber {value : Fiber} (differs : other ≠ fib) :
    (state.twin fib call buf memory).setFiber other value =
      (state.setFiber other value).twin fib call buf memory := by
  unfold State.twin State.setFiber
  simp only [Function.update_of_ne differs.symm]
  rw [Function.update_comm differs]

theorem twin_setFiber_self {value : Fiber} :
    (state.twin fib call buf memory).setFiber fib (value.withCall call) =
      (state.setFiber fib value).twin fib call buf memory := by
  unfold State.twin State.setFiber
  simp only [Function.update_self, Function.update_idem]

theorem twin_finish {operation : Operation} {outcome : Outcome} (differs : other ≠ fib) :
    (state.twin fib call buf memory).finish other operation outcome =
      (state.finish other operation outcome).twin fib call buf memory := by
  unfold State.finish
  rw [twin_setFiber state differs]
  rfl

theorem twin_register {kind : RequestKind} {waiting : Waiting} (differs : other ≠ fib) :
    (state.twin fib call buf memory).register other kind waiting =
      (state.register other kind waiting).twin fib call buf memory := by
  unfold State.register State.twin State.setFiber
  simp only [Function.update_of_ne differs.symm]
  rw [Function.update_comm differs]

theorem twin_notifyAll :
    (state.twin fib call buf memory).notifyAll = state.notifyAll.twin fib call buf memory := by
  have fibers : (fun one => ((state.twin fib call buf memory).fiber one).notify) =
      Function.update (fun one => (state.fiber one).notify) fib
        ((state.fiber fib).notify.withCall call) := by
    funext one
    by_cases same : one = fib
    · rw [same, State.twin_fiber, Function.update_self, Function.update_self,
        Fiber.withCall_notify]
    · rw [State.twin_fiber, Function.update_of_ne same, Function.update_of_ne same]
  unfold State.notifyAll
  rw [fibers]
  rfl

theorem twin_canCall (differs : other ≠ fib) :
    (state.twin fib call buf memory).canCall other = state.canCall other := by
  simp [State.canCall, differs]

/-! ## Steps of the others -/

variable {status : Int}

theorem twin_connect (differs : other ≠ fib) :
    (state.twin fib call buf memory).connect other status =
      (state.connect other status).twin fib call buf memory := by
  unfold State.connect
  rw [State.twin_closed]
  split
  · exact twin_finish state differs
  · cases checkUvStatus status with
    | error exc => exact twin_finish (state.emit _) differs
    | ok value => exact twin_register (state.emit _) differs

theorem twin_write {data : List UInt8} (differs : other ≠ fib) :
    (state.twin fib call buf memory).write other data status =
      (state.write other data status).twin fib call buf memory := by
  unfold State.write
  rw [State.twin_closed]
  split
  · exact twin_finish state differs
  · cases checkUvStatus status with
    | error exc => exact twin_finish (state.emit _) differs
    | ok value =>
        exact twin_register { state.emit .uvWrite with
          tcp := { state.tcp with writes := state.tcp.writes ++ [data] } } differs

theorem twin_closeHandle {closer : Closer} (differs : other ≠ fib) :
    (state.twin fib call buf memory).closeHandle other closer =
      (state.closeHandle other closer).twin fib call buf memory := by
  unfold State.closeHandle State.twin State.setFiber
  simp only [Function.update_of_ne differs.symm, State.emit_fiber]
  rw [Function.update_comm differs]
  rfl

/-- An exception leaves a `close` that no reader called. -/
theorem twin_closeThrew {closer : Closer} {exc : Exc} (differs : other ≠ fib)
    (plain : ∀ call, closer ≠ .eof call) :
    (state.twin fib call buf memory).closeThrew other closer exc =
      (state.closeThrew other closer exc).twin fib call buf memory := by
  cases closer with
  | user => exact twin_finish (state.emit _) differs
  | eof call => exact absurd rfl (plain call)
  | destructor => rfl

theorem twin_shutdownThrew {closer : Closer} {exc : Exc} (differs : other ≠ fib)
    (plain : ∀ call, closer ≠ .eof call) :
    (state.twin fib call buf memory).shutdownThrew other closer exc =
      (state.shutdownThrew other closer exc).twin fib call buf memory := by
  by_cases gone : exc = .socketClosedError
  · rw [gone]
    exact twin_closeHandle state differs
  · rw [shutdownThrew_of_ne gone, shutdownThrew_of_ne gone]
    exact twin_closeThrew state differs plain

theorem twin_userClose (differs : other ≠ fib) :
    (state.twin fib call buf memory).userClose other status =
      (state.userClose other status).twin fib call buf memory := by
  unfold State.userClose State.close
  rw [State.twin_closed]
  split
  · exact twin_finish state differs
  · cases checkUvStatus status with
    | error exc =>
        exact twin_shutdownThrew { state.emit .uvShutdown with closed := true } differs (by simp)
    | ok value => exact twin_register { state.emit .uvShutdown with closed := true } differs

/-- A read that starts while another one is under way is turned away. -/
theorem twin_startRead {request : ReadRequest} (differs : other ≠ fib)
    (busy : state.closed = true ∨ state.reading = true) :
    (state.twin fib call buf memory).startRead other request status =
      (state.startRead other request status).twin fib call buf memory := by
  unfold State.startRead
  simp only [State.twin_closed, State.twin_calls]
  split
  · exact twin_finish { state with calls := state.calls + 1 } differs
  · unfold State.read
    simp only [State.twin_reading]
    split
    · exact twin_finish { state with calls := state.calls + 1 } differs
    · rename_i call' _ isOpen
      rw [if_pos (busy.resolve_left isOpen), if_pos (busy.resolve_left isOpen)]
      exact twin_finish ({ state with calls := state.calls + 1 }.emit _) differs

theorem twin_resumeWith {waiting : Waiting} {result : Except Exc Unit} (differs : other ≠ fib)
    (plain : ∀ call, waiting ≠ .shutdown (.eof call) ∧ waiting ≠ .closeHandle (.eof call)) :
    (state.twin fib call buf memory).resumeWith other waiting result status =
      (state.resumeWith other waiting result status).twin fib call buf memory := by
  cases waiting with
  | getaddrinfo =>
      cases result with
      | error exc => exact twin_finish state differs
      | ok value =>
          unfold State.resumeWith State.connectResolved
          cases checkUvStatus status with
          | error exc => exact twin_finish (state.emit _) differs
          | ok value => exact twin_register (state.emit _) differs
  | connect => cases result <;> exact twin_finish state differs
  | write => cases result <;> exact twin_finish state differs
  | shutdown closer =>
      have plain : ∀ call, closer ≠ .eof call := by
        intro call isEof
        exact (plain call).1 (by rw [isEof])
      cases result with
      | error exc => exact twin_shutdownThrew state differs plain
      | ok value => exact twin_closeHandle state differs
  | closeHandle closer =>
      unfold State.resumeWith State.closeHandleDone
      rw [twin_notifyAll]
      cases closer with
      | user => exact twin_finish (state.notifyAll.emit _) differs
      | eof call => exact absurd rfl (plain call).2
      | destructor =>
          exact twin_finish { state.notifyAll.emit .closeReturned with life := .destroyed } differs

/-! ## Callbacks -/

theorem twin_resolve {ref : PromiseRef Fib} {result : Except Exc Unit} :
    (state.twin fib call buf memory).resolve ref result =
      (state.resolve ref result).twin fib call buf memory := by
  unfold State.resolve
  by_cases same : ref.fiber = fib
  · rw [same, State.twin_fiber, Function.update_self]
    cases state.fiber fib with
    | idle last => rfl
    | waitRead notified own => rfl
    | wait waiting serial promise =>
        cases promise with
        | set earlier => rfl
        | unset =>
            simp only [Fiber.withCall]
            split
            · exact @twin_setFiber_self _ _ state fib call buf memory
                (.wait waiting serial (.set result))
            · rfl
  · rw [State.twin_fiber, Function.update_of_ne same]
    split
    · split
      · exact twin_setFiber state same
      · rfl
    · rfl

theorem twin_complete {id : Nat} :
    (state.twin fib call buf memory).complete id status =
      (state.complete id status).map fun after => after.twin fib call buf memory := by
  unfold State.complete
  rw [State.twin_requests]
  cases state.requests.find? (fun request => request.id == id) with
  | none => rfl
  | some request =>
      simp only [Option.map_some, Option.some.injEq]
      exact twin_resolve { state.emit (.callback id status) with
        requests := state.requests.erase request
        tcp := { state.tcp with
          shut := state.tcp.shut ||
            (request.kind == RequestKind.shutdown && decide (0 ≤ status)) } }

theorem twin_onHandleClosed :
    (state.twin fib call buf memory).onHandleClosed =
      state.onHandleClosed.map fun after => after.twin fib call buf memory := by
  unfold State.onHandleClosed
  rw [State.twin_tcp, State.twin_requests]
  split
  · cases state.tcp.data with
    | promise ref =>
        simp only [Option.map_some, Option.some.injEq]
        exact twin_resolve { state.emit .onHandleClosed with
          tcp := { state.tcp with closed := true } }
    | socket => rfl
  · rfl

/-- The bytes go to the buffer of each. -/
theorem twin_readCallback {nread : Int} {bytes : List UInt8}
    (buffers : state.tcp.watching = true → (buf = 0 ↔ state.buf = 0)) :
    (state.twin fib call buf memory).readCallback nread bytes =
      (state.readCallback nread bytes).map fun after =>
        after.twin fib call 0 (memory.store buf bytes) := by
  by_cases watching : state.tcp.watching = true
  · have deliverable : (state.twin fib call buf memory).canDeliver nread bytes =
        state.canDeliver nread bytes := by
      unfold State.canDeliver State.allocCallback
      exact if_congr (or_congr (buffers watching) Iff.rfl) rfl rfl
    let stopped : State Fib := { (state.emit (.readCallback nread)).emit .uvReadStop with
      memory := state.memory.store state.buf bytes
      tcp := { state.tcp with watching := false, delivered := state.tcp.delivered ++ bytes }
      fault := state.fault || state.tcp.data != HandleData.socket }
    have finished : ∀ len : Int,
        (stopped.twin fib call buf (memory.store buf bytes)).onReadFinished len =
          (stopped.onReadFinished len).twin fib call 0 (memory.store buf bytes) := by
      intro len
      exact twin_notifyAll { stopped with buf := 0, len := len }
    unfold State.readCallback
    rw [deliverable, State.twin_tcp]
    split
    · simp only [State.allocCallback, State.twin_buf]
      split
      · exact congrArg some (finished nread)
      · split
        · exact congrArg some (finished errorEof)
        · exact congrArg some (finished errorReadFailed)
    · rfl
  · simp [State.readCallback, watching]

/-! ## Every step of the others -/

variable [Fintype Fib] {state} {action : Action Fib} {after : State Fib}

/-- As long as the reader itself does not run, a step of one socket is a step
of its twin. -/
theorem step_twin (inside : (state.fiber fib).isIdle = false)
    (busy : state.closed = true ∨ state.reading = true)
    (alone : ∀ other, other ≠ fib → (state.fiber other).activeRead = none)
    (buffers : state.tcp.watching = true → (buf = 0 ↔ state.buf = 0))
    (notOwn : ∀ status, action ≠ .resume fib status)
    (stepped : (machine Fib).step state action = some after) :
    ∃ buf' memory', (machine Fib).step (state.twin fib call buf memory) action =
      some (after.twin fib call buf' memory') := by
  obtain ⟨running, stepped⟩ := Option.ite_none_left_eq_some.mp stepped
  have other_of_canCall : ∀ other, state.canCall other = true → other ≠ fib := by
    intro other enabled same
    have idle := canCall_idle enabled
    rw [same, inside] at idle
    cases idle
  show ∃ buf' memory', State.step (state.twin fib call buf memory) action = _
  unfold State.step
  rw [State.twin_life, if_neg running]
  cases action with
  | connect other status =>
      obtain ⟨enabled, result⟩ := Option.ite_none_right_eq_some.mp stepped
      have differs := other_of_canCall other enabled
      cases result
      refine ⟨buf, memory, ?_⟩
      simp only [twin_canCall state differs, if_pos enabled, twin_connect state differs]
  | read other request status =>
      obtain ⟨enabled, result⟩ := Option.ite_none_right_eq_some.mp stepped
      have differs := other_of_canCall other (Bool.and_eq_true_iff.mp enabled).1
      cases result
      refine ⟨buf, memory, ?_⟩
      simp only [twin_canCall state differs, if_pos enabled, twin_startRead state differs busy]
  | write other data status =>
      obtain ⟨enabled, result⟩ := Option.ite_none_right_eq_some.mp stepped
      have differs := other_of_canCall other enabled
      cases result
      refine ⟨buf, memory, ?_⟩
      simp only [twin_canCall state differs, if_pos enabled, twin_write state differs]
  | close other status =>
      obtain ⟨enabled, result⟩ := Option.ite_none_right_eq_some.mp stepped
      have differs := other_of_canCall other enabled
      cases result
      refine ⟨buf, memory, ?_⟩
      simp only [twin_canCall state differs, if_pos enabled, twin_userClose state differs]
  | destroy other status =>
      obtain ⟨enabled, _⟩ := Option.ite_none_right_eq_some.mp stepped
      have idle := enabled.2 fib
      rw [inside] at idle
      cases idle
  | resume other status =>
      have differs : other ≠ fib := fun same => notOwn status (by rw [same])
      have outside := alone other differs
      refine ⟨buf, memory, ?_⟩
      simp only [State.resume, State.twin_fiber, Function.update_of_ne differs] at stepped ⊢
      cases isFiber : state.fiber other with
      | idle last => simp [isFiber] at stepped
      | waitRead notified own => simp [isFiber, Fiber.activeRead] at outside
      | wait waiting serial promise =>
          rw [isFiber] at stepped outside
          cases promise with
          | unset => simp at stepped
          | set result =>
              cases stepped
              simp only [Option.some.injEq]
              apply twin_resumeWith state differs
              intro call
              constructor
              · rintro rfl
                cases outside
              · rintro rfl
                cases outside
  | complete id status =>
      refine ⟨buf, memory, ?_⟩
      simp only [twin_complete]
      exact congrArg (Option.map _) stepped
  | readCallback nread bytes =>
      refine ⟨0, memory.store buf bytes, ?_⟩
      simp only [twin_readCallback state buffers]
      exact congrArg (Option.map _) stepped
  | onHandleClosed =>
      refine ⟨buf, memory, ?_⟩
      simp only [twin_onHandleClosed]
      exact congrArg (Option.map _) stepped

end Twin

end Fiberio.Socket
