import Mathlib.Tactic.Common
import Fiberio.Socket.Model

/-!
Owns the inversion of one step of the socket: `Transition` lists everything a
fiber can do between two suspension points, with the guards under which it
happens, and `step_transition` shows that nothing else does. Every invariant
of the socket is proved by cases on it.

Does not own any invariant.
-/

namespace Fiberio.Socket

open Fiberio.Foundation

variable {Fib : Type} [DecidableEq Fib]

/-! ## The states a transition ends in -/

namespace State

/-- The inner read is over and obtained `count` bytes. -/
@[simps!]
def leaveRead (state : State Fib) (call : ReadCall) (len : Int) (count : Nat) : State Fib :=
  { state with reading := false, len := len }.emit
    (.chunk call.id (state.memory.load call.buf count))

end State

/-! ## How a fiber comes to call `read` and `close` -/

/-- The fiber calls `socket_impl::read(call)` from the state `entered`: as the
first inner read of a public operation, or again in the loop of one. -/
inductive ReadEntry (state : State Fib) (fib : Fib) :
    Action Fib → Int → ReadCall → State Fib → Prop where
  | start {request : ReadRequest} {status : Int} {call : ReadCall}
      (idle : (state.fiber fib).isIdle = true) (buffer : request.hasBuffer = true)
      (first : request.first state.calls state.closed = .inr call) :
      ReadEntry state fib (.read fib request status) status call
        { state with calls := state.calls + 1 }
  | again {call : ReadCall} {status : Int}
      (woken : state.fiber fib = .waitRead true call) (finished : state.buf = 0)
      (isOpen : state.closed = false) (notEof : state.len ≠ errorEof)
      (notFailed : state.len ≠ errorReadFailed)
      (continues : call.continues (toSize state.len) false = true) :
      ReadEntry state fib (.resume fib status) status (call.next (toSize state.len))
        (state.leaveRead call state.len (toSize state.len))

/-- The fiber calls `close` on a socket that is not closed, from the state
`entered`. -/
inductive CloseEntry (state : State Fib) (fib : Fib) :
    Action Fib → Int → Closer → State Fib → Prop where
  | user {status : Int} (idle : (state.fiber fib).isIdle = true) :
      CloseEntry state fib (.close fib status) status .user state
  | destructor {status : Int} (idle : ∀ other, (state.fiber other).isIdle = true) :
      CloseEntry state fib (.destroy fib status) status .destructor
        { state with life := .destroying }
  | eof {status : Int} {call : ReadCall} (woken : state.fiber fib = .waitRead true call)
      (finished : state.buf = 0) (atEof : state.len = errorEof) :
      CloseEntry state fib (.resume fib status) status (.eof call)
        { state with reading := false }

/-- A woken reader that does not wait again and has not seen an error: `len`
is the value `read` is about to return. -/
structure ReadWoken (state : State Fib) (fib : Fib) (call : ReadCall) (len : Int) : Prop where
  woken : state.fiber fib = .waitRead true call
  finished : state.buf = 0 ∨ state.closed = true
  noError : state.len ≠ errorReadFailed
  eofClosed : state.len = errorEof → state.closed = true
  len_eq : len = if state.closed then 0 else state.len

/-! ## What one step can do -/

/-- The libuv calls that a quiet end of an operation may have made, with the
reason it could make them. -/
inductive QuietEvent (state : State Fib) (fib : Fib) (action : Action Fib) :
    Event Fib → Prop where
  | uvGetaddrinfo (isOpen : state.closed = false) : QuietEvent state fib action .uvGetaddrinfo
  | uvWrite (isOpen : state.closed = false) : QuietEvent state fib action .uvWrite
  | uvTcpConnect {serial : Nat} {status : Int} (resumed : action = .resume fib status)
      (resolved : state.fiber fib = .wait .getaddrinfo serial (.set (.ok ()))) :
      QuietEvent state fib action .uvTcpConnect
  | refused (isOpen : state.closed = false) (reading : state.reading = true) :
      QuietEvent state fib action (.refused state.calls)

/-- The fiber runs an operation that holds no handle and no buffer: it is
outside the library, or its request for `getaddrinfo`, `connect` or `write`
was answered. -/
def Fiber.Unbound (fiber : Fiber) : Prop :=
  fiber.isIdle = true ∨ ∃ waiting serial result, fiber = .wait waiting serial (.set result) ∧
    (waiting = .getaddrinfo ∨ waiting = .connect ∨ waiting = .write)

/-- The exceptions that leave an operation without any other effect. -/
inductive EndsThrow (state : State Fib) (fib : Fib) (action : Action Fib) :
    Operation → Exc → Prop where
  | closed {operation : Operation} (notClose : operation ≠ .close)
      (closed : state.closed = true) : EndsThrow state fib action operation .socketClosedError
  | refused : EndsThrow state fib action .read (.ioError (.text "concurrent read"))
  | tooLong {std : CppStd} {count : Nat} {exc : Exc} (refused : std.refuses count = some exc) :
      EndsThrow state fib action .read exc
  | connect {status : Int} {exc : Exc} (failed : checkUvStatus status = .error exc) :
      EndsThrow state fib action .connect exc.translate
  | connectAnswered {waiting : Waiting} {serial : Nat} {exc : Exc}
      (answered : state.fiber fib = .wait waiting serial (.set (.error exc))) :
      EndsThrow state fib action .connect exc.translate
  | write {data : List UInt8} {status : Int} {exc : Exc}
      (called : action = .write fib data status) (isOpen : state.closed = false)
      (failed : checkUvStatus status = .error exc) : EndsThrow state fib action .write exc
  | writeAnswered {serial : Nat} {exc : Exc}
      (answered : state.fiber fib = .wait .write serial (.set (.error exc))) :
      EndsThrow state fib action .write exc

/-- The action runs the fiber: into the library, or on from where it is
suspended. -/
def Runs (state : State Fib) (fib : Fib) (action : Action Fib) : Prop :=
  action.caller = some fib ∨
    ((state.fiber fib).isIdle = false ∧ ∃ status, action = .resume fib status)

/-- The waiting call is the one that issues requests of this kind. -/
def Waiting.issues : Waiting → RequestKind → Bool
  | .getaddrinfo, .getaddrinfo | .connect, .connect | .write, .write _
  | .shutdown _, .shutdown => true
  | _, _ => false

inductive Transition (state : State Fib) : Action Fib → State Fib → Prop where
  /-- An operation ends without having touched the state of the socket. -/
  | ends (events : List (Event Fib)) {fib : Fib} {action : Action Fib}
      {operation : Operation} {outcome : Outcome} {calls : Nat}
      (unbound : (state.fiber fib).Unbound)
      (counted : calls = state.calls ∨ calls = state.calls + 1)
      (refusal : ∀ id, .refused id ∈ events → calls = state.calls + 1)
      (quiet : ∀ event ∈ events, QuietEvent state fib action event)
      (empty : ∀ bytes, outcome = .returned bytes → bytes = [])
      (thrown : ∀ exc, outcome = .threw exc → EndsThrow state fib action operation exc)
      (runs : Runs state fib action) :
      Transition state action
        ({ state with calls := calls, log := state.log ++ events }.finish fib operation outcome)
  | resolves {fib : Fib} {status : Int} (idle : (state.fiber fib).isIdle = true)
      (isOpen : state.closed = false) :
      Transition state (.connect fib status)
        ((state.emit .uvGetaddrinfo).register fib .getaddrinfo .getaddrinfo)
  | connects {fib : Fib} {serial : Nat} {status : Int}
      (resolved : state.fiber fib = .wait .getaddrinfo serial (.set (.ok ()))) :
      Transition state (.resume fib status)
        ((state.emit .uvTcpConnect).register fib .connect .connect)
  | writes {fib : Fib} {data : List UInt8} {status : Int}
      (idle : (state.fiber fib).isIdle = true) (isOpen : state.closed = false)
      (accepted : 0 ≤ status) :
      Transition state (.write fib data status)
        ({ state.emit .uvWrite with
            tcp := { state.tcp with writes := state.tcp.writes ++ [data] } }.register fib
          (.write (state.tcp.writes.length + 1)) .write)
  | admits {fib : Fib} {action : Action Fib} {status : Int} {call : ReadCall}
      {entered : State Fib} (entry : ReadEntry state fib action status call entered)
      (isOpen : entered.closed = false)
      (free : entered.reading = false) (nonnull : call.buf ≠ 0) :
      Transition state action
        ((entered.beginRead call).watch.setFiber fib (.waitRead false call))
  | rejects {fib : Fib} {action : Action Fib} {status : Int} {call : ReadCall}
      {entered : State Fib} {exc : Exc} (entry : ReadEntry state fib action status call entered)
      (isOpen : entered.closed = false) (free : entered.reading = false)
      (failed : checkUvStatus status = .error exc) :
      Transition state action
        ({ entered.beginRead call with buf := 0, reading := false }.finish fib .read
          (.threw exc))
  | readsNull {fib : Fib} {action : Action Fib} {status : Int} {call : ReadCall}
      {entered : State Fib} (entry : ReadEntry state fib action status call entered)
      (isOpen : entered.closed = false)
      (free : entered.reading = false) (null : call.buf = 0) :
      Transition state action
        ({ (entered.beginRead call).watch with reading := false }.finishRead fib call
          (toSize (entered.beginRead call).watch.len))
  | waitsAgain {fib : Fib} {call : ReadCall} {status : Int}
      (woken : state.fiber fib = .waitRead true call) (unfinished : state.buf ≠ 0)
      (isOpen : state.closed = false) :
      Transition state (.resume fib status) (state.setFiber fib (.waitRead false call))
  | readFails {fib : Fib} {call : ReadCall} {status : Int}
      (woken : state.fiber fib = .waitRead true call)
      (finished : state.buf = 0 ∨ state.closed = true)
      (failed : state.len = errorReadFailed) :
      Transition state (.resume fib status)
        ({ state with reading := false, buf := 0 }.finish fib .read
          (.threw (.ioError (.text "read failed"))))
  | readReturns {fib : Fib} {call : ReadCall} {len : Int} {status : Int}
      (ends : ReadWoken state fib call len)
      (last : call.continues (toSize len) state.closed = false) :
      Transition state (.resume fib status)
        ((state.leaveRead call len (toSize len)).finishRead fib call (toSize len))
  /-- The loop of `read_exactly` meets a socket that was closed meanwhile. -/
  | readStops {fib : Fib} {call : ReadCall} {len : Int} {status : Int}
      (ends : ReadWoken state fib call len) (closed : state.closed = true) :
      Transition state (.resume fib status)
        ((state.leaveRead call len (toSize len)).finish fib .read (.threw .socketClosedError))
  | shutsDown {fib : Fib} {action : Action Fib} {status : Int} {closer : Closer}
      {entered : State Fib} (entry : CloseEntry state fib action status closer entered)
      (isOpen : state.closed = false) (accepted : 0 ≤ status) :
      Transition state action
        ({ entered.emit .uvShutdown with closed := true }.register fib .shutdown
          (.shutdown closer))
  | closesAtOnce {fib : Fib} {action : Action Fib} {status : Int} {closer : Closer}
      {entered : State Fib} (entry : CloseEntry state fib action status closer entered)
      (isOpen : state.closed = false) (gone : Disconnected status) :
      Transition state action
        ({ entered.emit .uvShutdown with closed := true }.closeHandle fib closer)
  | closeFails {fib : Fib} {action : Action Fib} {status : Int} {closer : Closer}
      {entered : State Fib} {exc : Exc}
      (entry : CloseEntry state fib action status closer entered)
      (isOpen : state.closed = false) (failed : checkUvStatus status = .error exc)
      (notGone : exc ≠ .socketClosedError) :
      Transition state action
        ({ entered.emit .uvShutdown with closed := true }.closeThrew fib closer exc)
  | closes {fib : Fib} {closer : Closer} {serial : Nat} {result : Except Exc Unit}
      {status : Int} (shut : state.fiber fib = .wait (.shutdown closer) serial (.set result))
      (survived : result = .ok () ∨ result = .error .socketClosedError) :
      Transition state (.resume fib status) (state.closeHandle fib closer)
  | shutdownFails {fib : Fib} {closer : Closer} {serial : Nat} {exc : Exc} {status : Int}
      (shut : state.fiber fib = .wait (.shutdown closer) serial (.set (.error exc)))
      (notGone : exc ≠ .socketClosedError) :
      Transition state (.resume fib status) (state.closeThrew fib closer exc)
  | closeReturnsToUser {fib : Fib} {serial : Nat} {result : Except Exc Unit} {status : Int}
      (ran : state.fiber fib = .wait (.closeHandle .user) serial (.set result)) :
      Transition state (.resume fib status)
        ((state.notifyAll.emit .closeReturned).finish fib .close (.returned []))
  | closeReturnsToDestructor {fib : Fib} {serial : Nat} {result : Except Exc Unit}
      {status : Int}
      (ran : state.fiber fib = .wait (.closeHandle .destructor) serial (.set result)) :
      Transition state (.resume fib status)
        ({ state.notifyAll.emit .closeReturned with life := .destroyed }.finish fib .destroy
          (.returned []))
  /-- The socket is closed, so the read that met the EOF returns zero. -/
  | closeReturnsToRead {fib : Fib} {call : ReadCall} {serial : Nat}
      {result : Except Exc Unit} {status : Int}
      (ran : state.fiber fib = .wait (.closeHandle (.eof call)) serial (.set result))
      (closed : state.closed = true) (last : call.continues 0 true = false) :
      Transition state (.resume fib status)
        (({ state.notifyAll.emit .closeReturned with len := 0 }.emit
          (.chunk call.id [])).finishRead fib call 0)
  | closeStopsRead {fib : Fib} {call : ReadCall} {serial : Nat}
      {result : Except Exc Unit} {status : Int}
      (ran : state.fiber fib = .wait (.closeHandle (.eof call)) serial (.set result))
      (closed : state.closed = true) :
      Transition state (.resume fib status)
        (({ state.notifyAll.emit .closeReturned with len := 0 }.emit
          (.chunk call.id [])).finish fib .read (.threw .socketClosedError))
  | destroysClosed {fib : Fib} {status : Int}
      (idle : ∀ other, (state.fiber other).isIdle = true) (closed : state.closed = true) :
      Transition state (.destroy fib status)
        ({ state with life := .destroyed }.finish fib .destroy (.returned []))
  | completes {id : Nat} {status : Int} {request : Request Fib} {waiting : Waiting}
      (registered : state.requests.find? (fun request => request.id == id) = some request)
      (issued : waiting.issues request.kind = true)
      (awaits : state.fiber request.data.fiber = .wait waiting request.id .unset) :
      Transition state (.complete id status)
        ({ state.emit (.callback id status) with
            requests := state.requests.erase request
            tcp := { state.tcp with
              shut := state.tcp.shut ||
                (request.kind == RequestKind.shutdown && decide (0 ≤ status)) } }.setFiber
          request.data.fiber (.wait waiting request.id (.set (checkUvStatus status))))
  | delivers {nread : Int} {bytes : List UInt8} {len : Int}
      (watching : state.tcp.watching = true) (deliverable : state.canDeliver nread bytes = true)
      (code : (0 ≤ nread ∧ len = nread) ∨ (nread = uvEof ∧ len = errorEof) ∨
        (nread < 0 ∧ nread ≠ uvEof ∧ len = errorReadFailed)) :
      Transition state (.readCallback nread bytes)
        ({ (state.emit (.readCallback nread)).emit .uvReadStop with
            memory := state.memory.store state.allocCallback.1 bytes
            tcp := { state.tcp with
              watching := false, delivered := state.tcp.delivered ++ bytes }
            fault := state.fault || state.tcp.data != HandleData.socket }.onReadFinished len)
  | handleCloses {fib : Fib} {closer : Closer} {serial : Nat}
      (closing : state.tcp.closing = true) (pending : state.tcp.closed = false)
      (answered : ∀ request ∈ state.requests, request.kind = .getaddrinfo)
      (awaits : state.fiber fib = .wait (.closeHandle closer) serial .unset) :
      Transition state .onHandleClosed
        ({ state.emit .onHandleClosed with tcp := { state.tcp with closed := true } }.setFiber
          fib (.wait (.closeHandle closer) serial (.set (.ok ()))))

/-! ## Who owns what libuv points to -/

/-- The fiber is inside `close`. -/
def Fiber.InClose (fiber : Fiber) : Prop :=
  ∃ closer serial promise, fiber = .wait (.shutdown closer) serial promise ∨
    fiber = .wait (.closeHandle closer) serial promise

/-- Every pointer that libuv holds leads to a call that is suspended on it.
Requests and promises live on fiber stacks, so a step is only meaningful in
a state like this. -/
structure Owned (state : State Fib) : Prop where
  closers : ∀ fib, (state.fiber fib).InClose → state.closed = true
  alone : ∀ first second, (state.fiber first).InClose → (state.fiber second).InClose →
    first = second
  fresh : ∀ fib waiting serial promise, state.fiber fib = .wait waiting serial promise →
    serial < state.serials
  pending : ∀ request ∈ state.requests, request.data.serial = request.id ∧
    ∃ waiting, waiting.issues request.kind = true ∧
      state.fiber request.data.fiber = .wait waiting request.id .unset
  distinct : (state.requests.map Request.id).Nodup
  registered : ∀ fib waiting serial, state.fiber fib = .wait waiting serial .unset →
    (∃ closer, waiting = .closeHandle closer) ∨
      ∃ request ∈ state.requests, request.id = serial ∧ request.data = ⟨fib, serial⟩
  shutting : ∀ fib closer serial promise,
    state.fiber fib = .wait (.shutdown closer) serial promise → state.tcp.closing = false
  handle : ∀ fib closer serial promise,
    state.fiber fib = .wait (.closeHandle closer) serial promise →
      state.tcp.closing = true ∧ state.tcp.data = .promise ⟨fib, serial⟩ ∧
        (state.tcp.closed = true ↔ promise ≠ .unset)
  closing : state.tcp.closing = true → state.closed = true ∧
    (state.tcp.closed = false →
      ∃ fib closer serial, state.fiber fib = .wait (.closeHandle closer) serial .unset)
  object : state.tcp.closing = false → state.tcp.data = .socket ∧ state.tcp.closed = false
  watched : state.tcp.watching = true → state.tcp.closing = false
  sound : state.fault = false

/-! ## Nothing else happens -/

section Inversion

variable {state : State Fib} {fib : Fib}

omit [DecidableEq Fib] in
theorem canCall_idle (enabled : state.canCall fib = true) :
    (state.fiber fib).isIdle = true := by
  simp only [State.canCall, Bool.and_eq_true] at enabled
  exact enabled.2

/-- An operation that ends without any libuv call. -/
theorem ends_silently {action : Action Fib} {operation : Operation} {outcome : Outcome}
    (unbound : (state.fiber fib).Unbound)
    (empty : ∀ bytes, outcome = .returned bytes → bytes = [])
    (thrown : ∀ exc, outcome = .threw exc → EndsThrow state fib action operation exc)
    (runs : Runs state fib action) :
    Transition state action (state.finish fib operation outcome) := by
  have quiet : Transition state action
      ({ state with calls := state.calls, log := state.log ++ [] }.finish fib operation
        outcome) := .ends [] unbound (.inl rfl) (by simp) (by simp) empty thrown runs
  simpa using quiet

theorem connect_transition {status : Int} (idle : (state.fiber fib).isIdle = true) :
    Transition state (.connect fib status) (state.connect fib status) := by
  unfold State.connect
  split
  · rename_i closed
    exact ends_silently (.inl idle) (by simp)
      (by rintro _ ⟨⟩; exact .closed (by simp) closed) (.inl rfl)
  · rename_i isOpen
    have isOpen : state.closed = false := by simpa using isOpen
    split
    · rename_i failed
      exact .ends [.uvGetaddrinfo] (.inl idle) (.inl rfl) (by simp)
        (by simpa using .uvGetaddrinfo isOpen) (by simp) (by rintro _ ⟨⟩; exact .connect failed)
        (.inl rfl)
    · exact .resolves idle isOpen

theorem write_transition {data : List UInt8} {status : Int}
    (idle : (state.fiber fib).isIdle = true) :
    Transition state (.write fib data status) (state.write fib data status) := by
  unfold State.write
  split
  · rename_i closed
    exact ends_silently (.inl idle) (by simp)
      (by rintro _ ⟨⟩; exact .closed (by simp) closed) (.inl rfl)
  · rename_i isOpen
    have isOpen : state.closed = false := by simpa using isOpen
    split
    · rename_i failed
      exact .ends [.uvWrite] (.inl idle) (.inl rfl) (by simp)
        (by simpa using .uvWrite isOpen) (by simp)
        (by rintro _ ⟨⟩; exact .write rfl isOpen failed) (.inl rfl)
    · rename_i passed
      exact .writes idle isOpen (checkUvStatus_eq_ok_iff.mp passed)

/-- `read` on an open socket with no read in progress. -/
theorem read_transition {action : Action Fib} {status : Int} {call : ReadCall}
    {entered : State Fib} (entry : ReadEntry state fib action status call entered)
    (isOpen : entered.closed = false) (free : entered.reading = false) :
    Transition state action (entered.read fib call status) := by
  unfold State.read
  rw [if_neg (by simp [isOpen]), if_neg (by simp [free])]
  simp only
  split
  · rename_i failed
    exact .rejects entry isOpen free failed
  · split
    · rename_i nonnull
      exact .admits entry isOpen free nonnull
    · rename_i null
      exact .readsNull entry isOpen free (by simpa using null)

theorem startRead_transition {request : ReadRequest} {status : Int}
    (idle : (state.fiber fib).isIdle = true) (buffer : request.hasBuffer = true) :
    Transition state (.read fib request status) (state.startRead fib request status) := by
  unfold State.startRead
  simp only
  split
  · rename_i outcome first
    have empty : ∀ bytes, outcome = .returned bytes → bytes = [] := by
      rintro bytes rfl
      cases request <;> simp only [ReadRequest.first] at first <;> grind
    have thrown : ∀ exc, outcome = .threw exc →
        EndsThrow state fib (.read fib request status) .read exc := by
      rintro exc rfl
      obtain ⟨std, count, refused⟩ := ReadRequest.first_threw first
      exact .tooLong refused
    have quiet : Transition state (.read fib request status)
        ({ state with calls := state.calls + 1, log := state.log ++ [] }.finish fib .read
          outcome) := .ends [] (.inl idle) (.inr rfl) (by simp) (by simp) empty thrown
          (.inl rfl)
    simpa using quiet
  · rename_i call first
    by_cases closed : state.closed = true
    · rw [State.read, if_pos closed]
      have quiet : Transition state (.read fib request status)
          ({ state with calls := state.calls + 1, log := state.log ++ [] }.finish fib .read
            (.threw .socketClosedError)) :=
        .ends [] (.inl idle) (.inr rfl) (by simp) (by simp) (by simp)
          (by rintro _ ⟨⟩; exact .closed (by simp) closed) (.inl rfl)
      simpa using quiet
    · have isOpen : state.closed = false := by simpa using closed
      by_cases busy : state.reading = true
      · have fresh : call.id = state.calls := by
          cases request <;> simp only [ReadRequest.first] at first <;> grind
        rw [State.read, if_neg closed, if_pos busy, fresh]
        exact .ends [.refused state.calls] (.inl idle) (.inr rfl) (by simp)
          (by simpa using .refused isOpen busy) (by simp) (by rintro _ ⟨⟩; exact .refused)
          (.inl rfl)
      · exact read_transition (.start idle buffer first) isOpen (by simpa using busy)

/-- `close` on a socket that is not closed. -/
theorem close_transition {action : Action Fib} {status : Int} {closer : Closer}
    {entered : State Fib} (entry : CloseEntry state fib action status closer entered)
    (isOpen : state.closed = false) :
    Transition state action (entered.close fib closer status) := by
  unfold State.close
  simp only
  split
  · rename_i exc thrown
    unfold State.shutdownThrew
    split
    · exact .closesAtOnce entry isOpen (checkUvStatus_socketClosed_iff.mp thrown)
    · rename_i notClosed
      exact .closeFails entry isOpen thrown notClosed
  · rename_i passed
    exact .shutsDown entry isOpen (checkUvStatus_eq_ok_iff.mp passed)

theorem readEnd_transition {call : ReadCall} {len : Int} {status : Int}
    (ends : ReadWoken state fib call len) :
    Transition state (.resume fib status)
      ({ state with reading := false }.readEnd fib call status) := by
  have value : len = if state.closed then 0 else state.len := ends.len_eq
  unfold State.readEnd State.readReturned
  by_cases closed : state.closed = true
  · simp only [closed, if_true] at value ⊢
    subst value
    split
    · rw [State.read, if_pos (by simp [State.emit])]
      have stops : Transition state (.resume fib status) _ := .readStops ends closed
      simpa [State.leaveRead, closed] using stops
    · rename_i last
      have returns : Transition state (.resume fib status) _ :=
        .readReturns ends (by simpa [closed] using last)
      simpa [State.leaveRead, closed] using returns
  · have isOpen : state.closed = false := by simpa using closed
    simp only [isOpen, Bool.false_eq_true, if_false] at value ⊢
    subst value
    split
    · rename_i continues
      have finished : state.buf = 0 := by simpa [isOpen] using ends.finished
      have notEof : state.len ≠ errorEof := fun atEof => closed (ends.eofClosed atEof)
      have again : ReadEntry state fib (.resume fib status) status _ _ :=
        .again ends.woken finished isOpen notEof ends.noError continues
      simpa [State.leaveRead, isOpen] using read_transition again isOpen rfl
    · rename_i last
      have returns : Transition state (.resume fib status) _ :=
        .readReturns ends (by simpa [isOpen] using last)
      simpa [State.leaveRead, isOpen] using returns

theorem readWoken_transition {call : ReadCall} {status : Int}
    (woken : state.fiber fib = .waitRead true call) :
    Transition state (.resume fib status) (state.readWoken fib call status) := by
  unfold State.readWoken
  split
  · rename_i waits
    simp only [ne_eq, Bool.and_eq_true, decide_eq_true_eq, Bool.not_eq_true'] at waits
    exact .waitsAgain woken waits.1 waits.2
  · rename_i waits
    have finished : state.buf = 0 ∨ state.closed = true := by
      by_contra neither
      push Not at neither
      exact waits (by simp [neither.1, neither.2])
    simp only
    split
    · rename_i atEof
      have noError : state.len ≠ errorReadFailed := by
        rw [atEof]
        decide
      split
      · rename_i closed
        exact readEnd_transition ⟨woken, .inr closed, noError, fun _ => closed, rfl⟩
      · rename_i isOpen
        have isOpen : state.closed = false := by simpa using isOpen
        have finished : state.buf = 0 := by simpa [isOpen] using finished
        exact close_transition (.eof woken finished atEof) isOpen
    · rename_i notEof
      split
      · rename_i failed
        exact .readFails woken finished failed
      · rename_i noError
        exact readEnd_transition ⟨woken, finished, noError, fun atEof => absurd atEof notEof, rfl⟩

theorem shutdownDone_transition {closer : Closer} {serial : Nat} {result : Except Exc Unit}
    {status : Int}
    (shut : state.fiber fib = .wait (.shutdown closer) serial (.set result)) :
    Transition state (.resume fib status) (state.shutdownDone fib closer result) := by
  unfold State.shutdownDone
  split
  · rename_i exc
    unfold State.shutdownThrew
    split
    · exact .closes shut (.inr rfl)
    · rename_i notClosed
      exact .shutdownFails shut notClosed
  · exact .closes shut (.inl rfl)

theorem closeHandleDone_transition {closer : Closer} {serial : Nat}
    {result : Except Exc Unit} {status : Int}
    (ran : state.fiber fib = .wait (.closeHandle closer) serial (.set result))
    (closed : state.closed = true) :
    Transition state (.resume fib status) (state.closeHandleDone fib closer status) := by
  unfold State.closeHandleDone
  simp only
  split
  · exact .closeReturnsToUser ran
  · rename_i call
    unfold State.readEnd State.readReturned
    have stillClosed : (state.notifyAll.emit .closeReturned).closed = true := closed
    have none : toSize 0 = 0 := by decide
    simp only [stillClosed, if_true, none, Memory.load_zero]
    split
    · rw [State.read, if_pos (by simp [State.emit])]
      have stops : Transition state (.resume fib status) _ := .closeStopsRead ran closed
      simpa [closed] using stops
    · rename_i last
      have returns : Transition state (.resume fib status) _ :=
        .closeReturnsToRead ran closed (by simpa using last)
      simpa [closed] using returns
  · exact .closeReturnsToDestructor ran

theorem resume_transition {status : Int} {after : State Fib} (owned : Owned state)
    (stepped : state.resume fib status = some after) :
    Transition state (.resume fib status) after := by
  unfold State.resume at stepped
  split at stepped
  · rename_i call woken
    cases stepped
    exact readWoken_transition woken
  · rename_i waiting serial result awaited
    cases stepped
    unfold State.resumeWith
    have runs : Runs state fib (.resume fib status) := by
      refine .inr ⟨?_, status, rfl⟩
      rw [awaited]
      rfl
    cases waiting with
    | getaddrinfo =>
        have unbound : (state.fiber fib).Unbound := .inr ⟨_, _, _, awaited, .inl rfl⟩
        simp only [State.connectResolved]
        split
        · exact ends_silently unbound (by simp)
            (by rintro _ ⟨⟩; exact .connectAnswered awaited) runs
        · split
          · rename_i failed
            exact .ends [.uvTcpConnect] unbound (.inl rfl) (by simp)
              (by simpa using .uvTcpConnect rfl awaited) (by simp)
              (by rintro _ ⟨⟩; exact .connect failed) runs
          · exact .connects awaited
    | connect =>
        have unbound : (state.fiber fib).Unbound := .inr ⟨_, _, _, awaited, .inr (.inl rfl)⟩
        simp only [State.connectDone]
        split
        · exact ends_silently unbound (by simp)
            (by rintro _ ⟨⟩; exact .connectAnswered awaited) runs
        · exact ends_silently unbound (by simp) (by simp) runs
    | write =>
        have unbound : (state.fiber fib).Unbound := .inr ⟨_, _, _, awaited, .inr (.inr rfl)⟩
        simp only [State.writeDone]
        split
        · exact ends_silently unbound (by simp)
            (by rintro _ ⟨⟩; exact .writeAnswered awaited) runs
        · exact ends_silently unbound (by simp) (by simp) runs
    | shutdown closer => exact shutdownDone_transition awaited
    | closeHandle closer =>
        exact closeHandleDone_transition awaited
          (owned.closers fib ⟨closer, serial, _, .inr awaited⟩)
  · cases stepped

/-- The promise behind a pointer is there and unset. -/
theorem resolve_eq {ref : PromiseRef Fib} {waiting : Waiting} {result : Except Exc Unit}
    (awaits : state.fiber ref.fiber = .wait waiting ref.serial .unset) :
    state.resolve ref result =
      state.setFiber ref.fiber (.wait waiting ref.serial (.set result)) := by
  unfold State.resolve
  rw [awaits]
  simp

theorem complete_transition {id : Nat} {status : Int} {after : State Fib}
    (owned : Owned state) (stepped : state.complete id status = some after) :
    Transition state (.complete id status) after := by
  unfold State.complete at stepped
  split at stepped
  · cases stepped
  · rename_i request registered
    cases stepped
    obtain ⟨serial_eq, waiting, issued, awaits⟩ :=
      owned.pending request (List.mem_of_find?_eq_some registered)
    rw [resolve_eq (by rw [serial_eq]; exact awaits), serial_eq]
    exact .completes registered issued awaits

theorem readCallback_transition {nread : Int} {bytes : List UInt8} {after : State Fib}
    (stepped : state.readCallback nread bytes = some after) :
    Transition state (.readCallback nread bytes) after := by
  unfold State.readCallback at stepped
  split at stepped
  · rename_i enabled
    simp only [Bool.and_eq_true] at enabled
    simp only at stepped
    split at stepped
    · cases stepped
      exact .delivers enabled.1 enabled.2 (.inl ⟨‹_›, rfl⟩)
    · rename_i negative
      split at stepped
      · cases stepped
        exact .delivers enabled.1 enabled.2 (.inr (.inl ⟨‹_›, rfl⟩))
      · cases stepped
        exact .delivers enabled.1 enabled.2 (.inr (.inr ⟨by omega, ‹_›, rfl⟩))
  · cases stepped

theorem onHandleClosed_transition {after : State Fib} (owned : Owned state)
    (stepped : state.onHandleClosed = some after) :
    Transition state .onHandleClosed after := by
  unfold State.onHandleClosed at stepped
  split at stepped
  · rename_i enabled
    simp only [Bool.and_eq_true, Bool.not_eq_true', List.all_eq_true, beq_iff_eq] at enabled
    obtain ⟨⟨closing, pending⟩, answered⟩ := enabled
    obtain ⟨fib, closer, serial, awaits⟩ := (owned.closing closing).2 pending
    have data : state.tcp.data = .promise ⟨fib, serial⟩ := (owned.handle _ _ _ _ awaits).2.1
    split at stepped
    · rename_i ref points
      cases data.symm.trans points
      cases stepped
      rw [resolve_eq awaits]
      exact .handleCloses closing pending answered awaits
    · rename_i points
      cases data.symm.trans points
  · cases stepped

end Inversion

/-- Every step is one of the listed transitions. -/
theorem step_transition [Fintype Fib] {before after : State Fib} {action : Action Fib}
    (owned : Owned before) (stepped : (machine Fib).step before action = some after) :
    Transition before action after := by
  have stepped : before.step action = some after := stepped
  obtain ⟨_, stepped⟩ := Option.ite_none_left_eq_some.mp stepped
  cases action with
  | connect fib status =>
      obtain ⟨enabled, result⟩ := Option.ite_none_right_eq_some.mp stepped
      cases result
      exact connect_transition (canCall_idle enabled)
  | read fib request status =>
      obtain ⟨enabled, result⟩ := Option.ite_none_right_eq_some.mp stepped
      cases result
      rw [Bool.and_eq_true] at enabled
      exact startRead_transition (canCall_idle enabled.1) enabled.2
  | write fib data status =>
      obtain ⟨enabled, result⟩ := Option.ite_none_right_eq_some.mp stepped
      cases result
      exact write_transition (canCall_idle enabled)
  | close fib status =>
      obtain ⟨enabled, result⟩ := Option.ite_none_right_eq_some.mp stepped
      cases result
      unfold State.userClose
      split
      · exact ends_silently (.inl (canCall_idle enabled)) (by simp) (by simp) (.inl rfl)
      · rename_i isOpen
        exact close_transition (.user (canCall_idle enabled)) (by simpa using isOpen)
  | destroy fib status =>
      obtain ⟨enabled, result⟩ := Option.ite_none_right_eq_some.mp stepped
      cases result
      unfold State.destroy
      split
      · rename_i closed
        exact .destroysClosed enabled.2 closed
      · rename_i isOpen
        exact close_transition (.destructor enabled.2) (by simpa using isOpen)
  | resume fib status => exact resume_transition owned stepped
  | complete id status => exact complete_transition owned stepped
  | readCallback nread bytes => exact readCallback_transition stepped
  | onHandleClosed => exact onHandleClosed_transition owned stepped

end Fiberio.Socket
