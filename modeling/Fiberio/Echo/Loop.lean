import Fiberio.Echo.Model

/-!
Owns the loop of the echo server's fiber as a state machine: in which phase
its socket is at each point of the lambda, and what it has read, written and
still holds in its buffer there. The phases cover every run, with any status
from libuv; what only a run without errors promises is guarded by `calm`.

Does not own the network.
-/

namespace Fiberio.Echo

open Fiberio.Foundation
open Fiberio.Connection.Direction
open Fiberio.Socket (ReadCall Waiting PromiseState errorEof errorReadFailed toSize)

/-! ## What the socket holds in each phase -/

/-- Everything that was received is queued for the client again. -/
def Echoed (socket : Socket.State Unit) : Prop := queuedBy socket = socket.tcp.delivered

/-- Between two calls on an open socket. -/
structure Ready (socket : Socket.State Unit) : Prop where
  isOpen : socket.closed = false
  free : socket.reading = false
  echoed : Echoed socket

/-- The client's stream has ended, and the socket was closed for it. -/
structure Over (socket : Socket.State Unit) : Prop where
  echoed : Echoed socket
  seen : .readCallback uvEof ∈ socket.log
  closing : socket.tcp.closing = true

/-- The bytes that a callback has put into the buffer of a woken reader. -/
def arrived (buf : Nat) (notified : Bool) (socket : Socket.State Unit) : List UInt8 :=
  if notified = true ∧ 0 ≤ socket.len then socket.memory.load buf (toSize socket.len) else []

/-- The fiber waits in `client.read`. -/
structure Reads (calm : Prop) (buf : Nat) (notified : Bool) (call : ReadCall)
    (socket : Socket.State Unit) : Prop where
  caller : call.caller = .read
  place : call.buf = buf
  isOpen : socket.closed = false
  received : socket.tcp.delivered = queuedBy socket ++ arrived buf notified socket
  seen : notified = true → socket.len = errorEof → .readCallback uvEof ∈ socket.log
  sound : calm → notified = true → socket.len ≠ errorReadFailed

/-- The fiber waits in the `close` that `client.read` calls at the end of the
stream. -/
structure Ends (calm : Prop) (waiting : Waiting) (promise : PromiseState)
    (socket : Socket.State Unit) : Prop where
  inRead : ∃ call : ReadCall, call.caller = .read ∧
    (waiting = .shutdown (.eof call) ∨ waiting = .closeHandle (.eof call))
  echoed : Echoed socket
  seen : .readCallback uvEof ∈ socket.log
  answered : ∀ exc, promise = .set (.error exc) → ¬ calm

/-- `client.read` has returned, with `bytes` in the buffer. -/
structure Obtains (buf : Nat) (bytes : List UInt8) (socket : Socket.State Unit) : Prop where
  free : socket.reading = false
  received : socket.tcp.delivered = queuedBy socket ++ bytes
  inBuffer : socket.memory.load buf bytes.length = bytes
  ended : socket.closed = true → bytes = [] ∧ .readCallback uvEof ∈ socket.log ∧
    socket.tcp.closing = true

/-- The lambda leaves with an exception. -/
structure Leaves (calm : Prop) (exc : Exc) (socket : Socket.State Unit) : Prop where
  echoes : queuedBy socket <+: socket.tcp.delivered
  calmly : calm → exc = .socketClosedError ∧ Over socket

inductive Phase (calm : Prop) (buf : Nat) (socket : Socket.State Unit) : Pc → Prop where
  | testing {last : Option Socket.Outcome} (idle : socket.fiber () = .idle last)
      (ready : Ready socket) : Phase calm buf socket .testing
  | reading {notified : Bool} {call : ReadCall} (waits : socket.fiber () = .waitRead notified call)
      (reads : Reads calm buf notified call socket) : Phase calm buf socket .reading
  | ending {waiting : Waiting} {serial : Nat} {promise : PromiseState}
      (waits : socket.fiber () = .wait waiting serial promise)
      (ends : Ends calm waiting promise socket) : Phase calm buf socket .reading
  | obtained {bytes : List UInt8} (idle : socket.fiber () = .idle (some (.returned bytes)))
      (obtains : Obtains buf bytes socket) : Phase calm buf socket .reading
  | failed {exc : Exc} (idle : socket.fiber () = .idle (some (.threw exc)))
      (disturbed : ¬ calm) (echoed : Echoed socket) : Phase calm buf socket .reading
  | writing {serial : Nat} {promise : PromiseState}
      (waits : socket.fiber () = .wait .write serial promise) (ready : Ready socket)
      (answered : ∀ exc, promise = .set (.error exc) → ¬ calm) : Phase calm buf socket .writing
  | written {bytes : List UInt8} (idle : socket.fiber () = .idle (some (.returned bytes)))
      (ready : Ready socket) : Phase calm buf socket .writing
  | refused {exc : Exc} (idle : socket.fiber () = .idle (some (.threw exc)))
      (leaves : Leaves calm exc socket) : Phase calm buf socket .writing
  | leaving {last : Option Socket.Outcome} {exc : Exc} (idle : socket.fiber () = .idle last)
      (leaves : Leaves calm exc socket) : Phase calm buf socket (.leaving (some exc))
  | finished {exc : Exc} (leaves : Leaves calm exc socket) :
      Phase calm buf socket (.finished (some exc))

variable {calm : Prop} {buf : Nat} {socket after : Socket.State Unit} {pc : Pc}
  {action : Socket.Action Unit}

/-- The lambda is still running. -/
def Pc.Runs (pc : Pc) : Prop := ∀ exc, pc ≠ .finished exc

namespace Phase

/-! ## What the fiber's state tells about the phase -/

theorem of_waitRead {notified : Bool} {call : ReadCall} (phase : Phase calm buf socket pc)
    (runs : pc.Runs) (waits : socket.fiber () = .waitRead notified call) :
    pc = .reading ∧ Reads calm buf notified call socket := by
  cases phase with
  | reading waits' reads =>
      rw [waits] at waits'
      cases waits'
      exact ⟨rfl, reads⟩
  | finished _ => exact absurd rfl (runs _)
  | testing here | ending here | obtained here | failed here | writing here | written here
  | refused here | leaving here =>
      rw [waits] at here
      cases here

theorem of_wait {waiting : Waiting} {serial : Nat} {promise : PromiseState}
    (phase : Phase calm buf socket pc) (runs : pc.Runs)
    (waits : socket.fiber () = .wait waiting serial promise) :
    (pc = .reading ∧ Ends calm waiting promise socket) ∨
      (pc = .writing ∧ waiting = .write ∧ Ready socket ∧
        ∀ exc, promise = .set (.error exc) → ¬ calm) := by
  cases phase with
  | ending waits' ends =>
      rw [waits] at waits'
      cases waits'
      exact .inl ⟨rfl, ends⟩
  | writing waits' ready answered =>
      rw [waits] at waits'
      cases waits'
      exact .inr ⟨rfl, rfl, ready, answered⟩
  | finished _ => exact absurd rfl (runs _)
  | testing here | reading here | obtained here | failed here | written here | refused here
  | leaving here =>
      rw [waits] at here
      cases here

/-- What was queued was received before, in every phase. -/
theorem echoes (phase : Phase calm buf socket pc) : queuedBy socket <+: socket.tcp.delivered := by
  have whole : Echoed socket → queuedBy socket <+: socket.tcp.delivered := by
    intro echoed
    rw [echoed]
  cases phase with
  | testing _ ready => exact whole ready.echoed
  | reading _ reads =>
      rw [reads.received]
      exact List.prefix_append _ _
  | ending _ ends => exact whole ends.echoed
  | obtained _ obtains =>
      rw [obtains.received]
      exact List.prefix_append _ _
  | failed _ _ echoed => exact whole echoed
  | writing _ ready _ => exact whole ready.echoed
  | written _ ready => exact whole ready.echoed
  | refused _ leaves => exact leaves.echoes
  | leaving _ leaves => exact leaves.echoes
  | finished leaves => exact leaves.echoes

end Phase

/-! ## Frames -/

theorem queuedBy_eq (transition : Socket.Transition socket action after)
    (noWrite : ∀ fib data status, action ≠ .write fib data status) :
    queuedBy after = queuedBy socket := by
  rcases transition.writes_cases with same | ⟨_, _, _, wrote, _, _⟩
  · rw [queuedBy, same, queuedBy]
  · exact absurd wrote (noWrite _ _ _)

theorem logged (transition : Socket.Transition socket action after) (owned : Socket.Owned socket)
    {event : Socket.Event Unit} (earlier : event ∈ socket.log) : event ∈ after.log := by
  obtain ⟨events, appends⟩ := transition.appends owned
  rw [appends.log]
  exact List.mem_append_left _ earlier

/-- A closed handle delivers no more. -/
theorem Over.kept (isOver : Over socket) (transition : Socket.Transition socket action after)
    (owned : Socket.Owned socket) (noWrite : ∀ fib data status, action ≠ .write fib data status) :
    Over after := by
  obtain ⟨events, appends⟩ := transition.appends owned
  refine ⟨?_, logged transition owned isOver.seen, ?_⟩
  · unfold Echoed
    rw [queuedBy_eq transition noWrite, isOver.echoed]
    rcases transition.delivered with same | ⟨_, _, _, watching, _⟩
    · exact same.symm
    · exact absurd ((owned.watched watching).symm.trans isOver.closing) (by decide)
  · rw [appends.closing, isOver.closing, Bool.true_or]

theorem Leaves.kept {exc : Exc} (leaves : Leaves calm exc socket)
    (transition : Socket.Transition socket action after) (owned : Socket.Owned socket)
    (noWrite : ∀ fib data status, action ≠ .write fib data status) : Leaves calm exc after := by
  constructor
  · rw [queuedBy_eq transition noWrite]
    rcases transition.delivered with same | ⟨_, bytes, _, _, _, grows⟩
    · rw [same]
      exact leaves.echoes
    · rw [grows]
      exact leaves.echoes.trans (List.prefix_append _ _)
  · intro isCalm
    obtain ⟨thrown, isOver⟩ := leaves.calmly isCalm
    exact ⟨thrown, isOver.kept transition owned noWrite⟩

/-! ## Resumptions -/

theorem resume_step {status : Int}
    (stepped : (Socket.machine Unit).step socket (.resume () status) = some after) :
    socket.resume () status = some after := by
  obtain ⟨_, stepped⟩ := Option.ite_none_left_eq_some.mp stepped
  exact stepped

/-- The request of the write was answered. -/
theorem resume_write {serial : Nat} {result : Except Exc Unit} {status : Int}
    (waits : socket.fiber () = .wait .write serial (.set result))
    (stepped : (Socket.machine Unit).step socket (.resume () status) = some after) :
    after = socket.writeDone () result := by
  have stepped := resume_step stepped
  rw [Socket.State.resume, waits] at stepped
  cases stepped
  rfl

/-- The close at the end of the stream is over, and `read` returns zero. -/
theorem resume_ended {call : ReadCall} {serial : Nat} {result : Except Exc Unit} {status : Int}
    (waits : socket.fiber () = .wait (.closeHandle (.eof call)) serial (.set result))
    (caller : call.caller = .read) (closed : socket.closed = true)
    (stepped : (Socket.machine Unit).step socket (.resume () status) = some after) :
    after = ({ socket.notifyAll.emit .closeReturned with len := 0 }.emit
      (.chunk call.id [])).finish () .read (.returned []) := by
  have stepped := resume_step stepped
  rw [Socket.State.resume, waits] at stepped
  cases stepped
  have stillClosed : (socket.notifyAll.emit .closeReturned).closed = true := closed
  simp only [Socket.State.resumeWith, Socket.State.closeHandleDone, Socket.State.readEnd,
    Socket.State.readReturned, stillClosed, if_true, ReadCall.continues, caller,
    Socket.State.finishRead, ReadCall.result]
  rfl

/-! ## The fiber inside its calls -/

namespace Phase

/-- `client.write` comes back. -/
theorem afterWrite {result : Except Exc Unit} (ready : Ready socket)
    (answered : ∀ exc, PromiseState.set result = .set (.error exc) → ¬ calm) :
    Phase calm buf (socket.writeDone () result) .writing := by
  cases result with
  | ok value =>
      have idle : (socket.writeDone () (.ok value)).fiber () = .idle (some (.returned [])) := rfl
      exact .written idle ⟨ready.isOpen, ready.free, ready.echoed⟩
  | error exc =>
      have idle : (socket.writeDone () (.error exc)).fiber () = .idle (some (.threw exc)) := rfl
      refine .refused idle ⟨?_, fun isCalm => absurd isCalm (answered exc rfl)⟩
      show queuedBy socket <+: socket.tcp.delivered
      rw [ready.echoed]

/-- `client.read` comes back with bytes. -/
theorem afterRead {call : ReadCall} {len : Int} (reads : Reads calm buf true call socket)
    (owns : Socket.ReaderOwns socket) (ends : Socket.ReadWoken socket () call len) :
    Phase calm buf
      ((socket.leaveRead call len (toSize len)).finishRead () call (toSize len)) .reading := by
  have notEof : socket.len ≠ errorEof := by
    intro atEof
    exact absurd (reads.isOpen.symm.trans (ends.eofClosed atEof)) (by decide)
  have len_eq : len = socket.len := by
    rw [ends.len_eq, reads.isOpen]
    rfl
  have count := (owns.count ends.woken reads.isOpen notEof ends.noError).1
  have result : call.result socket.memory (toSize len) =
      socket.memory.load buf (toSize socket.len) := by
    rw [ReadCall.result, reads.caller, reads.place, len_eq]
  have idle : ((socket.leaveRead call len (toSize len)).finishRead () call (toSize len)).fiber () =
      .idle (some (.returned (socket.memory.load buf (toSize socket.len)))) := by
    rw [← result]
    rfl
  refine .obtained idle ⟨rfl, ?_, ?_, fun closed => ?_⟩
  · show socket.tcp.delivered = queuedBy socket ++ _
    rw [reads.received, arrived, if_pos ⟨rfl, count⟩]
  · rw [Memory.load_length]
    rfl
  · exact absurd (reads.isOpen.symm.trans closed) (by decide)

/-- A woken reader that found no bytes has none in its buffer. -/
theorem echoed_of_negative {notified : Bool} {call : ReadCall}
    (reads : Reads calm buf notified call socket) (negative : socket.len < 0) :
    Echoed socket := by
  have received := reads.received
  rw [arrived, if_neg (by omega), List.append_nil] at received
  exact received.symm

/-- The read callback wakes the reader and fills its buffer. -/
theorem afterCallback {nread len : Int} {bytes : List UInt8} {call : ReadCall}
    (reads : Reads calm buf false call socket) (owns : Socket.ReaderOwns socket)
    (waits : socket.fiber () = .waitRead false call)
    (deliverable : socket.canDeliver nread bytes = true)
    (code : (0 ≤ nread ∧ len = nread) ∨ (nread = uvEof ∧ len = errorEof) ∨
      (nread < 0 ∧ nread ≠ uvEof ∧ len = errorReadFailed))
    (succeeds : calm → 0 ≤ nread ∨ nread = uvEof)
    (delivered : after.tcp.delivered = socket.tcp.delivered ++ bytes)
    (queue : queuedBy after = queuedBy socket) (len_eq : after.len = len)
    (memory : after.memory = socket.memory.store socket.allocCallback.1 bytes)
    (closed : after.closed = socket.closed) (seen : .readCallback nread ∈ after.log) :
    Reads calm buf true call after := by
  obtain ⟨place, size, _⟩ := owns.blocked _ _ waits
  have sized := owns.sized _ _ _ waits
  have earlier : socket.tcp.delivered = queuedBy socket := by
    have received := reads.received
    rwa [arrived, if_neg (by simp), List.append_nil] at received
  have offered : socket.allocCallback = (buf, call.size) := by
    rw [Socket.State.allocCallback, place, size, reads.place, Socket.toSize_natCast sized.size_lt]
  have buffer : ¬ (buf = 0 ∨ call.size = 0) := by
    have buffer := sized.buffer
    have nonempty := sized.nonempty
    rw [reads.place] at buffer
    omega
  simp only [Socket.State.canDeliver, offered, if_neg buffer] at deliverable
  refine ⟨reads.caller, reads.place, closed.trans reads.isOpen, ?_, fun _ atEof => ?_,
    fun isCalm _ failed => ?_⟩
  · rw [delivered, queue, earlier, arrived, len_eq, memory, offered]
    rcases code with ⟨nonnegative, rfl⟩ | ⟨rfl, rfl⟩ | ⟨negative, _, rfl⟩
    · rw [if_pos nonnegative, decide_eq_true_eq] at deliverable
      obtain ⟨count, within⟩ := deliverable
      have bounded := sized.size_lt
      rw [if_pos ⟨rfl, nonnegative⟩, count, Socket.toSize_natCast (by omega)]
      rw [Memory.load_store_same]
    · rw [if_neg (by decide), decide_eq_true_eq] at deliverable
      rw [if_neg (by decide), deliverable]
    · rw [if_neg (by omega), decide_eq_true_eq] at deliverable
      rw [if_neg (by decide), deliverable]
  · rw [len_eq] at atEof
    rcases code with ⟨nonnegative, rfl⟩ | ⟨rfl, _⟩ | ⟨_, _, rfl⟩
    · rw [atEof] at nonnegative
      exact absurd nonnegative (by decide)
    · exact seen
    · exact absurd atEof (by decide)
  · rw [len_eq] at failed
    rcases code with ⟨nonnegative, rfl⟩ | ⟨_, rfl⟩ | ⟨negative, notEof, _⟩
    · rw [failed] at nonnegative
      exact absurd nonnegative (by decide)
    · exact absurd failed (by decide)
    · rcases succeeds isCalm with nonnegative | atEof
      · omega
      · exact notEof atEof

/-- The end of the stream: `client.read` calls `close` and suspends in it. -/
theorem afterEof {call : ReadCall} {waiting : Waiting} {serial : Nat}
    (reads : Reads calm buf true call socket) (atEof : socket.len = errorEof)
    (suspends : waiting = .shutdown (.eof call) ∨ waiting = .closeHandle (.eof call))
    (waits : after.fiber () = .wait waiting serial .unset)
    (delivered : after.tcp.delivered = socket.tcp.delivered)
    (queue : queuedBy after = queuedBy socket)
    (logged : ∀ event ∈ socket.log, event ∈ after.log) : Phase calm buf after .reading := by
  have negative : socket.len < 0 := by
    rw [atEof]
    decide
  refine .ending waits ⟨⟨call, reads.caller, suspends⟩, ?_, ?_, ?_⟩
  · unfold Echoed
    rw [queue, delivered]
    exact echoed_of_negative reads negative
  · exact logged _ (reads.seen rfl atEof)
  · intro exc isSet
    cases isSet

/-- The close at the end of the stream is over: `client.read` returns zero. -/
theorem afterEnd {call : ReadCall} {serial : Nat} {result : Except Exc Unit} {status : Int}
    (phase : Phase calm buf socket pc) (owned : Socket.Owned socket)
    (owns : Socket.ReaderOwns socket) (runs : pc.Runs)
    (ran : socket.fiber () = .wait (.closeHandle (.eof call)) serial (.set result))
    (closed : socket.closed = true)
    (stepped : (Socket.machine Unit).step socket (.resume () status) = some after)
    (logged : ∀ event ∈ socket.log, event ∈ after.log) : Phase calm buf after pc := by
  rcases phase.of_wait runs ran with ⟨rfl, ends⟩ | ⟨_, isWrite, _⟩
  · obtain ⟨call', caller, isShutdown | isHandle⟩ := ends.inRead
    · cases isShutdown
    · cases isHandle
      have free : socket.reading = false := owns.ended () ⟨call, _, _, .inr ran⟩
      have closing := (owned.handle _ _ _ _ ran).1
      have seen := logged _ ends.seen
      rw [resume_ended ran caller closed stepped] at seen ⊢
      refine .obtained rfl ⟨free, ?_, rfl, fun _ => ⟨rfl, seen, closing⟩⟩
      rw [List.append_nil]
      exact ends.echoed.symm
  · cases isWrite

/-- Nothing that happens inside a call, and no callback, leads the fiber
astray. -/
theorem event (phase : Phase calm buf socket pc) (owned : Socket.Owned socket)
    (owns : Socket.ReaderOwns socket)
    (stepped : (Socket.machine Unit).step socket action = some after)
    (noCall : action.caller = none) (succeeds : calm → action.Succeeds) :
    Phase calm buf after pc := by
  have transition := Socket.step_transition owned stepped
  have noWrite : ∀ fib data status, action ≠ .write fib data status := by
    rintro fib data status rfl
    cases noCall
  have queue := queuedBy_eq transition noWrite
  have kept : ∀ event ∈ socket.log, event ∈ after.log := fun _ => logged transition owned
  by_cases runs : pc.Runs
  · -- A fiber that waits for a promise is inside `write`, or at the end of the
    -- stream.
    have inWait : ∀ {waiting serial promise}, socket.fiber () = .wait waiting serial promise →
        waiting = .write ∨ ∃ call : ReadCall, call.caller = .read ∧
          (waiting = .shutdown (.eof call) ∨ waiting = .closeHandle (.eof call)) := by
      intro waiting serial promise waits
      rcases phase.of_wait runs waits with ⟨_, ends⟩ | ⟨_, isWrite, _⟩
      · exact .inr ends.inRead
      · exact .inl isWrite
    have again : ∀ {status call entered}, ¬ ∃ fib : Unit,
        Socket.ReadEntry socket fib action status call entered := by
      rintro status call entered ⟨fib, entry⟩
      cases entry with
      | start _ _ _ => cases noCall
      | again woken _ _ _ _ continues =>
          have reads := (phase.of_waitRead runs woken).2
          rw [ReadCall.continues, reads.caller] at continues
          cases continues
    cases transition with
    | @ends _ fib _ _ _ _ unbound _ _ _ _ _ moves =>
        obtain ⟨inside, status, rfl⟩ := moves.resolve_left (by simp [noCall])
        rcases unbound with idle | ⟨waiting, serial, result, waits, kind⟩
        · exact absurd (inside.symm.trans idle) (by decide)
        · rcases phase.of_wait runs waits with ⟨_, ends⟩ | ⟨rfl, rfl, ready, answered⟩
          · obtain ⟨call, _, rfl | rfl⟩ := ends.inRead <;> simp at kind
          · rw [resume_write waits stepped]
            exact afterWrite ready answered
    | resolves _ _ => cases noCall
    | connects resolved =>
        rcases inWait resolved with isWrite | ⟨_, _, isShutdown | isHandle⟩
        · cases isWrite
        · cases isShutdown
        · cases isHandle
    | writes _ _ _ => cases noCall
    | admits entry _ _ _ => exact absurd ⟨_, entry⟩ again
    | rejects entry _ _ _ => exact absurd ⟨_, entry⟩ again
    | readsNull entry _ _ _ => exact absurd ⟨_, entry⟩ again
    | waitsAgain woken unfinished isOpen =>
        rcases owns.notified _ _ woken with closed | ⟨finished, _⟩
        · exact absurd (isOpen.symm.trans closed) (by decide)
        · exact absurd finished unfinished
    | readFails woken _ failed =>
        obtain ⟨rfl, reads⟩ := phase.of_waitRead runs woken
        have negative : socket.len < 0 := by
          rw [failed]
          decide
        have echoed := echoed_of_negative reads negative
        exact .failed rfl (fun isCalm => reads.sound isCalm rfl failed) echoed
    | readReturns ends _ =>
        obtain ⟨rfl, reads⟩ := phase.of_waitRead runs ends.woken
        exact afterRead reads owns ends
    | readStops ends closed =>
        have reads := (phase.of_waitRead runs ends.woken).2
        exact absurd (reads.isOpen.symm.trans closed) (by decide)
    | shutsDown entry _ _ =>
        cases entry with
        | user _ | destructor _ => cases noCall
        | eof woken _ atEof =>
            obtain ⟨rfl, reads⟩ := phase.of_waitRead runs woken
            exact afterEof reads atEof (.inl rfl) rfl rfl queue kept
    | closesAtOnce entry _ _ =>
        cases entry with
        | user _ | destructor _ => cases noCall
        | eof woken _ atEof =>
            obtain ⟨rfl, reads⟩ := phase.of_waitRead runs woken
            exact afterEof reads atEof (.inr rfl) rfl rfl queue kept
    | closeFails entry _ failed _ =>
        cases entry with
        | user _ | destructor _ => cases noCall
        | eof woken _ atEof =>
            obtain ⟨rfl, reads⟩ := phase.of_waitRead runs woken
            have negative : socket.len < 0 := by
              rw [atEof]
              decide
            have echoed := echoed_of_negative reads negative
            refine .failed rfl (fun isCalm => ?_) echoed
            rw [checkUvStatus_ok (succeeds isCalm)] at failed
            cases failed
    | @closes fib closer serial result status shut _ =>
        rcases phase.of_wait runs shut with ⟨rfl, ends⟩ | ⟨_, isWrite, _⟩
        · obtain ⟨call, caller, isShutdown | isHandle⟩ := ends.inRead
          · cases isShutdown
            refine .ending rfl ⟨⟨call, caller, .inr rfl⟩, ends.echoed, kept _ ends.seen, ?_⟩
            intro exc isSet
            cases isSet
          · cases isHandle
        · cases isWrite
    | @shutdownFails fib closer serial exc status shut _ =>
        rcases phase.of_wait runs shut with ⟨rfl, ends⟩ | ⟨_, isWrite, _⟩
        · obtain ⟨call, caller, isShutdown | isHandle⟩ := ends.inRead
          · cases isShutdown
            exact .failed rfl (ends.answered exc rfl) ends.echoed
          · cases isHandle
        · cases isWrite
    | closeReturnsToUser ran =>
        rcases inWait ran with isWrite | ⟨_, _, isShutdown | isHandle⟩
        · cases isWrite
        · cases isShutdown
        · cases isHandle
    | closeReturnsToDestructor ran =>
        rcases inWait ran with isWrite | ⟨_, _, isShutdown | isHandle⟩
        · cases isWrite
        · cases isShutdown
        · cases isHandle
    | closeReturnsToRead ran closed _ =>
        exact afterEnd phase owned owns runs ran closed stepped kept
    | closeStopsRead ran closed => exact afterEnd phase owned owns runs ran closed stepped kept
    | destroysClosed _ _ => cases noCall
    | @completes id status request waiting registered issued awaits =>
        have settled : ∀ exc, PromiseState.set (checkUvStatus status) = .set (.error exc) →
            ¬ calm := by
          intro exc isSet isCalm
          rw [checkUvStatus_ok (succeeds isCalm)] at isSet
          cases isSet
        rcases phase.of_wait runs awaits with ⟨rfl, ends⟩ | ⟨rfl, rfl, ready, _⟩
        · exact .ending rfl ⟨ends.inRead, ends.echoed, kept _ ends.seen, settled⟩
        · exact .writing rfl ⟨ready.isOpen, ready.free, ready.echoed⟩ settled
    | delivers watching deliverable code =>
        obtain ⟨_, call, waits⟩ := owns.watching watching
        obtain ⟨rfl, reads⟩ := phase.of_waitRead runs waits
        have woken : (socket.fiber ()).notify = .waitRead true call := by
          rw [waits]
          rfl
        refine .reading woken ?_
        exact afterCallback reads owns waits deliverable code succeeds rfl queue rfl rfl rfl
          (by simp)
    | @handleCloses fib closer serial _ _ _ awaits =>
        rcases phase.of_wait runs awaits with ⟨rfl, ends⟩ | ⟨_, isWrite, _⟩
        · refine .ending rfl ⟨ends.inRead, ends.echoed, kept _ ends.seen, ?_⟩
          intro exc isSet
          cases isSet
        · cases isWrite
  · unfold Pc.Runs at runs
    push Not at runs
    obtain ⟨exc, rfl⟩ := runs
    cases phase with
    | finished leaves => exact .finished (leaves.kept transition owned noWrite)

end Phase

/-! ## The fiber between its calls -/

/-- `client.read` on an open socket that nobody reads: `uv_read_start` fails, or
the fiber waits. -/
theorem read_cases {status : Int} (isOpen : socket.closed = false) (free : socket.reading = false)
    (stepped : (Socket.machine Unit).step socket (.read () (.read buf bufSize) status) =
      some after) :
    buf ≠ 0 ∧ after.tcp.delivered = socket.tcp.delivered ∧ queuedBy after = queuedBy socket ∧
      ((∃ exc, checkUvStatus status = .error exc ∧ after.fiber () = .idle (some (.threw exc))) ∨
        (after.closed = false ∧
          after.fiber () = .waitRead false ⟨socket.calls, buf, bufSize, .read⟩)) := by
  obtain ⟨_, stepped⟩ := Option.ite_none_left_eq_some.mp stepped
  obtain ⟨enabled, result⟩ := Option.ite_none_right_eq_some.mp stepped
  rw [Bool.and_eq_true] at enabled
  have buffer : buf ≠ 0 := by
    intro null
    simp [Socket.ReadRequest.hasBuffer, null, bufSize] at enabled
  cases result
  simp only [Socket.State.startRead, Socket.ReadRequest.first, Socket.State.read, isOpen, free,
    Bool.false_eq_true, if_false]
  cases checked : checkUvStatus status with
  | error exc => exact ⟨buffer, rfl, rfl, .inl ⟨exc, rfl, rfl⟩⟩
  | ok value =>
      simp only [ne_eq, buffer, not_false_eq_true, if_true]
      exact ⟨trivial, rfl, rfl, .inr ⟨rfl, rfl⟩⟩

/-- `client.write`: the socket is closed, `uv_write` fails, or the bytes are
queued and the fiber waits. -/
theorem write_cases {data : List UInt8} {status : Int}
    (stepped : (Socket.machine Unit).step socket (.write () data status) = some after) :
    after.tcp.delivered = socket.tcp.delivered ∧ after.tcp.closing = socket.tcp.closing ∧
      ((socket.closed = true ∧ queuedBy after = queuedBy socket ∧
          after.fiber () = .idle (some (.threw .socketClosedError))) ∨
        (∃ exc, checkUvStatus status = .error exc ∧ queuedBy after = queuedBy socket ∧
          after.fiber () = .idle (some (.threw exc))) ∨
        (after.closed = false ∧ after.reading = socket.reading ∧
          queuedBy after = queuedBy socket ++ data ∧
          ∃ serial, after.fiber () = .wait .write serial .unset)) := by
  obtain ⟨_, stepped⟩ := Option.ite_none_left_eq_some.mp stepped
  obtain ⟨_, result⟩ := Option.ite_none_right_eq_some.mp stepped
  cases result
  unfold Socket.State.write
  by_cases closed : socket.closed = true
  · rw [if_pos closed]
    exact ⟨rfl, rfl, .inl ⟨closed, rfl, rfl⟩⟩
  · rw [if_neg closed]
    cases checked : checkUvStatus status with
    | error exc => exact ⟨rfl, rfl, .inr (.inl ⟨exc, rfl, rfl, rfl⟩)⟩
    | ok value =>
        refine ⟨rfl, rfl, .inr (.inr ⟨by simpa using closed, rfl, ?_, _, rfl⟩)⟩
        simp [queuedBy]

namespace Phase

/-- The lambda goes on to its next call. It never gets out of the loop by the
loop's condition. -/
theorem turn {next : Server} {status : Int} (phase : Phase calm buf socket pc)
    (owned : Socket.Owned socket) (turned : Server.turn ⟨socket, pc⟩ buf status = some next)
    (succeeds : calm → 0 ≤ status) : Phase calm buf next.socket next.pc := by
  cases phase with
  | testing idle ready =>
      simp only [Server.turn, ready.isOpen, Bool.false_eq_true, if_false] at turned
      obtain ⟨after, stepped, rfl⟩ := Option.map_eq_some_iff.mp turned
      obtain ⟨buffer, delivered, queue, failed | ⟨isOpen, waits⟩⟩ :=
        read_cases ready.isOpen ready.free stepped
      · obtain ⟨exc, failed, threw⟩ := failed
        refine .failed threw (fun isCalm => ?_) ?_
        · rw [checkUvStatus_ok (succeeds isCalm)] at failed
          cases failed
        · unfold Echoed
          rw [queue, delivered, ready.echoed]
      · refine .reading waits ⟨rfl, rfl, isOpen, ?_, by simp, by simp⟩
        rw [delivered, queue, ← ready.echoed, arrived, if_neg (by simp), List.append_nil]
  | reading waits _ =>
      simp [Server.turn, waits] at turned
  | ending waits _ =>
      simp [Server.turn, waits] at turned
  | obtained idle obtains =>
      simp only [Server.turn, idle, obtains.inBuffer] at turned
      obtain ⟨after, stepped, rfl⟩ := Option.map_eq_some_iff.mp turned
      have transition : Socket.Transition socket (.write () _ status) after :=
        Socket.step_transition owned stepped
      obtain ⟨delivered, closing, outcome⟩ := write_cases stepped
      rcases outcome with ⟨closed, queue, threw⟩ | ⟨exc, failed, queue, threw⟩ | queued
      · -- The stream has ended, so there is nothing left to write.
        obtain ⟨none, seen, isClosing⟩ := obtains.ended closed
        have received := obtains.received
        rw [none, List.append_nil] at received
        refine .refused threw ⟨?_, fun _ => ⟨rfl, ?_, ?_, ?_⟩⟩
        · rw [queue, delivered, received]
        · unfold Echoed
          rw [queue, delivered, received]
        · exact logged transition owned seen
        · rw [closing, isClosing]
      · refine .refused threw ⟨?_, fun isCalm => ?_⟩
        · rw [queue, delivered, obtains.received]
          exact List.prefix_append _ _
        · rw [checkUvStatus_ok (succeeds isCalm)] at failed
          cases failed
      · obtain ⟨isOpen, reading, queue, serial, waits⟩ := queued
        refine .writing waits ⟨isOpen, reading.trans obtains.free, ?_⟩ (by simp)
        unfold Echoed
        rw [queue, delivered, obtains.received]
  | failed idle disturbed echoed =>
      simp only [Server.turn, idle] at turned
      cases turned
      refine .leaving idle ⟨?_, fun isCalm => absurd isCalm disturbed⟩
      rw [echoed]
  | writing waits _ _ =>
      simp [Server.turn, waits] at turned
  | written idle ready =>
      simp only [Server.turn, idle] at turned
      cases turned
      exact .testing idle ready
  | refused idle leaves =>
      simp only [Server.turn, idle] at turned
      cases turned
      exact .leaving idle leaves
  | leaving _ leaves =>
      simp only [Server.turn] at turned
      obtain ⟨after, stepped, rfl⟩ := Option.map_eq_some_iff.mp turned
      have transition : Socket.Transition socket (.destroy () status) after :=
        Socket.step_transition owned stepped
      exact .finished (leaves.kept transition owned (by simp))
  | finished _ => cases turned

end Phase

end Fiberio.Echo
