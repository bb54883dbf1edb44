import Fiberio.Socket.ReadSlot

/-!
Owns the loan of the caller's memory to libuv. While the read watcher is
started with a buffer, that buffer is the one of a call that is suspended in
it, whatever sizes the callers ask for; so a buffer whose call has returned is
never written to again, and memory that no call has named is never written to
at all.

Does not own which bytes arrive.
-/

namespace Fiberio.Socket

open Fiberio.Foundation

/-! ## Inner reads and the memory of their operation -/

/-- An inner read is offered what is left of the operation's own buffer. -/
structure ReadCall.Fits (call : ReadCall) : Prop where
  buffer : call.buf ≠ 0
  place : call.buf = call.base + call.filled
  rest : call.size + call.filled = call.total
  bounded : call.total < 2 ^ 64

/-- The address lies in the buffer of the whole operation. -/
def ReadCall.covers (call : ReadCall) (address : Nat) : Prop :=
  call.base ≤ address ∧ address < call.base + call.total

/-- The address lies in the buffer that the caller names, or that a string
operation allocates. -/
def ReadRequest.covers (request : ReadRequest) (address : Nat) : Prop :=
  match request with
  | .read buf size | .readExactly buf size | .deviceRead buf size
  | .readString _ size buf | .readStringExactly _ size buf =>
      buf ≤ address ∧ address < buf + size

theorem toSize_toInt64 {size : Nat} (bounded : size < 2 ^ 64) : toSize (toInt64 size) = size := by
  unfold toSize toInt64
  rw [Int.bmod_def]
  split <;> omega

theorem ReadRequest.first_fits {request : ReadRequest} {id : Nat} {closed : Bool}
    {call : ReadCall} (buffer : request.hasBuffer = true) (nonnull : call.buf ≠ 0)
    (first : request.first id closed = .inr call) :
    call.Fits ∧ ∀ address, call.covers address → request.covers address := by
  have bounded : call.total < 2 ^ 64 := by
    cases request with
    | readString std count buf =>
        cases std <;> simp only [ReadRequest.hasBuffer, decide_eq_true_eq] at buffer <;>
          simp only [ReadRequest.first] at first <;> split at first <;> cases first <;>
          exact buffer.1
    | _ =>
        simp only [ReadRequest.hasBuffer, decide_eq_true_eq] at buffer
        simp only [ReadRequest.first] at first
        grind [ReadCall.total]
  refine ⟨⟨nonnull, ?_, ?_, bounded⟩, ?_⟩ <;>
    cases request <;> simp only [ReadRequest.first] at first <;>
    grind [ReadCall.base, ReadCall.filled, ReadCall.total, ReadCall.covers, ReadRequest.covers]

namespace ReadCall.Fits

variable {call : ReadCall}

theorem size_lt (fits : call.Fits) : call.size < 2 ^ 64 := by
  have rest := fits.rest
  have bounded := fits.bounded
  omega

/-- A loop reads again into what is left, and into the same buffer. -/
theorem next {count : Nat} {closed : Bool} (fits : call.Fits) (within : count ≤ call.size)
    (continues : call.continues count closed = true) :
    (call.next count).Fits ∧
      ∀ address, (call.next count).covers address → call.covers address := by
  obtain ⟨id, buf, size, caller⟩ := call
  obtain ⟨buffer, place, rest, bounded⟩ := fits
  cases caller with
  | read => cases continues
  | readString std total => cases continues
  | readExactly base total =>
      simp only [ReadCall.base, ReadCall.filled, ReadCall.total] at *
      have left : subSize size count = size - count := by
        unfold subSize
        omega
      refine ⟨⟨?_, ?_, ?_, bounded⟩, fun _ covered => covered⟩ <;>
        simp only [ReadCall.next, ReadCall.base, ReadCall.filled, ReadCall.total, left] <;> omega
  | deviceRead base total bytesRead =>
      simp only [ReadCall.base, ReadCall.filled, ReadCall.total] at *
      simp only [ReadCall.continues, Bool.and_eq_true, decide_eq_true_eq] at continues
      refine ⟨⟨?_, ?_, ?_, bounded⟩, fun _ covered => covered⟩ <;>
        simp only [ReadCall.next, ReadCall.base, ReadCall.filled, ReadCall.total] <;> omega

end ReadCall.Fits

theorem Reported.toSize_le {len : Int} {size : Nat} (reported : Reported len size)
    (notEof : len ≠ errorEof) (notFailed : len ≠ errorReadFailed) (bounded : size < 2 ^ 64) :
    toSize len ≤ size := by
  rcases reported with eof | failed | ⟨nonnegative, le⟩
  · exact absurd eof notEof
  · exact absurd failed notFailed
  · unfold toSize
    omega

/-! ## The loan -/

variable {Fib : Type}

/-- A blocked reader has lent its buffer to libuv, or a close that will wake
it is under way. The watcher never holds a buffer that nobody waits for. -/
structure Lends (state : State Fib) : Prop where
  fits : ∀ fib notified call, state.fiber fib = .waitRead notified call → call.Fits
  blocked : ∀ fib call, state.fiber fib = .waitRead false call →
    state.buf = call.buf ∧ state.len = toInt64 call.size ∧
      (state.tcp.watching = true ∨ ClosingHandle state)
  notified : ∀ fib call, state.fiber fib = .waitRead true call →
    state.closed = true ∨ (state.buf = 0 ∧ Reported state.len call.size)
  lent : state.tcp.watching = true → state.buf ≠ 0 →
    ∃ fib call, state.fiber fib = .waitRead false call

namespace Lends

variable {state after : State Fib} {fib : Fib}

theorem initial (memory : Memory UInt8) : Lends (initial memory : State Fib) := by
  constructor
  · intro fib notified call waits
    cases waits
  · intro fib call waits
    cases waits
  · intro fib call waits
    cases waits
  · intro watching
    cases watching

/-- Nobody waits, and the watcher holds no buffer. -/
theorem ofNoReader (readers : NoReader after)
    (returned : after.tcp.watching = true → after.buf = 0) : Lends after := by
  constructor
  · exact fun fib notified call waits => absurd waits (readers fib notified call)
  · exact fun fib call waits => absurd waits (readers fib false call)
  · exact fun fib call waits => absurd waits (readers fib true call)
  · exact fun watching held => absurd (returned watching) held

/-- The readers and their slot are left alone. Where the handle is closed the
watcher stops, and the closing fiber stands in for it. -/
theorem congr (lends : Lends state)
    (readers : ∀ fib notified call, after.fiber fib = .waitRead notified call ↔
      state.fiber fib = .waitRead notified call)
    (handle : ClosingHandle state → ClosingHandle after) (buf : after.buf = state.buf)
    (len : after.len = state.len) (closed : state.closed = true → after.closed = true)
    (watching : after.tcp.watching = state.tcp.watching ∨
      (after.tcp.watching = false ∧ ClosingHandle after)) : Lends after := by
  constructor
  · simpa only [readers] using lends.fits
  · intro fib call waits
    obtain ⟨sameBuf, sameLen, served⟩ := lends.blocked fib call ((readers _ _ _).mp waits)
    refine ⟨buf.trans sameBuf, len.trans sameLen, ?_⟩
    rcases watching with same | ⟨_, closing⟩
    · rw [same]
      exact served.imp id handle
    · exact .inr closing
  · intro fib call waits
    rw [buf, len]
    exact (lends.notified fib call ((readers _ _ _).mp waits)).imp closed id
  · intro watches held
    rcases watching with same | ⟨stopped, _⟩
    · obtain ⟨fib, call, waits⟩ := lends.lent (same ▸ watches) (buf ▸ held)
      exact ⟨fib, call, (readers _ _ _).mpr waits⟩
    · exact absurd (stopped.symm.trans watches) (by decide)

/-- `notify_all`, from a read callback or from a close that is done; in the
same step a fiber may leave. -/
theorem notify (lends : Lends state)
    (fibers : ∀ fib, after.fiber fib = (state.fiber fib).notify ∨
      ∃ last, after.fiber fib = .idle last) (stopped : after.tcp.watching = false)
    (answered : ∀ fib notified call, state.fiber fib = .waitRead notified call →
      after.closed = true ∨ (after.buf = 0 ∧ Reported after.len call.size)) : Lends after := by
  have readers : ∀ fib notified call, after.fiber fib = .waitRead notified call →
      notified = true ∧ ∃ earlier, state.fiber fib = .waitRead earlier call := by
    intro fib notified call waits
    rcases fibers fib with same | ⟨last, idle⟩
    · rw [same] at waits
      exact Fiber.notify_eq_waitRead_iff.mp waits
    · rw [idle] at waits
      cases waits
  constructor
  · intro fib notified call waits
    obtain ⟨_, earlier, before⟩ := readers _ _ _ waits
    exact lends.fits _ _ _ before
  · intro fib call waits
    exact absurd (readers _ _ _ waits).1 (by decide)
  · intro fib call waits
    obtain ⟨_, earlier, before⟩ := readers _ _ _ waits
    exact answered _ _ _ before
  · intro watches
    exact absurd (stopped.symm.trans watches) (by decide)

variable [DecidableEq Fib]

/-- A fiber that is not a reader, before or after, moves on. A fiber that
closes the handle stays there or turns to it. -/
theorem move {value : Fiber} (lends : Lends state)
    (fibers : after.fiber = Function.update state.fiber fib value)
    (notReader : ∀ notified call, state.fiber fib ≠ .waitRead notified call)
    (stays : ∀ notified call, value ≠ .waitRead notified call)
    (handle : ∀ closer serial promise,
      state.fiber fib = .wait (.closeHandle closer) serial promise →
      ∃ closer serial promise, value = .wait (.closeHandle closer) serial promise)
    (buf : after.buf = state.buf) (len : after.len = state.len)
    (closed : state.closed = true → after.closed = true)
    (watching : after.tcp.watching = state.tcp.watching ∨ (after.tcp.watching = false ∧
      ∃ closer serial promise, value = .wait (.closeHandle closer) serial promise)) :
    Lends after := by
  apply lends.congr _ _ buf len closed
  · apply watching.imp id
    rintro ⟨stopped, closer, serial, promise, now⟩
    exact ⟨stopped, fib, closer, serial, promise, by rw [fibers, Function.update_self, now]⟩
  · intro other notified call
    rw [fibers]
    by_cases same : other = fib
    · subst same
      simp [notReader, stays]
    · simp [same]
  · rintro ⟨other, closer, serial, promise, awaits⟩
    by_cases same : other = fib
    · subst same
      obtain ⟨closer, serial, promise, now⟩ := handle _ _ _ awaits
      exact ⟨other, closer, serial, promise, by rw [fibers, Function.update_self, now]⟩
    · exact ⟨other, closer, serial, promise, by rw [fibers, Function.update_of_ne same, awaits]⟩

/-- A fiber that holds neither the buffer nor the handle moves on. -/
theorem unbound {value : Fiber} (lends : Lends state)
    (fibers : after.fiber = Function.update state.fiber fib value)
    (unbound : (state.fiber fib).Unbound)
    (stays : ∀ notified call, value ≠ .waitRead notified call)
    (buf : after.buf = state.buf) (len : after.len = state.len)
    (closed : state.closed = true → after.closed = true)
    (watching : after.tcp.watching = state.tcp.watching) : Lends after :=
  lends.move fibers unbound.notReader stays
    (fun _ _ _ awaits => absurd awaits (unbound.notHandle _ _ _)) buf len closed (.inl watching)

omit [DecidableEq Fib] in
/-- When the reader was woken the watcher holds no buffer. -/
theorem returned {call : ReadCall} (lends : Lends state) (sole : SoleReader state)
    (woken : state.fiber fib = .waitRead true call) (watching : state.tcp.watching = true) :
    state.buf = 0 := by
  by_contra held
  obtain ⟨other, call', waits⟩ := lends.lent watching held
  have same : other = fib :=
    sole.single other fib call' call (by rw [waits]; rfl) (by rw [woken]; rfl)
  rw [same, woken] at waits
  cases waits

/-- The woken reader leaves `wait_for_read_to_finish`. -/
theorem leave {value : Fiber} {call : ReadCall} (lends : Lends state) (sole : SoleReader state)
    (woken : state.fiber fib = .waitRead true call)
    (fibers : after.fiber = Function.update state.fiber fib value)
    (plain : ∀ notified call, value ≠ .waitRead notified call)
    (buf : after.buf = state.buf ∨ after.buf = 0)
    (watching : after.tcp.watching = true → state.tcp.watching = true) : Lends after := by
  apply ofNoReader
  · intro other notified call' waits
    rw [fibers] at waits
    by_cases same : other = fib
    · subst same
      rw [Function.update_self] at waits
      exact plain _ _ waits
    · rw [Function.update_of_ne same] at waits
      exact same (sole.single other fib call' call (by rw [waits]; rfl) (by rw [woken]; rfl))
  · intro watches
    rcases buf with same | null
    · rw [same]
      exact lends.returned sole woken (watching watches)
    · exact null

end Lends

/-! ## Every transition keeps the loan -/

section Preservation

variable [DecidableEq Fib] {state after entered : State Fib} {fib : Fib} {action : Action Fib}

omit [DecidableEq Fib] in
/-- The fiber that enters `read` is the only one that may have been a reader. -/
theorem ReadEntry.onlyReader {status : Int} {call : ReadCall}
    (entry : ReadEntry state fib action status call entered) (sole : SoleReader state)
    (free : entered.reading = false) :
    entered.fiber = state.fiber ∧
      ∀ other notified call', state.fiber other = .waitRead notified call' → other = fib := by
  cases entry with
  | start idle _ _ =>
      have free : state.reading = false := free
      refine ⟨rfl, fun other notified call' waits => ?_⟩
      exact absurd (free.symm.trans (sole.reading _ _ _ waits)) (by decide)
  | again woken _ _ _ _ _ =>
      refine ⟨rfl, fun other notified call' waits => ?_⟩
      exact sole.single other fib call' _ (by rw [waits]; rfl) (by rw [woken]; rfl)

omit [DecidableEq Fib] in
/-- An admitted read lies in the buffer of a call that starts, or goes on. -/
theorem ReadEntry.fits {status : Int} {call : ReadCall}
    (entry : ReadEntry state fib action status call entered) (lends : Lends state)
    (nonnull : call.buf ≠ 0) :
    call.Fits ∧ ∀ address, call.covers address →
      (∃ request, action = .read fib request status ∧ request.covers address) ∨
        ∃ notified old, state.fiber fib = .waitRead notified old ∧ old.covers address := by
  cases entry with
  | start idle buffer first =>
      obtain ⟨fits, covers⟩ := ReadRequest.first_fits buffer nonnull first
      exact ⟨fits, fun address covered => .inl ⟨_, rfl, covers address covered⟩⟩
  | again woken finished isOpen notEof notFailed continues =>
      have fits := lends.fits _ _ _ woken
      rcases lends.notified _ _ woken with closed | ⟨_, reported⟩
      · exact absurd (isOpen.symm.trans closed) (by decide)
      · obtain ⟨nextFits, covers⟩ :=
          fits.next (reported.toSize_le notEof notFailed fits.size_lt) continues
        exact ⟨nextFits, fun address covered => .inr ⟨_, _, woken, covers address covered⟩⟩

theorem Lends.admit {status : Int} {call : ReadCall} (lends : Lends state)
    (sole : SoleReader state) (entry : ReadEntry state fib action status call entered)
    (free : entered.reading = false) (nonnull : call.buf ≠ 0) :
    Lends ((entered.beginRead call).watch.setFiber fib (.waitRead false call)) := by
  obtain ⟨fibers, others⟩ := entry.onlyReader sole free
  have readers : ∀ other notified call', Function.update entered.fiber fib
      (.waitRead false call) other = .waitRead notified call' →
        notified = false ∧ call' = call := by
    intro other notified call' waits
    by_cases same : other = fib
    · rw [same, Function.update_self] at waits
      cases waits
      exact ⟨rfl, rfl⟩
    · rw [Function.update_of_ne same, fibers] at waits
      exact absurd (others _ _ _ waits) same
  constructor
  · intro other notified call' waits
    rw [(readers _ _ _ waits).2]
    exact (entry.fits lends nonnull).1
  · intro other call' waits
    rw [(readers _ _ _ waits).2]
    exact ⟨rfl, by simp, .inl rfl⟩
  · intro other call' waits
    exact absurd (readers _ _ _ waits).1 (by decide)
  · exact fun _ _ => ⟨fib, call, Function.update_self _ _ _⟩

/-- A read that does not wait leaves no reader behind, and no buffer with the
watcher. -/
theorem Lends.refuse {status : Int} {call : ReadCall} {last : Option Outcome}
    (sole : SoleReader state) (entry : ReadEntry state fib action status call entered)
    (free : entered.reading = false)
    (fibers : after.fiber = Function.update entered.fiber fib (.idle last))
    (null : after.buf = 0) : Lends after := by
  obtain ⟨same, others⟩ := entry.onlyReader sole free
  apply Lends.ofNoReader
  · intro other notified call' waits
    rw [fibers, same] at waits
    by_cases differs : other = fib
    · rw [differs, Function.update_self] at waits
      cases waits
    · rw [Function.update_of_ne differs] at waits
      exact differs (others _ _ _ waits)
  · exact fun _ => null

/-- `close` is entered and the fiber suspends inside it. -/
theorem Lends.enterClose {value : Fiber} {status : Int} {closer : Closer}
    (lends : Lends state) (sole : SoleReader state)
    (entry : CloseEntry state fib action status closer entered)
    (fibers : after.fiber = Function.update entered.fiber fib value)
    (stays : ∀ notified call, value ≠ .waitRead notified call)
    (buf : after.buf = entered.buf) (len : after.len = entered.len) (closed : after.closed = true)
    (watching : after.tcp.watching = entered.tcp.watching ∨ (after.tcp.watching = false ∧
      ∃ closer serial promise, value = .wait (.closeHandle closer) serial promise)) :
    Lends after := by
  cases entry with
  | user idle =>
      exact lends.move fibers (Fiber.idle_notReader idle) stays
        (fun _ _ _ awaits => absurd awaits (Fiber.idle_promiseless idle _ _ _))
        buf len (fun _ => closed) watching
  | destructor idle =>
      exact lends.move fibers (Fiber.idle_notReader (idle _)) stays
        (fun _ _ _ awaits => absurd awaits (Fiber.idle_promiseless (idle _) _ _ _))
        buf len (fun _ => closed) watching
  | eof woken _ _ =>
      apply lends.leave sole woken fibers stays (.inl buf)
      intro watches
      rcases watching with same | ⟨off, _⟩
      · exact same ▸ watches
      · exact absurd (off.symm.trans watches) (by decide)

/-- An exception leaves `close` after the shutdown was answered. -/
theorem Lends.closeThrew {closer : Closer} {serial : Nat} {promise : PromiseState} {exc : Exc}
    (lends : Lends state) (sole : SoleReader state)
    (shut : state.fiber fib = .wait (.shutdown closer) serial promise) :
    Lends (state.closeThrew fib closer exc) := by
  cases closer with
  | user =>
      exact lends.move rfl (by rw [shut]; simp) (by simp) (by rw [shut]; simp) rfl rfl id
        (.inl rfl)
  | eof call =>
      have quiet : state.reading = false := sole.ended fib ⟨call, serial, promise, .inl shut⟩
      apply Lends.ofNoReader
      · intro other notified call' waits
        by_cases same : other = fib
        · subst same
          simp [State.closeThrew] at waits
        · have waits : state.fiber other = .waitRead notified call' := by
            simpa [State.closeThrew, same] using waits
          exact absurd (quiet.symm.trans (sole.reading _ _ _ waits)) (by decide)
      · exact fun _ => rfl
  | destructor => exact lends.congr (fun _ _ _ => Iff.rfl) id rfl rfl id (.inl rfl)

/-- The close is done and its caller returns: whoever still waits is woken. -/
theorem Lends.closeReturned {last : Option Outcome} {closer : Closer} {serial : Nat}
    {promise : PromiseState} (lends : Lends state) (owned : Owned state)
    (ran : state.fiber fib = .wait (.closeHandle closer) serial promise)
    (fibers : after.fiber = Function.update state.notifyAll.fiber fib (.idle last))
    (closed : after.closed = state.closed)
    (watching : after.tcp.watching = state.tcp.watching) : Lends after := by
  apply lends.notify
  · intro other
    rw [fibers]
    by_cases same : other = fib
    · exact .inr ⟨last, by rw [same, Function.update_self]⟩
    · exact .inl (by rw [Function.update_of_ne same, State.notifyAll_fiber])
  · rw [watching]
    by_contra watches
    have live := owned.watched (by simpa using watches)
    exact absurd (live.symm.trans (owned.handle _ _ _ _ ran).1) (by decide)
  · intro other notified call waits
    exact .inl (closed.trans (owned.closers _ ⟨_, _, _, .inr ran⟩))

omit [DecidableEq Fib] in
/-- libuv is offered the buffer of the blocked reader. -/
theorem Lends.offered {call : ReadCall} (lends : Lends state)
    (waits : state.fiber fib = .waitRead false call) :
    state.allocCallback = (call.buf, call.size) := by
  obtain ⟨bufEq, lenEq, _⟩ := lends.blocked _ _ waits
  unfold State.allocCallback
  rw [bufEq, lenEq, toSize_toInt64 (lends.fits _ _ _ waits).size_lt]

omit [DecidableEq Fib] in
/-- What libuv may report has at most the offered length. -/
theorem State.canDeliver_length {nread : Int} {bytes : List UInt8}
    (deliverable : state.canDeliver nread bytes = true) :
    bytes.length ≤ state.allocCallback.2 ∧ (0 ≤ nread → nread = bytes.length) := by
  unfold State.canDeliver at deliverable
  split at deliverable
  · simp only [decide_eq_true_eq] at deliverable
    rw [deliverable.1, deliverable.2]
    exact ⟨Nat.zero_le _, by decide⟩
  · split at deliverable
    · simp only [decide_eq_true_eq] at deliverable
      exact ⟨deliverable.2, fun _ => deliverable.1⟩
    · simp only [decide_eq_true_eq] at deliverable
      rw [deliverable]
      exact ⟨Nat.zero_le _, fun nonnegative => absurd nonnegative ‹_›⟩

omit [DecidableEq Fib] in
/-- libuv reports at most the reader's size. -/
theorem Lends.reported {nread : Int} {bytes : List UInt8} {len : Int} {call : ReadCall}
    (lends : Lends state) (waits : state.fiber fib = .waitRead false call)
    (deliverable : state.canDeliver nread bytes = true)
    (code : (0 ≤ nread ∧ len = nread) ∨ (nread = uvEof ∧ len = errorEof) ∨
      (nread < 0 ∧ nread ≠ uvEof ∧ len = errorReadFailed)) : Reported len call.size := by
  obtain ⟨short, exact_⟩ := State.canDeliver_length deliverable
  rw [lends.offered waits] at short
  rcases code with ⟨nonnegative, rfl⟩ | ⟨_, rfl⟩ | ⟨_, _, rfl⟩
  · exact .inr (.inr ⟨nonnegative, by have := exact_ nonnegative; omega⟩)
  · exact .inl rfl
  · exact .inr (.inl rfl)

omit [DecidableEq Fib] in
/-- `notify_all` in a read callback. A reader that was woken before finds the
socket closed, or the answer of its own callback. -/
theorem Lends.delivered {nread : Int} {bytes : List UInt8} {len : Int}
    (lends : Lends state) (deliverable : state.canDeliver nread bytes = true)
    (code : (0 ≤ nread ∧ len = nread) ∨ (nread = uvEof ∧ len = errorEof) ∨
      (nread < 0 ∧ nread ≠ uvEof ∧ len = errorReadFailed))
    (fibers : ∀ fib, after.fiber fib = (state.fiber fib).notify)
    (closed : after.closed = state.closed) (buf : after.buf = 0) (reports : after.len = len)
    (stopped : after.tcp.watching = false) : Lends after := by
  apply lends.notify (fun other => .inl (fibers other)) stopped
  intro other notified call waits
  cases notified with
  | false => exact .inr ⟨buf, reports ▸ lends.reported waits deliverable code⟩
  | true =>
      rcases lends.notified _ _ waits with isClosed | ⟨null, _⟩
      · exact .inl (closed.trans isClosed)
      · -- A null buffer only lets libuv report an error.
        have failed : len = errorReadFailed := by
          unfold State.canDeliver State.allocCallback at deliverable
          rw [if_pos (.inl null)] at deliverable
          simp only [decide_eq_true_eq] at deliverable
          obtain ⟨rfl, _⟩ := deliverable
          rcases code with ⟨nonnegative, _⟩ | ⟨isEof, _⟩ | ⟨_, _, rfl⟩
          · exact absurd nonnegative (by decide)
          · exact absurd isEof (by decide)
          · rfl
        exact .inr ⟨buf, .inr (.inl (reports.trans failed))⟩

theorem Transition.lends (transition : Transition state action after) (owned : Owned state)
    (sole : SoleReader state) (lends : Lends state) : Lends after := by
  cases transition with
  | ends events unbound _ _ _ _ _ _ => exact lends.unbound rfl unbound (by simp) rfl rfl id rfl
  | resolves idle _ => exact lends.unbound rfl (.inl idle) (by simp) rfl rfl id rfl
  | connects resolved =>
      exact lends.unbound rfl (.inr ⟨_, _, _, resolved, .inl rfl⟩) (by simp) rfl rfl id rfl
  | writes idle _ _ => exact lends.unbound rfl (.inl idle) (by simp) rfl rfl id rfl
  | admits entry _ free nonnull => exact lends.admit sole entry free nonnull
  | rejects entry _ free _ => exact Lends.refuse sole entry free rfl rfl
  | readsNull entry _ free null => exact Lends.refuse sole entry free rfl null
  | waitsAgain woken unfinished isOpen =>
      rcases lends.notified _ _ woken with closed | ⟨finished, _⟩
      · exact absurd (isOpen.symm.trans closed) (by decide)
      · exact absurd finished unfinished
  | readFails woken _ _ => exact lends.leave sole woken rfl (by simp) (.inr rfl) id
  | readReturns ends _ => exact lends.leave sole ends.woken rfl (by simp) (.inl rfl) id
  | readStops ends _ => exact lends.leave sole ends.woken rfl (by simp) (.inl rfl) id
  | shutsDown entry _ _ =>
      exact lends.enterClose sole entry rfl (by simp) rfl rfl rfl (.inl rfl)
  | closesAtOnce entry _ _ =>
      exact lends.enterClose sole entry rfl (by simp) rfl rfl rfl (.inr ⟨rfl, _, _, _, rfl⟩)
  | closeFails entry _ _ _ =>
      cases entry with
      | user idle => exact lends.unbound rfl (.inl idle) (by simp) rfl rfl (fun _ => rfl) rfl
      | destructor _ =>
          exact lends.congr (fun _ _ _ => Iff.rfl) id rfl rfl (fun _ => rfl) (.inl rfl)
      | eof woken _ _ => exact lends.leave sole woken rfl (by simp) (.inr rfl) id
  | closes shut _ =>
      exact lends.move rfl (by rw [shut]; simp) (by simp) (by rw [shut]; simp) rfl rfl id
        (.inr ⟨rfl, _, _, _, rfl⟩)
  | shutdownFails shut _ => exact lends.closeThrew sole shut
  | closeReturnsToUser ran => exact lends.closeReturned owned ran rfl rfl rfl
  | closeReturnsToDestructor ran => exact lends.closeReturned owned ran rfl rfl rfl
  | closeReturnsToRead ran _ _ => exact lends.closeReturned owned ran rfl rfl rfl
  | closeStopsRead ran _ => exact lends.closeReturned owned ran rfl rfl rfl
  | destroysClosed idle _ => exact lends.unbound rfl (.inl (idle _)) (by simp) rfl rfl id rfl
  | completes _ _ awaits =>
      refine lends.move rfl (by rw [awaits]; simp) (by simp) ?_ rfl rfl id (.inl rfl)
      rw [awaits]
      rintro closer serial promise ⟨⟩
      exact ⟨_, _, _, rfl⟩
  | delivers _ deliverable code =>
      exact lends.delivered deliverable code (fun _ => rfl) rfl rfl rfl rfl
  | handleCloses _ _ _ awaits =>
      exact lends.move rfl (by rw [awaits]; simp) (by simp) (fun _ _ _ _ => ⟨_, _, _, rfl⟩)
        rfl rfl id (.inl rfl)

end Preservation

theorem reachable_lends [DecidableEq Fib] [Fintype Fib] {state : State Fib}
    {allowed : State Fib → Action Fib → Prop}
    (reachable : (machine Fib).Reachable allowed state) : Lends state := by
  apply reachable.invariant_under
    (fun state reached => And.intro (reachable_owned reached) (reachable_soleReader reached))
  · rintro _ ⟨memory, rfl⟩
    exact Lends.initial memory
  · intro before action after known lends _ stepped
    exact (step_transition known.1 stepped).lends known.1 known.2 lends

/-! ## What is written where -/

section Frame

variable [DecidableEq Fib] {state after : State Fib} {action : Action Fib} {address : Nat}

/-- The address belongs to the buffer of a call that waits for its bytes. -/
def State.lent (state : State Fib) (address : Nat) : Prop :=
  ∃ fib notified call, state.fiber fib = .waitRead notified call ∧ call.covers address

/-- The step starts a read into a buffer with this address. -/
def Action.lends (action : Action Fib) (address : Nat) : Prop :=
  ∃ fib request status, action = .read fib request status ∧ request.covers address

omit [DecidableEq Fib] in
theorem State.lent_of_reader {fib : Fib} {notified : Bool} {call : ReadCall}
    (waits : state.fiber fib = .waitRead notified call) (covered : call.covers address) :
    state.lent address := ⟨fib, notified, call, waits, covered⟩

/-- One fiber moves and does not wait for bytes afterwards. -/
theorem lent_of_update {fib : Fib} {value : Fiber}
    (fibers : after.fiber = Function.update state.fiber fib value)
    (stays : ∀ notified call, value ≠ .waitRead notified call) (lent : after.lent address) :
    state.lent address := by
  obtain ⟨other, notified, call, waits, covered⟩ := lent
  by_cases same : other = fib
  · rw [same, fibers, Function.update_self] at waits
    exact absurd waits (stays _ _)
  · rw [fibers, Function.update_of_ne same] at waits
    exact State.lent_of_reader waits covered

omit [DecidableEq Fib] in
/-- Fibers are woken, or leave. -/
theorem lent_of_notify
    (fibers : ∀ fib, after.fiber fib = (state.fiber fib).notify ∨
      ∃ last, after.fiber fib = .idle last) (lent : after.lent address) :
    state.lent address := by
  obtain ⟨other, notified, call, waits, covered⟩ := lent
  rcases fibers other with same | ⟨last, idle⟩
  · rw [same] at waits
    obtain ⟨_, earlier, before⟩ := Fiber.notify_eq_waitRead_iff.mp waits
    exact State.lent_of_reader before covered
  · rw [idle] at waits
    cases waits

theorem closeThrew_lent {entered : State Fib} {fib : Fib} {closer : Closer} {exc : Exc}
    (lent : (entered.closeThrew fib closer exc).lent address)
    (same : entered.fiber = state.fiber) : state.lent address := by
  have before : entered.lent address := by
    cases closer with
    | user => exact lent_of_update rfl (by simp) lent
    | eof call => exact lent_of_update rfl (by simp) lent
    | destructor => exact lent
  unfold State.lent at before ⊢
  rwa [same] at before

theorem notifyAll_lent {fib : Fib} {last : Option Outcome}
    (fibers : after.fiber = Function.update state.notifyAll.fiber fib (.idle last))
    (lent : after.lent address) : state.lent address := by
  apply lent_of_notify _ lent
  intro other
  rw [fibers]
  by_cases same : other = fib
  · exact .inr ⟨last, by rw [same, Function.update_self]⟩
  · exact .inl (by rw [Function.update_of_ne same, State.notifyAll_fiber])

/-- A buffer is lent by the call that starts with it, and by no other step. -/
theorem Transition.lent (transition : Transition state action after) (lends : Lends state)
    (lent : after.lent address) : state.lent address ∨ action.lends address := by
  cases transition with
  | @admits fib action status call entered entry _ _ nonnull =>
      obtain ⟨other, notified, call', waits, covered⟩ := lent
      have fibers : entered.fiber = state.fiber := by cases entry <;> rfl
      by_cases same : other = fib
      · rw [same, State.setFiber_fiber, Function.update_self] at waits
        cases waits
        rcases (entry.fits lends nonnull).2 address covered with
          ⟨request, rfl, named⟩ | ⟨_, _, before, named⟩
        · exact .inr ⟨_, _, _, rfl, named⟩
        · exact .inl (State.lent_of_reader before named)
      · rw [State.setFiber_fiber, Function.update_of_ne same] at waits
        exact .inl (State.lent_of_reader (fibers ▸ waits) covered)
  | rejects entry _ _ _ => cases entry <;> exact .inl (lent_of_update rfl (by simp) lent)
  | readsNull entry _ _ _ => cases entry <;> exact .inl (lent_of_update rfl (by simp) lent)
  | @waitsAgain fib call _ woken _ _ =>
      obtain ⟨other, notified, call', waits, covered⟩ := lent
      by_cases same : other = fib
      · rw [same, State.setFiber_fiber, Function.update_self] at waits
        cases waits
        exact .inl (State.lent_of_reader woken covered)
      · rw [State.setFiber_fiber, Function.update_of_ne same] at waits
        exact .inl (State.lent_of_reader waits covered)
  | shutsDown entry _ _ => cases entry <;> exact .inl (lent_of_update rfl (by simp) lent)
  | closesAtOnce entry _ _ => cases entry <;> exact .inl (lent_of_update rfl (by simp) lent)
  | closeFails entry _ _ _ => cases entry <;> exact .inl (closeThrew_lent lent rfl)
  | shutdownFails _ _ => exact .inl (closeThrew_lent lent rfl)
  | closeReturnsToUser _ => exact .inl (notifyAll_lent rfl lent)
  | closeReturnsToDestructor _ => exact .inl (notifyAll_lent rfl lent)
  | closeReturnsToRead _ _ _ => exact .inl (notifyAll_lent rfl lent)
  | closeStopsRead _ _ => exact .inl (notifyAll_lent rfl lent)
  | delivers _ _ _ => exact .inl (lent_of_notify (fun _ => .inl rfl) lent)
  | _ => exact .inl (lent_of_update rfl (by simp) lent)

/-- libuv writes into the buffer of a call that waits for its bytes. -/
theorem Transition.memory_frame (transition : Transition state action after)
    (lends : Lends state) (free : ¬ state.lent address) :
    after.memory address = state.memory address := by
  by_cases report : ∃ nread bytes, action = .readCallback nread bytes
  · obtain ⟨nread, bytes, rfl⟩ := report
    cases transition with
    | ends _ _ _ _ _ _ _ runs =>
        rcases runs with caller | ⟨_, _, resumed⟩
        · cases caller
        · cases resumed
    | admits entry _ _ _ => cases entry
    | rejects entry _ _ _ => cases entry
    | readsNull entry _ _ _ => cases entry
    | shutsDown entry _ _ => cases entry
    | closesAtOnce entry _ _ => cases entry
    | closeFails entry _ _ _ => cases entry
    | delivers watching deliverable code =>
        show state.memory.store state.buf bytes address = state.memory address
        cases bytes with
        | nil => rw [Memory.store_nil]
        | cons first rest =>
            have offered := (State.canDeliver_length deliverable).1
            have held : state.buf ≠ 0 := by
              intro null
              unfold State.canDeliver State.allocCallback at deliverable
              rw [if_pos (.inl null)] at deliverable
              simp at deliverable
            obtain ⟨fib, call, waits⟩ := lends.lent watching held
            have fits := lends.fits _ _ _ waits
            rw [lends.offered waits] at offered
            have outside : ¬ call.covers address :=
              fun covered => free (State.lent_of_reader waits covered)
            have place := fits.place
            have size := fits.rest
            rw [(lends.blocked _ _ waits).1]
            unfold ReadCall.covers at outside
            unfold Memory.store
            split
            · rw [List.getD_eq_getElem?_getD, List.getElem?_eq_none (by omega)]
              rfl
            · rfl
  · rw [transition.memory fun nread bytes same => report ⟨nread, bytes, same⟩]

variable [Fintype Fib]

/-- Memory that is not lent stays as it is: from any reachable state on, an
address that no waiting call covers, and that no read of the run covers, keeps
its value. -/
theorem unlent_memory_unchanged {final : State Fib} {actions : List (Action Fib)}
    (reachable : (machine Fib).Reachable Machine.AnyStep state)
    (free : ¬ state.lent address) (unnamed : ∀ action ∈ actions, ¬ action.lends address)
    (run : (machine Fib).exec state actions = some final) :
    final.memory address = state.memory address := by
  induction actions generalizing state with
  | nil =>
      cases run
      rfl
  | cons action rest inductionHypothesis =>
      obtain ⟨after, stepped, tailRun⟩ := Machine.exec_cons_some run
      have lends := reachable_lends reachable
      have transition := step_transition (reachable_owned reachable) stepped
      have stillFree : ¬ after.lent address := by
        intro lent
        rcases transition.lent lends lent with before | now
        · exact free before
        · exact unnamed action List.mem_cons_self now
      have later := inductionHypothesis (reachable.next trivial stepped) stillFree
        (fun other member => unnamed other (List.mem_cons_of_mem _ member)) tailRun
      rw [later]
      exact transition.memory_frame lends free

/-- The next read, into another buffer, leaves the bytes of the first alone. -/
theorem first_buffer_kept_by_second_read :
    ∃ state final : State Unit, (machine Unit).exec (initial fun _ => 0)
        [.read () (.read 100 8) 0, .readCallback 2 [7, 8], .resume () 0] = some state ∧
      (machine Unit).exec state [.read () (.readExactly 200 2) 0, .readCallback 1 [9]] =
        some final ∧ final.memory 100 = 7 := by
  have start : (machine Unit).Reachable Machine.AnyStep (initial fun _ => 0) := .start ⟨_, rfl⟩
  have reachable := start.exec (Machine.along_anyStep _ _)
    (rfl : (machine Unit).exec (initial fun _ => 0)
      [.read () (.read 100 8) 0, .readCallback 2 [7, 8], .resume () 0] = some _)
  refine ⟨_, _, rfl, rfl, (unlent_memory_unchanged reachable ?_ ?_ (rfl : (machine Unit).exec _
    [.read () (.readExactly 200 2) 0, .readCallback 1 [9]] = some _)).trans rfl⟩
  · rintro ⟨fib, notified, call, waits, _⟩
    cases waits
  · simp [Action.lends, ReadRequest.covers]

end Frame

end Fiberio.Socket
