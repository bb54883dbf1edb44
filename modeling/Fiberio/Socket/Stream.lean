import Fiberio.Socket.Reading

/-!
Owns the byte stream of a socket that nobody closes locally and that meets no
error: the bytes that libuv delivered are handed out in order, chunk by chunk,
and the chunks of one public call stand next to each other.

Does not own errors, and not what happens after a local close.
-/

namespace Fiberio.Socket

open Fiberio.Foundation

variable {Fib : Type}

/-! ## What the log says about the stream -/

/-- The bytes an inner read obtained. -/
def Event.chunkBytes : Event Fib → List UInt8
  | .chunk _ bytes => bytes
  | _ => []

/-- The bytes of a public read operation that returned normally. -/
def Event.obtained : Event Fib → List UInt8
  | .finished _ .read (.returned bytes) => bytes
  | _ => []

/-- All chunks, in the order in which the inner reads obtained them. -/
def chunkBytes (log : List (Event Fib)) : List UInt8 := log.flatMap Event.chunkBytes

/-- What the finished calls returned, in order of completion. -/
def obtained (log : List (Event Fib)) : List UInt8 := log.flatMap Event.obtained

@[simp] theorem chunkBytes_append (first second : List (Event Fib)) :
    chunkBytes (first ++ second) = chunkBytes first ++ chunkBytes second := by
  simp [chunkBytes]

@[simp] theorem obtained_append (first second : List (Event Fib)) :
    obtained (first ++ second) = obtained first ++ obtained second := by
  simp [obtained]

/-- The read that the fiber is in the middle of. -/
def Fiber.activeRead : Fiber → Option ReadCall
  | .waitRead _ call => some call
  | .wait (.shutdown (.eof call)) _ _ | .wait (.closeHandle (.eof call)) _ _ => some call
  | _ => none

/-- It does not matter how far the wait has come. -/
theorem Fiber.activeRead_wait {waiting : Waiting} {serial serial' : Nat}
    {promise promise' : PromiseState} :
    (Fiber.wait waiting serial promise).activeRead =
      (Fiber.wait waiting serial' promise').activeRead := by
  cases waiting with
  | shutdown closer => cases closer <;> rfl
  | closeHandle closer => cases closer <;> rfl
  | _ => rfl

theorem ReadCall.Sized.load_next {call : ReadCall} (sized : call.Sized)
    (memory : Memory UInt8) (count : Nat) :
    memory.load call.base (call.filled + count) =
      memory.load call.base call.filled ++ memory.load call.buf count := by
  rw [Memory.load_add, sized.place]

/-- A call that does not read again returns everything it obtained. -/
theorem ReadCall.Sized.result {call : ReadCall} {count : Nat} {closed : Bool}
    (sized : call.Sized) (memory : Memory UInt8) (within : count ≤ call.size)
    (last : call.continues count closed = false) :
    call.result memory count = memory.load call.base (call.filled + count) := by
  obtain ⟨id, buf, size, caller⟩ := call
  obtain ⟨_, _, _, rest, bounded⟩ := sized
  cases caller with
  | read => simp [ReadCall.result, ReadCall.base, ReadCall.filled]
  | readExactly base total =>
      simp only [ReadCall.filled, ReadCall.total] at rest bounded
      have left : subSize size count = size - count := subSize_eq within (by omega)
      simp only [ReadCall.continues, left, decide_eq_false_iff_not] at last
      have whole : total = buf - base + count := by
        simp only at within
        omega
      simp only [ReadCall.result, ReadCall.base, ReadCall.filled]
      rw [whole]
  | readString std total =>
      simp only [ReadCall.filled, ReadCall.total, Nat.add_zero] at rest
      have short : min count total = count := by
        simp only at within
        omega
      cases std <;> simp [ReadCall.result, ReadCall.base, ReadCall.filled, short]
  | deviceRead base total bytesRead => simp [ReadCall.result, ReadCall.base, ReadCall.filled]

/-! ## The chunks partition the stream -/

/-- Readers only: nobody closes the socket locally, `uv_read_start` succeeds
and libuv reports bytes or the end of the stream. -/
def ReadersOnly (_ : State Fib) : Action Fib → Prop
  | .read _ request status => request.Sized ∧ 0 ≤ status
  | .resume _ status => 0 ≤ status
  | .readCallback nread _ => 0 ≤ nread ∨ nread = uvEof
  | .close _ _ | .destroy _ _ => False
  | .connect _ _ | .write _ _ _ | .complete _ _ | .onHandleClosed => True

theorem ReadersOnly.sized {state : State Fib} {action : Action Fib}
    (readers : ReadersOnly state action) : SizedReads state action := by
  cases action with
  | read fib request status => exact readers.1
  | _ => trivial

/-- In these runs `uv_read_start` succeeds. -/
theorem ReadEntry.accepted {state entered : State Fib} {fib : Fib} {action : Action Fib}
    {status : Int} {call : ReadCall}
    (entry : ReadEntry state fib action status call entered)
    (readers : ReadersOnly state action) : 0 ≤ status := by
  cases entry with
  | start _ _ _ => exact readers.2
  | again _ _ _ _ _ _ => exact readers

structure Partition (state : State Fib) : Prop where
  isOpen : ∀ fib notified call, state.fiber fib = .waitRead notified call →
    state.closed = false
  reported : ∀ fib call, state.fiber fib = .waitRead true call → state.len ≠ errorReadFailed
  eofOnly : ∀ fib, (state.fiber fib).InClose → (state.fiber fib).InEofClose
  /-- What was delivered and not yet handed out lies in the reader's buffer. -/
  arrived : ∀ fib call, state.fiber fib = .waitRead true call → 0 ≤ state.len →
    state.tcp.delivered =
      chunkBytes state.log ++ state.memory.load call.buf (toSize state.len)
  handedOut : (∀ fib call, state.fiber fib = .waitRead true call → state.len < 0) →
    state.tcp.delivered = chunkBytes state.log
  /-- The chunks of the call in progress are in its buffer. -/
  active : ∀ fib call, (state.fiber fib).activeRead = some call →
    chunkBytes state.log = obtained state.log ++ state.memory.load call.base call.filled
  sized : ∀ fib call, (state.fiber fib).activeRead = some call → call.Sized
  free : state.closed = false → NoReader state → chunkBytes state.log = obtained state.log
  kept : obtained state.log <+: chunkBytes state.log

namespace Partition

variable {state after : State Fib} {fib : Fib}

theorem initial (memory : Memory UInt8) : Partition (initial memory : State Fib) := by
  constructor
  · intro fib notified call waits
    cases waits
  · intro fib call waits
    cases waits
  · intro fib inside
    obtain ⟨closer, serial, promise, shut | closing⟩ := inside
    · cases shut
    · cases closing
  · intro fib call waits
    cases waits
  · exact fun _ => rfl
  · intro fib call active
    cases active
  · intro fib call active
    cases active
  · exact fun _ _ => rfl
  · exact List.prefix_rfl

/-- Whoever reads, reads on; nothing is delivered or handed out. -/
theorem congr (partition : Partition state) (events : List (Event Fib))
    (log : after.log = state.log ++ events) (noChunk : chunkBytes events = [])
    (noResult : obtained events = [])
    (readers : ∀ fib notified call, after.fiber fib = .waitRead notified call ↔
      state.fiber fib = .waitRead notified call)
    (active : ∀ fib call, (after.fiber fib).activeRead = some call →
      (state.fiber fib).activeRead = some call)
    (eofOnly : ∀ fib, (after.fiber fib).InClose → (after.fiber fib).InEofClose)
    (closed : after.closed = state.closed) (len : after.len = state.len)
    (memory : after.memory = state.memory)
    (delivered : after.tcp.delivered = state.tcp.delivered) : Partition after := by
  have chunks : chunkBytes after.log = chunkBytes state.log := by
    rw [log, chunkBytes_append, noChunk, List.append_nil]
  have results : obtained after.log = obtained state.log := by
    rw [log, obtained_append, noResult, List.append_nil]
  constructor
  · simpa only [readers, closed] using partition.isOpen
  · simpa only [readers, len] using partition.reported
  · exact eofOnly
  · simpa only [readers, len, memory, delivered, chunks] using partition.arrived
  · simpa only [readers, len, delivered, chunks] using partition.handedOut
  · intro fib call isActive
    rw [chunks, results, memory]
    exact partition.active fib call (active fib call isActive)
  · exact fun fib call isActive => partition.sized fib call (active fib call isActive)
  · simpa only [NoReader, ne_eq, readers, closed, chunks, results] using partition.free
  · rw [chunks, results]
    exact partition.kept

/-- No reader is left, and everything that was delivered is handed out. -/
theorem ofNoReader (none : NoReader after)
    (eofOnly : ∀ fib, (after.fiber fib).InClose → (after.fiber fib).InEofClose)
    (handedOut : after.tcp.delivered = chunkBytes after.log)
    (active : ∀ fib call, (after.fiber fib).activeRead = some call →
      chunkBytes after.log = obtained after.log ++ after.memory.load call.base call.filled)
    (sized : ∀ fib call, (after.fiber fib).activeRead = some call → call.Sized)
    (free : after.closed = false → chunkBytes after.log = obtained after.log)
    (kept : obtained after.log <+: chunkBytes after.log) : Partition after := by
  constructor
  · exact fun fib notified call waits => absurd waits (none fib notified call)
  · exact fun fib call waits => absurd waits (none fib true call)
  · exact eofOnly
  · exact fun fib call waits => absurd waits (none fib true call)
  · exact fun _ => handedOut
  · exact active
  · exact sized
  · exact fun isOpen _ => free isOpen
  · exact kept

variable [DecidableEq Fib]

/-- A fiber that is not waiting for bytes moves on. -/
theorem move {value : Fiber} (partition : Partition state) (events : List (Event Fib))
    (log : after.log = state.log ++ events) (noChunk : chunkBytes events = [])
    (noResult : obtained events = [])
    (fibers : after.fiber = Function.update state.fiber fib value)
    (notReader : ∀ notified call, state.fiber fib ≠ .waitRead notified call)
    (stays : ∀ notified call, value ≠ .waitRead notified call)
    (active : ∀ call, value.activeRead = some call →
      (state.fiber fib).activeRead = some call)
    (eofOnly : value.InClose → value.InEofClose)
    (closed : after.closed = state.closed) (len : after.len = state.len)
    (memory : after.memory = state.memory)
    (delivered : after.tcp.delivered = state.tcp.delivered) : Partition after := by
  refine partition.congr events log noChunk noResult ?_ ?_ ?_ closed len memory delivered
  · intro other notified call
    rw [fibers]
    by_cases same : other = fib
    · subst same
      simp [notReader, stays]
    · simp [same]
  · intro other call isActive
    rw [fibers] at isActive
    by_cases same : other = fib
    · subst same
      rw [Function.update_self] at isActive
      exact active call isActive
    · rwa [Function.update_of_ne same] at isActive
  · intro other inside
    rw [fibers] at inside ⊢
    by_cases same : other = fib
    · subst same
      rw [Function.update_self] at inside ⊢
      exact eofOnly inside
    · rw [Function.update_of_ne same] at inside ⊢
      exact partition.eofOnly other inside

end Partition

section Active

variable {state : State Fib} {fib : Fib}

theorem Fiber.activeRead_cases {fiber : Fiber} {call : ReadCall}
    (active : fiber.activeRead = some call) :
    (∃ notified, fiber = .waitRead notified call) ∨
      ((∃ serial promise, fiber = .wait (.shutdown (.eof call)) serial promise ∨
        fiber = .wait (.closeHandle (.eof call)) serial promise) ∧ fiber.InEofClose) := by
  unfold Fiber.activeRead at active
  split at active
  · cases active
    exact .inl ⟨_, rfl⟩
  · cases active
    exact .inr ⟨⟨_, _, .inl rfl⟩, _, _, _, .inl rfl⟩
  · cases active
    exact .inr ⟨⟨_, _, .inr rfl⟩, _, _, _, .inr rfl⟩
  · cases active

theorem Fiber.InEofClose.inClose {fiber : Fiber} (inside : fiber.InEofClose) : fiber.InClose := by
  obtain ⟨call, serial, promise, awaits⟩ := inside
  exact ⟨.eof call, serial, promise, awaits⟩

/-- While a fiber waits for bytes it is the only one with a read under way. -/
theorem ReaderOwns.onlyActive {notified : Bool} {call : ReadCall} (owns : ReaderOwns state)
    (waits : state.fiber fib = .waitRead notified call) (other : Fib) (call' : ReadCall)
    (active : (state.fiber other).activeRead = some call') : other = fib := by
  rcases Fiber.activeRead_cases active with ⟨notified', waits'⟩ | ⟨_, inside⟩
  · exact owns.single _ _ _ _ _ _ waits' waits
  · have busy := owns.reading _ _ _ waits
    exact absurd (busy.symm.trans (owns.ended _ inside)) (by decide)

/-- While a fiber closes the socket at an EOF nobody waits for bytes. -/
theorem ReaderOwns.noReader_of_eof (owns : ReaderOwns state)
    (inside : (state.fiber fib).InEofClose) : NoReader state := by
  intro other notified call waits
  have busy := owns.reading _ _ _ waits
  exact absurd (busy.symm.trans (owns.ended _ inside)) (by decide)

theorem ReaderOwns.onlyEof (owns : ReaderOwns state) (owned : Owned state)
    (inside : (state.fiber fib).InEofClose) (other : Fib) (call' : ReadCall)
    (active : (state.fiber other).activeRead = some call') : other = fib := by
  rcases Fiber.activeRead_cases active with ⟨notified', waits'⟩ | ⟨_, inside'⟩
  · exact absurd waits' (owns.noReader_of_eof inside _ _ _)
  · exact owned.alone _ _ inside'.inClose inside.inClose

/-- A woken reader on an open socket that met no error and no EOF has a count
within its size. -/
theorem ReaderOwns.count {call : ReadCall} (owns : ReaderOwns state)
    (woken : state.fiber fib = .waitRead true call) (isOpen : state.closed = false)
    (notEof : state.len ≠ errorEof) (notFailed : state.len ≠ errorReadFailed) :
    0 ≤ state.len ∧ toSize state.len ≤ call.size := by
  rcases owns.notified _ _ woken with closed | ⟨_, reported⟩
  · exact absurd (isOpen.symm.trans closed) (by decide)
  · refine ⟨?_, reported.count_le notEof notFailed (owns.sized _ _ _ woken).size_lt⟩
    rcases reported with eof | failed | ⟨nonnegative, _⟩
    · exact absurd eof notEof
    · exact absurd failed notFailed
    · exact nonnegative

end Active

/-! ## Every step keeps the partition -/

section Preservation

variable [DecidableEq Fib] {state after entered : State Fib} {fib : Fib} {action : Action Fib}

theorem Fiber.activeRead_notify {fiber : Fiber} : fiber.notify.activeRead = fiber.activeRead := by
  cases fiber <;> rfl

omit [DecidableEq Fib] in
/-- The only fiber with a read under way leaves its operation. -/
theorem Partition.leave (partition : Partition state)
    (sole : ∀ other call, (state.fiber other).activeRead = some call → other = fib)
    (left : ∃ last, after.fiber fib = .idle last)
    (others : ∀ other, other ≠ fib → after.fiber other = state.fiber other ∨
      after.fiber other = (state.fiber other).notify)
    (handedOut : after.tcp.delivered = chunkBytes after.log)
    (free : after.closed = false → chunkBytes after.log = obtained after.log)
    (kept : obtained after.log <+: chunkBytes after.log) : Partition after := by
  obtain ⟨last, left⟩ := left
  have noActive : ∀ other call, (after.fiber other).activeRead ≠ some call := by
    intro other call active
    by_cases same : other = fib
    · rw [same, left] at active
      cases active
    · have earlier : (state.fiber other).activeRead = some call := by
        rcases others other same with unchanged | notified
        · rwa [unchanged] at active
        · rwa [notified, Fiber.activeRead_notify] at active
      exact same (sole other call earlier)
  refine .ofNoReader ?_ ?_ handedOut (fun other call active => absurd active (noActive _ _))
    (fun other call active => absurd active (noActive _ _)) free kept
  · intro other notified call waits
    exact noActive other call (by rw [waits]; rfl)
  · intro other inside
    by_cases same : other = fib
    · rw [same, left] at inside
      obtain ⟨_, _, _, shut | closing⟩ := inside
      · cases shut
      · cases closing
    · rcases others other same with unchanged | notified
      · rw [unchanged] at inside ⊢
        exact partition.eofOnly other inside
      · rw [notified, Fiber.inClose_notify_iff] at inside
        obtain ⟨call, serial, promise, awaits⟩ := partition.eofOnly other inside
        rw [notified]
        exact ⟨call, serial, promise, by simpa using awaits⟩

omit [DecidableEq Fib] in
/-- The reader, woken with bytes, takes them. -/
theorem Partition.taken {call : ReadCall} (partition : Partition state) (owns : ReaderOwns state)
    (woken : state.fiber fib = .waitRead true call) (nonnegative : 0 ≤ state.len) :
    state.tcp.delivered = chunkBytes (state.log ++
        [.chunk call.id (state.memory.load call.buf (toSize state.len))]) ∧
      chunkBytes (state.log ++
          [.chunk call.id (state.memory.load call.buf (toSize state.len))]) =
        obtained state.log ++
          state.memory.load call.base (call.filled + toSize state.len) := by
  have sized := owns.sized _ _ _ woken
  have active := partition.active fib call (by rw [woken]; rfl)
  have chunk : chunkBytes (state.log ++
      [.chunk call.id (state.memory.load call.buf (toSize state.len))]) =
        chunkBytes state.log ++ state.memory.load call.buf (toSize state.len) := by
    simp [chunkBytes, Event.chunkBytes]
  rw [chunk]
  refine ⟨partition.arrived _ _ woken nonnegative, ?_⟩
  rw [active, sized.load_next, List.append_assoc]

/-- The operation returns what it obtained. -/
theorem Partition.returns {call : ReadCall} {len : Int} (partition : Partition state)
    (owns : ReaderOwns state) (ends : ReadWoken state fib call len)
    (last : call.continues (toSize len) state.closed = false) :
    Partition ((state.leaveRead call len (toSize len)).finishRead fib call (toSize len)) := by
  have woken := ends.woken
  have isOpen : state.closed = false := partition.isOpen _ _ _ woken
  have same : len = state.len := by rw [ends.len_eq, isOpen]; rfl
  have notEof : state.len ≠ errorEof := by
    intro atEof
    exact absurd (isOpen.symm.trans (ends.eofClosed atEof)) (by decide)
  obtain ⟨nonnegative, within⟩ := owns.count woken isOpen notEof ends.noError
  subst same
  obtain ⟨delivered, chunks⟩ := partition.taken owns woken nonnegative
  have result := (owns.sized _ _ _ woken).result state.memory within last
  obtain ⟨after, after_eq⟩ : ∃ after, after =
      (state.leaveRead call state.len (toSize state.len)).finishRead fib call
        (toSize state.len) := ⟨_, rfl⟩
  have log : after.log = state.log ++
      [.chunk call.id (state.memory.load call.buf (toSize state.len))] ++
      [.finished fib .read (.returned (call.result state.memory (toSize state.len)))] := by
    rw [after_eq]
    simp
  have handedOut : after.tcp.delivered = chunkBytes after.log := by
    rw [log, chunkBytes_append, ← delivered, after_eq]
    simp [chunkBytes, Event.chunkBytes]
  have whole : chunkBytes after.log = obtained after.log := by
    rw [log, chunkBytes_append, chunks, obtained_append, obtained_append, result]
    simp [chunkBytes, obtained, Event.chunkBytes, Event.obtained]
  rw [← after_eq]
  refine partition.leave (owns.onlyActive woken) ?_ ?_ handedOut (fun _ => whole) (by rw [whole])
  · rw [after_eq]
    exact ⟨_, by simp; rfl⟩
  · intro other differs
    rw [after_eq]
    exact .inl (by simp [differs])

/-- The loop of the operation reads on into the rest of its buffer. -/
theorem Partition.admit {status : Int} {call : ReadCall} (partition : Partition state)
    (owns : ReaderOwns state) (owned : Owned state) (readers : ReadersOnly state action)
    (entry : ReadEntry state fib action status call entered) (isOpen : entered.closed = false)
    (free : entered.reading = false) :
    Partition ((entered.beginRead call).watch.setFiber fib (.waitRead false call)) := by
  obtain ⟨fibers, _, _, others⟩ := entry.alone owns free
  have closers := (entry.owned owned).noCloser isOpen
  -- The bytes up to here are handed out, and those of this call are in its buffer.
  have taken : entered.tcp.delivered = chunkBytes entered.log ∧
      chunkBytes entered.log =
        obtained entered.log ++ entered.memory.load call.base call.filled := by
    cases entry with
    | start idle _ first =>
        have none : NoReader state := by
          intro other notified call' waits
          have same := others _ _ _ waits
          subst same
          rw [waits] at idle
          cases idle
        have unfilled : call.filled = 0 := (ReadRequest.Sized.first readers.1 first).2.2
        refine ⟨partition.handedOut fun other call' waits => absurd waits (none _ _ _), ?_⟩
        rw [unfilled, Memory.load_zero, List.append_nil]
        exact partition.free isOpen none
    | @again call _ woken _ _ notEof notFailed continues =>
        obtain ⟨nonnegative, within⟩ := owns.count woken isOpen notEof notFailed
        obtain ⟨delivered, chunks⟩ := partition.taken owns woken nonnegative
        obtain ⟨_, _, base, _, filled⟩ := (owns.sized _ _ _ woken).next within continues
        refine ⟨delivered, ?_⟩
        rw [base, filled]
        simpa [obtained, Event.obtained] using chunks
  obtain ⟨delivered, chunks⟩ := taken
  obtain ⟨after, after_eq⟩ : ∃ after, after =
      (entered.beginRead call).watch.setFiber fib (.waitRead false call) := ⟨_, rfl⟩
  have log : after.log = entered.log ++ [.admitted call.id, .uvReadStart] := by
    rw [after_eq]
    simp
  have sameChunks : chunkBytes after.log = chunkBytes entered.log := by
    rw [log]
    simp [chunkBytes, Event.chunkBytes]
  have sameResults : obtained after.log = obtained entered.log := by
    rw [log]
    simp [obtained, Event.obtained]
  have fiberAt : after.fiber fib = .waitRead false call := by
    rw [after_eq]
    simp
  have elsewhere : ∀ other, other ≠ fib → after.fiber other = state.fiber other := by
    intro other differs
    rw [after_eq]
    simp [differs, fibers]
  have unwoken : ∀ other call', after.fiber other ≠ .waitRead true call' := by
    intro other call' waits
    by_cases same : other = fib
    · rw [same, fiberAt] at waits
      cases waits
    · rw [elsewhere other same] at waits
      exact same (others _ _ _ waits)
  have memory : after.memory = entered.memory := by
    rw [after_eq]
    simp
  have handle : after.tcp.delivered = entered.tcp.delivered := by
    rw [after_eq]
    simp
  rw [← after_eq]
  constructor
  · intro _ _ _ _
    rw [after_eq]
    simpa using isOpen
  · exact fun other call' waits => absurd waits (unwoken _ _)
  · intro other inside
    by_cases same : other = fib
    · rw [same, fiberAt] at inside
      obtain ⟨_, _, _, shut | closing⟩ := inside
      · cases shut
      · cases closing
    · rw [elsewhere other same, ← fibers] at inside
      exact absurd inside (closers other)
  · exact fun other call' waits => absurd waits (unwoken _ _)
  · intro _
    rw [handle, sameChunks, delivered]
  · intro other call' active
    rw [sameChunks, sameResults, memory, chunks]
    by_cases same : other = fib
    · rw [same, fiberAt] at active
      cases active
      rfl
    · rw [elsewhere other same] at active
      rcases Fiber.activeRead_cases active with ⟨notified, waits⟩ | ⟨_, inside⟩
      · exact absurd (others _ _ _ waits) same
      · exact absurd (fibers ▸ inside.inClose) (closers other)
  · intro other call' active
    by_cases same : other = fib
    · rw [same, fiberAt] at active
      cases active
      exact entry.sized owns readers.sized
    · rw [elsewhere other same] at active
      exact partition.sized other call' active
  · intro _ none
    exact absurd fiberAt (none _ _ _)
  · rw [sameChunks, sameResults, chunks]
    exact List.prefix_append _ _

/-- The stream has ended: the reader closes the socket and keeps its bytes. -/
theorem Partition.enterEof {call : ReadCall} {waiting : Waiting} {serial : Nat}
    (partition : Partition state) (owns : ReaderOwns state) (events : List (Event Fib))
    (woken : state.fiber fib = .waitRead true call) (atEof : state.len = errorEof)
    (log : after.log = state.log ++ events) (noChunk : chunkBytes events = [])
    (noResult : obtained events = [])
    (fibers : after.fiber = Function.update state.fiber fib (.wait waiting serial .unset))
    (eof : waiting = .shutdown (.eof call) ∨ waiting = .closeHandle (.eof call))
    (closed : after.closed = true) (memory : after.memory = state.memory)
    (delivered : after.tcp.delivered = state.tcp.delivered) : Partition after := by
  have chunks : chunkBytes after.log = chunkBytes state.log := by
    rw [log, chunkBytes_append, noChunk, List.append_nil]
  have results : obtained after.log = obtained state.log := by
    rw [log, obtained_append, noResult, List.append_nil]
  have elsewhere : ∀ other, other ≠ fib → after.fiber other = state.fiber other := by
    intro other differs
    rw [fibers, Function.update_of_ne differs]
  have fiberAt : after.fiber fib = .wait waiting serial .unset := by
    rw [fibers, Function.update_self]
  have handedOut : state.tcp.delivered = chunkBytes state.log := by
    apply partition.handedOut
    intro other call' waits
    rw [atEof]
    decide
  have only : ∀ other call', (after.fiber other).activeRead = some call' → call' = call := by
    intro other call' active
    by_cases same : other = fib
    · rw [same, fiberAt] at active
      rcases eof with rfl | rfl
      · exact (Option.some.inj active).symm
      · exact (Option.some.inj active).symm
    · rw [elsewhere other same] at active
      exact absurd (owns.onlyActive woken _ _ active) same
  refine .ofNoReader ?_ ?_ ?_ ?_ ?_ ?_ ?_
  · intro other notified call' waits
    by_cases same : other = fib
    · rw [same, fiberAt] at waits
      cases waits
    · rw [elsewhere other same] at waits
      exact same (owns.single _ _ _ _ _ _ waits woken)
  · intro other inside
    by_cases same : other = fib
    · rw [same, fiberAt]
      rcases eof with rfl | rfl
      · exact ⟨call, serial, _, .inl rfl⟩
      · exact ⟨call, serial, _, .inr rfl⟩
    · rw [elsewhere other same] at inside ⊢
      exact partition.eofOnly other inside
  · rw [delivered, chunks, handedOut]
  · intro other call' active
    rw [chunks, results, memory, only other call' active]
    exact partition.active fib call (by rw [woken]; rfl)
  · intro other call' active
    rw [only other call' active]
    exact owns.sized _ _ _ woken
  · intro isOpen
    exact absurd (closed.symm.trans isOpen) (by decide)
  · rw [chunks, results]
    exact partition.kept

omit [DecidableEq Fib] in
/-- A read callback puts its bytes into the reader's buffer, behind those the
operation has already obtained. -/
theorem Partition.deliver {nread len : Int} {bytes : List UInt8} (partition : Partition state)
    (owns : ReaderOwns state) (readers : ReadersOnly state (.readCallback nread bytes))
    (watching : state.tcp.watching = true)
    (deliverable : state.canDeliver nread bytes = true)
    (code : (0 ≤ nread ∧ len = nread) ∨ (nread = uvEof ∧ len = errorEof) ∨
      (nread < 0 ∧ nread ≠ uvEof ∧ len = errorReadFailed))
    (log : after.log = state.log ++ [.readCallback nread, .uvReadStop, .notifyAll])
    (fibers : ∀ other, after.fiber other = (state.fiber other).notify)
    (closed : after.closed = state.closed) (lenEq : after.len = len)
    (memory : after.memory = state.memory.store state.allocCallback.1 bytes)
    (delivered : after.tcp.delivered = state.tcp.delivered ++ bytes) : Partition after := by
  obtain ⟨reader, call, waits⟩ := owns.watching watching
  obtain ⟨bufEq, lenIs, _⟩ := owns.blocked _ _ waits
  have sized := owns.sized _ _ _ waits
  have chunks : chunkBytes after.log = chunkBytes state.log := by
    rw [log]
    simp [chunkBytes, Event.chunkBytes]
  have results : obtained after.log = obtained state.log := by
    rw [log]
    simp [obtained, Event.obtained]
  have handedOut : state.tcp.delivered = chunkBytes state.log := by
    apply partition.handedOut
    intro other call' waits'
    have same : other = reader := owns.single _ _ _ _ _ _ waits' waits
    rw [same, waits] at waits'
    cases waits'
  have only : ∀ other call', (after.fiber other).activeRead = some call' →
      other = reader ∧ call' = call := by
    intro other call' active
    rw [fibers, Fiber.activeRead_notify] at active
    have same := owns.onlyActive waits _ _ active
    rw [same, waits] at active
    exact ⟨same, (Option.some.inj active).symm⟩
  have woken : ∀ other notified call', after.fiber other = .waitRead notified call' →
      call' = call := by
    intro other notified call' waits'
    exact (only other call' (by rw [waits']; rfl)).2
  have offered : state.allocCallback.1 = call.buf := bufEq
  -- libuv reports exactly the bytes it stored; an end of stream carries none.
  have count : (0 ≤ nread → nread = bytes.length) ∧ (nread < 0 → bytes = []) := by
    unfold State.canDeliver at deliverable
    have size : state.allocCallback.2 = call.size := by
      unfold State.allocCallback
      rw [lenIs, toSize_natCast sized.size_lt]
    have nonempty := sized.nonempty
    rw [offered, size, if_neg (by have := sized.buffer; omega)] at deliverable
    split at deliverable
    · simp only [decide_eq_true_eq] at deliverable
      exact ⟨fun _ => deliverable.1, fun negative => by omega⟩
    · simp only [decide_eq_true_eq] at deliverable
      exact ⟨fun nonnegative => by omega, fun _ => deliverable⟩
  have notFailed : len ≠ errorReadFailed := by
    rcases code with ⟨nonnegative, rfl⟩ | ⟨_, rfl⟩ | ⟨negative, notEof, _⟩
    · intro failed
      rw [failed] at nonnegative
      exact absurd nonnegative (by decide)
    · decide
    · rcases readers with nonnegative | eof
      · omega
      · exact absurd eof notEof
  constructor
  · intro other notified call' _
    rw [closed]
    exact partition.isOpen _ _ _ waits
  · intro other call' _
    rw [lenEq]
    exact notFailed
  · intro other inside
    rw [fibers, Fiber.inClose_notify_iff] at inside
    have ending := partition.eofOnly other inside
    have busy := owns.reading _ _ _ waits
    exact absurd (busy.symm.trans (owns.ended _ ending)) (by decide)
  · intro other call' waits' nonnegative
    obtain rfl := woken _ _ _ waits'
    have isCount : len = bytes.length := by
      rcases code with ⟨nonneg, rfl⟩ | ⟨_, rfl⟩ | ⟨_, _, rfl⟩
      · exact count.1 nonneg
      · rw [lenEq] at nonnegative
        exact absurd nonnegative (by decide)
      · exact absurd rfl notFailed
    have short : bytes.length < 2 ^ 63 := by
      have reported := owns.delivered waits deliverable code
      have bound := sized.size_lt
      rcases reported with eof | failed | ⟨_, le⟩
      · rw [lenEq, eof] at nonnegative
        exact absurd nonnegative (by decide)
      · exact absurd failed notFailed
      · omega
    rw [delivered, handedOut, chunks, lenEq, isCount, toSize_natCast short, memory, offered,
      Memory.load_store_same]
  · intro allNegative
    have negative : len < 0 := by
      have now : after.fiber reader = .waitRead true call := by
        rw [fibers, waits]
        rfl
      have := allNegative reader call now
      omega
    have isEof : nread < 0 := by
      rcases code with ⟨nonneg, rfl⟩ | ⟨eof, _⟩ | ⟨below, _, _⟩
      · omega
      · rw [eof]
        decide
      · exact below
    rw [delivered, count.2 isEof, List.append_nil, handedOut, chunks]
  · intro other call' active
    obtain ⟨_, rfl⟩ := only other call' active
    rw [chunks, results, memory, offered, Memory.load_store_below]
    · exact partition.active reader call' (by rw [waits]; rfl)
    · exact sized.place.ge
  · intro other call' active
    rw [(only other call' active).2]
    exact sized
  · intro _ none
    exact absurd (show after.fiber reader = .waitRead true call by rw [fibers, waits]; rfl)
      (none _ _ _)
  · rw [chunks, results]
    exact partition.kept

theorem Fiber.Unbound.notActive {fiber : Fiber} (unbound : fiber.Unbound) :
    fiber.activeRead = none := by
  rcases unbound with idle | ⟨waiting, serial, result, rfl, kinds⟩
  · cases fiber with
    | idle last => rfl
    | waitRead notified call => cases idle
    | wait waiting serial promise => cases idle
  · rcases kinds with rfl | rfl | rfl <;> rfl

/-- A fiber that neither reads nor closes moves on. -/
theorem Partition.unbound {value : Fiber} (partition : Partition state)
    (events : List (Event Fib)) (log : after.log = state.log ++ events)
    (noChunk : chunkBytes events = []) (noResult : obtained events = [])
    (fibers : after.fiber = Function.update state.fiber fib value)
    (unbound : (state.fiber fib).Unbound) (stays : value.activeRead = none)
    (outside : ¬ value.InClose) (closed : after.closed = state.closed)
    (len : after.len = state.len) (memory : after.memory = state.memory)
    (delivered : after.tcp.delivered = state.tcp.delivered) : Partition after := by
  refine partition.move events log noChunk noResult fibers unbound.notReader ?_ ?_ ?_ closed len
    memory delivered
  · intro notified call waits
    rw [waits] at stays
    cases stays
  · intro call active
    rw [stays] at active
    cases active
  · exact fun inside => absurd inside outside

omit [DecidableEq Fib] in
theorem QuietEvent.silent {event : Event Fib} (quiet : QuietEvent state fib action event) :
    event.chunkBytes = [] ∧ event.obtained = [] := by
  cases quiet <;> exact ⟨rfl, rfl⟩

omit [DecidableEq Fib] in
/-- The fiber that closed the socket at the end of the stream leaves `read`. -/
theorem Partition.leaveEof {call : ReadCall} {serial : Nat}
    {promise : PromiseState} (partition : Partition state) (owns : ReaderOwns state)
    (owned : Owned state)
    (awaits : state.fiber fib = .wait (.shutdown (.eof call)) serial promise ∨
      state.fiber fib = .wait (.closeHandle (.eof call)) serial promise)
    (events : List (Event Fib)) (log : after.log = state.log ++ events)
    (noChunk : chunkBytes events = [])
    (result : obtained events = [] ∨
      obtained events = state.memory.load call.base call.filled)
    (left : ∃ last, after.fiber fib = .idle last)
    (others : ∀ other, other ≠ fib → after.fiber other = state.fiber other ∨
      after.fiber other = (state.fiber other).notify)
    (closed : after.closed = state.closed)
    (delivered : after.tcp.delivered = state.tcp.delivered) : Partition after := by
  have inside : (state.fiber fib).InEofClose := ⟨call, serial, promise, awaits⟩
  have active : (state.fiber fib).activeRead = some call := by
    rcases awaits with shut | closing
    · rw [shut]
      rfl
    · rw [closing]
      rfl
  have chunks : chunkBytes after.log = chunkBytes state.log := by
    rw [log, chunkBytes_append, noChunk, List.append_nil]
  have noReader := owns.noReader_of_eof inside
  refine partition.leave (owns.onlyEof owned inside) left others ?_ ?_ ?_
  · rw [delivered, chunks]
    exact partition.handedOut fun other call' waits => absurd waits (noReader _ _ _)
  · intro isOpen
    have isClosed := owned.closers fib inside.inClose
    rw [closed] at isOpen
    exact absurd (isOpen.symm.trans isClosed) (by decide)
  · rw [chunks, log, obtained_append]
    rcases result with none | whole
    · rw [none, List.append_nil]
      exact partition.kept
    · rw [whole, ← partition.active fib call active]

theorem Transition.partition (transition : Transition state action after)
    (owned : Owned state) (owns : ReaderOwns state) (partition : Partition state)
    (readers : ReadersOnly state action) : Partition after := by
  cases transition with
  | @ends events fib _ operation outcome _ unbound _ _ quiet empty _ _ =>
      have noChunk : chunkBytes (events ++ [.finished fib operation outcome]) = [] := by
        simp only [chunkBytes, List.flatMap_append, List.flatMap_cons, List.flatMap_nil,
          Event.chunkBytes, List.append_nil, List.flatMap_eq_nil_iff]
        exact fun event member => (quiet event member).silent.1
      have noResult : obtained (events ++ [.finished fib operation outcome]) = [] := by
        simp only [obtained, List.flatMap_append, List.flatMap_cons, List.flatMap_nil,
          List.append_nil, List.append_eq_nil_iff, List.flatMap_eq_nil_iff]
        refine ⟨fun event member => (quiet event member).silent.2, ?_⟩
        cases operation <;> cases outcome <;> first | rfl | exact empty _ rfl
      exact partition.unbound _ (by simp) noChunk noResult rfl unbound rfl
        (Fiber.idle_promiseless rfl).notInClose (by simp) (by simp) (by simp) (by simp)
  | resolves idle _ =>
      exact partition.unbound [.uvGetaddrinfo] (by simp) rfl rfl rfl (.inl idle) rfl
        (Fiber.wait_notInClose rfl) (by simp) (by simp) (by simp) (by simp)
  | connects resolved =>
      exact partition.unbound [.uvTcpConnect] (by simp) rfl rfl rfl
        (.inr ⟨_, _, _, resolved, .inl rfl⟩) rfl (Fiber.wait_notInClose rfl) (by simp) (by simp)
        (by simp) (by simp)
  | writes idle _ _ =>
      exact partition.unbound [.uvWrite] (by simp) rfl rfl rfl (.inl idle) rfl
        (Fiber.wait_notInClose rfl) (by simp) (by simp) (by simp) (by simp)
  | admits entry isOpen free _ => exact partition.admit owns owned readers entry isOpen free
  | rejects entry _ _ failed =>
      rw [checkUvStatus_ok (entry.accepted readers)] at failed
      cases failed
  | readsNull entry _ _ null => exact absurd null (entry.sized owns readers.sized).buffer
  | waitsAgain woken unfinished isOpen =>
      rcases owns.notified _ _ woken with closed | ⟨finished, _⟩
      · exact absurd (isOpen.symm.trans closed) (by decide)
      · exact absurd finished unfinished
  | readFails woken _ failed => exact absurd failed (partition.reported _ _ woken)
  | readReturns ends last => exact partition.returns owns ends last
  | readStops ends closed =>
      exact absurd ((partition.isOpen _ _ _ ends.woken).symm.trans closed) (by decide)
  | shutsDown entry _ _ =>
      cases entry with
      | user _ => exact readers.elim
      | destructor _ => exact readers.elim
      | eof woken _ atEof =>
          exact partition.enterEof owns [.uvShutdown] woken atEof (by simp) rfl rfl rfl (.inl rfl)
            (by simp) (by simp) (by simp)
  | closesAtOnce entry _ _ =>
      cases entry with
      | user _ => exact readers.elim
      | destructor _ => exact readers.elim
      | eof woken _ atEof =>
          exact partition.enterEof owns [.uvShutdown, .uvClose] woken atEof (by simp) rfl rfl rfl
            (.inr rfl) (by simp) (by simp) (by simp)
  | closeFails entry isOpen _ _ =>
      cases entry with
      | user _ => exact readers.elim
      | destructor _ => exact readers.elim
      | eof woken _ atEof =>
          have handedOut : state.tcp.delivered = chunkBytes state.log := by
            apply partition.handedOut
            intro _ _ _
            rw [atEof]
            decide
          refine partition.leave (owns.onlyActive woken) ⟨_, Function.update_self _ _ _⟩ ?_ ?_ ?_
            ?_
          · intro other differs
            exact .inl (Function.update_of_ne differs _ _)
          · simpa [State.closeThrew, chunkBytes, Event.chunkBytes] using handedOut
          · simp [State.closeThrew]
          · simpa [State.closeThrew, chunkBytes, obtained, Event.chunkBytes, Event.obtained]
              using partition.kept
  | closes shut _ =>
      obtain ⟨call, _, _, isShutdown | isHandle⟩ :=
        partition.eofOnly _ ⟨_, _, _, .inl shut⟩
      · rw [shut] at isShutdown
        cases isShutdown
        exact partition.move [.uvClose] (by simp) rfl rfl rfl (by simp [shut]) (by simp)
          (fun call' active => by rw [shut]; exact active)
          (fun _ => ⟨call, _, _, .inr rfl⟩) (by simp) (by simp) (by simp) (by simp)
      · rw [shut] at isHandle
        cases isHandle
  | @shutdownFails fib _ _ exc _ shut _ =>
      obtain ⟨call, _, _, isShutdown | isHandle⟩ :=
        partition.eofOnly _ ⟨_, _, _, .inl shut⟩
      · rw [shut] at isShutdown
        cases isShutdown
        exact partition.leaveEof owns owned (.inl shut)
          [.closeThrew exc, .finished fib .read (.threw exc)] (by simp [State.closeThrew]) rfl
          (.inl rfl) ⟨_, Function.update_self _ _ _⟩
          (fun other differs => .inl (Function.update_of_ne differs _ _))
          (by simp [State.closeThrew]) (by simp [State.closeThrew])
      · rw [shut] at isHandle
        cases isHandle
  | closeReturnsToUser ran =>
      obtain ⟨call, _, _, isShutdown | isHandle⟩ := partition.eofOnly _ ⟨_, _, _, .inr ran⟩
      · rw [ran] at isShutdown
        cases isShutdown
      · rw [ran] at isHandle
        cases isHandle
  | closeReturnsToDestructor ran =>
      obtain ⟨call, _, _, isShutdown | isHandle⟩ := partition.eofOnly _ ⟨_, _, _, .inr ran⟩
      · rw [ran] at isShutdown
        cases isShutdown
      · rw [ran] at isHandle
        cases isHandle
  | @closeReturnsToRead fib call _ _ _ ran _ last =>
      have sized := partition.sized fib call (by rw [ran]; rfl)
      have result := sized.result state.memory (Nat.zero_le _) last
      exact partition.leaveEof owns owned (.inr ran)
        [.notifyAll, .closeReturned, .chunk call.id [],
          .finished fib .read (.returned (call.result state.memory 0))] (by simp) rfl
        (.inr (by simp [obtained, Event.obtained, result])) ⟨_, Function.update_self _ _ _⟩
        (fun other differs => .inr (by simp [differs])) (by simp) (by simp)
  | @closeStopsRead fib call _ _ _ ran _ =>
      exact partition.leaveEof owns owned (.inr ran)
        [.notifyAll, .closeReturned, .chunk call.id [],
          .finished fib .read (.threw .socketClosedError)] (by simp) rfl (.inl rfl)
        ⟨_, Function.update_self _ _ _⟩ (fun other differs => .inr (by simp [differs])) (by simp)
        (by simp)
  | destroysClosed _ _ => exact readers.elim
  | @completes id status request waiting _ _ awaits =>
      refine partition.move [.callback id status] (by simp) rfl rfl rfl (by simp [awaits])
        (by simp) ?_ ?_ (by simp) (by simp) (by simp) (by simp)
      · intro call active
        rw [awaits, Fiber.activeRead_wait]
        exact active
      · intro inside
        obtain ⟨call, serial, promise, ending⟩ : (state.fiber request.data.fiber).InEofClose := by
          apply partition.eofOnly
          rw [awaits]
          obtain ⟨closer, _, _, shut | closing⟩ := inside
          · cases shut
            exact ⟨closer, _, _, .inl rfl⟩
          · cases closing
            exact ⟨closer, _, _, .inr rfl⟩
        rw [awaits] at ending
        rcases ending with shut | closing
        · cases shut
          exact ⟨call, _, _, .inl rfl⟩
        · cases closing
          exact ⟨call, _, _, .inr rfl⟩
  | delivers watching deliverable code =>
      exact partition.deliver owns readers watching deliverable code (by simp) (by simp) (by simp)
        (by simp) (by simp) (by simp)
  | handleCloses _ _ _ awaits =>
      obtain ⟨call, _, _, isShutdown | isHandle⟩ := partition.eofOnly _ ⟨_, _, _, .inr awaits⟩
      · rw [awaits] at isShutdown
        cases isShutdown
      · rw [awaits] at isHandle
        cases isHandle
        exact partition.move [.onHandleClosed] (by simp) rfl rfl rfl (by simp [awaits]) (by simp)
          (fun call' active => by rw [awaits]; exact active)
          (fun _ => ⟨call, _, _, .inr rfl⟩) (by simp) (by simp) (by simp) (by simp)

end Preservation

end Fiberio.Socket
