import Mathlib.Tactic.Linarith
import Fiberio.Socket.Ownership

/-!
Owns the read buffer: while libuv's read watcher is started there is exactly
one reader, and the buffer libuv is offered is that reader's; a reader that
is blocked has the watcher, or a close that will wake it, behind it.

Does not own what the bytes are.
-/

namespace Fiberio.Socket

open Fiberio.Foundation

/-! ## Sizes -/

theorem toInt64_eq {size : Nat} (bounded : size < 2 ^ 63) : toInt64 size = size := by
  unfold toInt64
  apply Int.bmod_eq_of_le <;> omega

theorem toSize_eq {value : Int} (nonnegative : 0 ≤ value) (bounded : value < 2 ^ 63) :
    (toSize value : Int) = value := by
  unfold toSize
  have small : value % 2 ^ 64 = value := Int.emod_eq_of_lt nonnegative (by omega)
  rw [small, Int.toNat_of_nonneg nonnegative]

theorem toSize_natCast {size : Nat} (bounded : size < 2 ^ 63) : toSize size = size := by
  have cast : (toSize size : Int) = size := toSize_eq (by omega) (by omega)
  exact_mod_cast cast

theorem subSize_eq {left right : Nat} (le : right ≤ left) (bounded : left < 2 ^ 63) :
    subSize left right = left - right := by
  unfold subSize
  omega

/-! ## Where an inner read stands in its operation -/

namespace ReadCall

/-- The buffer of the whole operation. -/
def base (call : ReadCall) : Nat :=
  match call.caller with
  | .readExactly buf _ | .deviceRead buf _ _ => buf
  | .read | .readString _ _ => call.buf

/-- The size of the whole operation. -/
def total (call : ReadCall) : Nat :=
  match call.caller with
  | .readExactly _ size | .deviceRead _ size _ | .readString _ size => size
  | .read => call.size

/-- How many bytes the earlier inner reads obtained. -/
def filled (call : ReadCall) : Nat :=
  match call.caller with
  | .readExactly buf _ => call.buf - buf
  | .deviceRead _ _ bytesRead => bytesRead
  | .read | .readString _ _ => 0

/-- The arguments of an inner read: a buffer that is there, and what is left
of the operation's own, of a size that an `int64_t` holds. -/
structure Sized (call : ReadCall) : Prop where
  buffer : call.buf ≠ 0
  nonempty : 0 < call.size
  place : call.buf = call.base + call.filled
  rest : call.size + call.filled = call.total
  bounded : call.total < 2 ^ 63

theorem Sized.size_lt {call : ReadCall} (sized : call.Sized) : call.size < 2 ^ 63 := by
  have rest := sized.rest
  have bounded := sized.bounded
  omega

/-- A loop reads again only into what is left. -/
theorem Sized.next {call : ReadCall} {count : Nat} {closed : Bool} (sized : call.Sized)
    (within : count ≤ call.size) (continues : call.continues count closed = true) :
    (call.next count).Sized ∧ (call.next count).id = call.id ∧
      (call.next count).base = call.base ∧ (call.next count).total = call.total ∧
      (call.next count).filled = call.filled + count := by
  obtain ⟨id, buf, size, caller⟩ := call
  obtain ⟨buffer, nonempty, place, rest, bounded⟩ := sized
  cases caller with
  | read => cases continues
  | readString std total => cases continues
  | readExactly base total =>
      simp only [ReadCall.base, ReadCall.filled, ReadCall.total] at *
      have left : subSize size count = size - count := subSize_eq within (by omega)
      simp only [ReadCall.continues, left, decide_eq_true_eq] at continues
      refine ⟨⟨?_, ?_, ?_, ?_, ?_⟩, rfl, rfl, rfl, ?_⟩ <;>
        simp only [ReadCall.next, ReadCall.base, ReadCall.filled, ReadCall.total, left] <;> omega
  | deviceRead base total bytesRead =>
      simp only [ReadCall.base, ReadCall.filled, ReadCall.total] at *
      simp only [ReadCall.continues, Bool.and_eq_true, decide_eq_true_eq] at continues
      obtain ⟨_, continues⟩ := continues
      refine ⟨⟨?_, ?_, ?_, ?_, ?_⟩, rfl, rfl, rfl, ?_⟩ <;>
        simp only [ReadCall.next, ReadCall.base, ReadCall.filled, ReadCall.total] <;> omega

end ReadCall

/-- The request names a real buffer and a size that is in range. The size of
a string is checked where the string is built. -/
def ReadRequest.Sized : ReadRequest → Prop
  | .read buf size | .readExactly buf size | .deviceRead buf size =>
      buf ≠ 0 ∧ 0 < size ∧ size < 2 ^ 63
  | .readString _ count buf | .readStringExactly _ count buf => buf ≠ 0 ∧ 0 < count

theorem ReadRequest.Sized.first {request : ReadRequest} {id : Nat} {closed : Bool}
    {call : ReadCall} (sized : request.Sized) (first : request.first id closed = .inr call) :
    call.Sized ∧ call.id = id ∧ call.filled = 0 := by
  cases request <;> simp only [ReadRequest.first] at first
  case read =>
    obtain ⟨buffer, nonempty, bounded⟩ := sized
    cases first
    exact ⟨⟨buffer, nonempty, rfl, rfl, bounded⟩, rfl, rfl⟩
  case readExactly | deviceRead =>
    obtain ⟨buffer, nonempty, bounded⟩ := sized
    split_ifs at first
    cases first
    refine ⟨⟨buffer, nonempty, ?_, ?_, bounded⟩, rfl, ?_⟩ <;>
      simp [ReadCall.base, ReadCall.filled, ReadCall.total]
  case readString =>
    obtain ⟨buffer, nonempty⟩ := sized
    split at first
    · cases first
    · rename_i accepted
      cases first
      exact ⟨⟨buffer, nonempty, rfl, rfl, CppStd.count_lt accepted⟩, rfl, rfl⟩
  case readStringExactly =>
    obtain ⟨buffer, nonempty⟩ := sized
    split at first
    · cases first
    · rename_i accepted
      rw [if_pos nonempty] at first
      cases first
      refine ⟨⟨buffer, nonempty, ?_, ?_, CppStd.count_lt accepted⟩, rfl, ?_⟩ <;>
        simp [ReadCall.base, ReadCall.filled, ReadCall.total]

/-! ## The reader and the buffer -/

/-- What a read callback may have left in `len_` for a read of this size. -/
def Reported (len : Int) (size : Nat) : Prop :=
  len = errorEof ∨ len = errorReadFailed ∨ (0 ≤ len ∧ len ≤ size)

/-- The fiber is inside the `close` that its own read called at an EOF. -/
def Fiber.InEofClose (fiber : Fiber) : Prop :=
  ∃ call serial promise, fiber = .wait (.shutdown (.eof call)) serial promise ∨
    fiber = .wait (.closeHandle (.eof call)) serial promise

variable {Fib : Type}

/-- Some fiber has issued `uv_close` and has not come back to its
`notify_all`. -/
def ClosingHandle (state : State Fib) : Prop :=
  ∃ fib closer serial promise, state.fiber fib = .wait (.closeHandle closer) serial promise

/-- The buffer belongs to the only reader. -/
structure ReaderOwns (state : State Fib) : Prop where
  reading : ∀ fib notified call, state.fiber fib = .waitRead notified call →
    state.reading = true
  single : ∀ first second notified notified' call call',
    state.fiber first = .waitRead notified call →
      state.fiber second = .waitRead notified' call' → first = second
  sized : ∀ fib notified call, state.fiber fib = .waitRead notified call → call.Sized
  blocked : ∀ fib call, state.fiber fib = .waitRead false call →
    state.buf = call.buf ∧ state.len = call.size ∧
      (state.tcp.watching = true ∨ ClosingHandle state)
  notified : ∀ fib call, state.fiber fib = .waitRead true call →
    state.closed = true ∨ (state.buf = 0 ∧ Reported state.len call.size)
  watching : state.tcp.watching = true → ∃ fib call, state.fiber fib = .waitRead false call
  ended : ∀ fib, (state.fiber fib).InEofClose → state.reading = false

/-- No fiber is inside `wait_for_read_to_finish`. -/
def NoReader (state : State Fib) : Prop :=
  ∀ fib notified call, state.fiber fib ≠ .waitRead notified call

namespace ReaderOwns

variable {state after : State Fib} {fib : Fib}

theorem initial (memory : Memory UInt8) : ReaderOwns (initial memory : State Fib) := by
  constructor
  · rintro fib notified call ⟨⟩
  · rintro first second notified notified' call call' ⟨⟩
  · rintro fib notified call ⟨⟩
  · rintro fib call ⟨⟩
  · rintro fib call ⟨⟩
  · rintro ⟨⟩
  · rintro fib ⟨call, serial, promise, shut | closing⟩
    · cases shut
    · cases closing

/-- With no reader left, the watcher is stopped. -/
theorem ofNoReader (readers : NoReader after) (stopped : after.tcp.watching = false)
    (ended : ∀ fib, (after.fiber fib).InEofClose → after.reading = false) :
    ReaderOwns after := by
  constructor
  · exact fun fib notified call waits => absurd waits (readers fib notified call)
  · exact fun first _ notified _ call _ waits => absurd waits (readers first notified call)
  · exact fun fib notified call waits => absurd waits (readers fib notified call)
  · exact fun fib call waits => absurd waits (readers fib false call)
  · exact fun fib call waits => absurd waits (readers fib true call)
  · intro watching
    exact absurd (stopped.symm.trans watching) (by decide)
  · exact ended

/-- The readers, the buffer and the watcher are left alone. Where the handle
is closed the watcher stops, and the closing fiber stands in for it. -/
theorem congr (owns : ReaderOwns state)
    (readers : ∀ fib notified call, after.fiber fib = .waitRead notified call ↔
      state.fiber fib = .waitRead notified call)
    (handle : ClosingHandle state → ClosingHandle after)
    (ended : ∀ fib, (after.fiber fib).InEofClose → after.reading = false)
    (reading : after.reading = state.reading) (buf : after.buf = state.buf)
    (len : after.len = state.len) (closed : state.closed = true → after.closed = true)
    (watching : after.tcp.watching = state.tcp.watching ∨
      (after.tcp.watching = false ∧ ClosingHandle after)) : ReaderOwns after := by
  constructor
  · simpa only [readers, reading] using owns.reading
  · simpa only [readers] using owns.single
  · simpa only [readers] using owns.sized
  · intro fib call waits
    obtain ⟨sameBuf, sameLen, served⟩ := owns.blocked fib call ((readers _ _ _).mp waits)
    refine ⟨buf.trans sameBuf, len.trans sameLen, ?_⟩
    rcases watching with same | ⟨_, closing⟩
    · rw [same]
      exact served.imp id handle
    · exact .inr closing
  · intro fib call waits
    rw [buf, len]
    exact (owns.notified fib call ((readers _ _ _).mp waits)).imp closed id
  · intro watches
    rcases watching with same | ⟨stopped, _⟩
    · obtain ⟨fib, call, waits⟩ := owns.watching (same ▸ watches)
      exact ⟨fib, call, (readers _ _ _).mpr waits⟩
    · exact absurd (stopped.symm.trans watches) (by decide)
  · exact ended

/-- `notify_all`, from a read callback or from a close that is done; in the
same step a fiber may leave. -/
theorem notify (owns : ReaderOwns state)
    (fibers : ∀ fib, after.fiber fib = (state.fiber fib).notify ∨
      ∃ last, after.fiber fib = .idle last)
    (reading : after.reading = state.reading) (stopped : after.tcp.watching = false)
    (answered : ∀ fib notified call, state.fiber fib = .waitRead notified call →
      after.closed = true ∨ (after.buf = 0 ∧ Reported after.len call.size)) :
    ReaderOwns after := by
  have readers : ∀ fib notified call, after.fiber fib = .waitRead notified call →
      notified = true ∧ ∃ earlier, state.fiber fib = .waitRead earlier call := by
    intro fib notified call waits
    rcases fibers fib with same | ⟨last, idle⟩
    · rw [same] at waits
      exact Fiber.notify_eq_waitRead_iff.mp waits
    · rw [idle] at waits
      cases waits
  constructor
  · intro fib notified call waits
    obtain ⟨_, earlier, before⟩ := readers _ _ _ waits
    exact reading.trans (owns.reading _ _ _ before)
  · intro first second notified notified' call call' one two
    obtain ⟨_, _, one⟩ := readers _ _ _ one
    obtain ⟨_, _, two⟩ := readers _ _ _ two
    exact owns.single _ _ _ _ _ _ one two
  · intro fib notified call waits
    obtain ⟨_, earlier, before⟩ := readers _ _ _ waits
    exact owns.sized _ _ _ before
  · intro fib call waits
    exact absurd (readers _ _ _ waits).1 (by decide)
  · intro fib call waits
    obtain ⟨_, earlier, before⟩ := readers _ _ _ waits
    exact answered _ _ _ before
  · intro watches
    exact absurd (stopped.symm.trans watches) (by decide)
  · rintro fib ⟨call, serial, promise, inside⟩
    rw [reading]
    refine owns.ended fib ⟨call, serial, promise, ?_⟩
    rcases fibers fib with same | ⟨last, idle⟩
    · rwa [same, Fiber.notify_eq_wait_iff, Fiber.notify_eq_wait_iff] at inside
    · simp [idle] at inside

variable [DecidableEq Fib]

/-- A fiber that is not a reader, before or after, moves on. A fiber that
closes the handle stays there or turns to it. -/
theorem move {value : Fiber} (owns : ReaderOwns state)
    (fibers : after.fiber = Function.update state.fiber fib value)
    (notReader : ∀ notified call, state.fiber fib ≠ .waitRead notified call)
    (stays : ∀ notified call, value ≠ .waitRead notified call)
    (handle : ∀ closer serial promise,
      state.fiber fib = .wait (.closeHandle closer) serial promise →
      ∃ closer serial promise, value = .wait (.closeHandle closer) serial promise)
    (ended : value.InEofClose → (state.fiber fib).InEofClose)
    (reading : after.reading = state.reading) (buf : after.buf = state.buf)
    (len : after.len = state.len) (closed : state.closed = true → after.closed = true)
    (watching : after.tcp.watching = state.tcp.watching ∨ (after.tcp.watching = false ∧
      ∃ closer serial promise, value = .wait (.closeHandle closer) serial promise)) :
    ReaderOwns after := by
  refine owns.congr ?_ ?_ ?_ reading buf len closed ?_
  · intro other notified call
    rw [fibers]
    by_cases same : other = fib
    · subst same
      simp [notReader, stays]
    · simp [same]
  · rintro ⟨other, closer, serial, promise, awaits⟩
    by_cases same : other = fib
    · subst same
      obtain ⟨closer, serial, promise, now⟩ := handle _ _ _ awaits
      exact ⟨other, closer, serial, promise, by rw [fibers, Function.update_self, now]⟩
    · exact ⟨other, closer, serial, promise, by rw [fibers, Function.update_of_ne same, awaits]⟩
  · intro other inside
    rw [reading]
    by_cases same : other = fib
    · subst same
      rw [fibers, Function.update_self] at inside
      exact owns.ended other (ended inside)
    · rw [fibers, Function.update_of_ne same] at inside
      exact owns.ended other inside
  · refine watching.imp id fun stopped => ⟨stopped.1, ?_⟩
    obtain ⟨closer, serial, promise, now⟩ := stopped.2
    exact ⟨fib, closer, serial, promise, by rw [fibers, Function.update_self, now]⟩

omit [DecidableEq Fib] in
/-- When the reader was woken the watcher is off. -/
theorem stopped {call : ReadCall} (owns : ReaderOwns state)
    (woken : state.fiber fib = .waitRead true call) : state.tcp.watching = false := by
  by_contra watches
  obtain ⟨other, call', waits⟩ := owns.watching (by simpa using watches)
  have same : other = fib := owns.single _ _ _ _ _ _ waits woken
  rw [same, woken] at waits
  cases waits

/-- The woken reader leaves `wait_for_read_to_finish`. -/
theorem leave {value : Fiber} {call : ReadCall} (owns : ReaderOwns state)
    (woken : state.fiber fib = .waitRead true call)
    (fibers : after.fiber = Function.update state.fiber fib value)
    (plain : ∀ notified call, value ≠ .waitRead notified call)
    (reading : after.reading = false)
    (watching : after.tcp.watching = true → state.tcp.watching = true) : ReaderOwns after := by
  refine ofNoReader ?_ ?_ fun _ _ => reading
  · intro other notified call' waits
    rw [fibers] at waits
    by_cases same : other = fib
    · subst same
      rw [Function.update_self] at waits
      exact plain _ _ waits
    · rw [Function.update_of_ne same] at waits
      exact same (owns.single _ _ _ _ _ _ waits woken)
  · by_contra watches
    have still : state.tcp.watching = true := watching (by simpa using watches)
    exact absurd ((owns.stopped woken).symm.trans still) (by decide)

end ReaderOwns

/-! ## Every transition keeps the buffer with its reader -/

section Preservation

variable [DecidableEq Fib] {state after entered : State Fib} {fib : Fib} {action : Action Fib}

/-- The reads of a step name real buffers of a size in range. -/
def SizedReads (_ : State Fib) : Action Fib → Prop
  | .read _ request _ => request.Sized
  | _ => True

theorem Fiber.idle_notReader {fiber : Fiber} (idle : fiber.isIdle = true) (notified : Bool)
    (call : ReadCall) : fiber ≠ .waitRead notified call := by
  rintro rfl
  cases idle

omit [DecidableEq Fib] in
/-- The fiber that enters `read` is the only one that may have been a reader,
and the watcher is off. -/
theorem ReadEntry.alone {status : Int} {call : ReadCall}
    (entry : ReadEntry state fib action status call entered)
    (owns : ReaderOwns state) (free : entered.reading = false) :
    entered.fiber = state.fiber ∧ entered.tcp = state.tcp ∧ state.tcp.watching = false ∧
      ∀ other notified call', state.fiber other = .waitRead notified call' → other = fib := by
  cases entry with
  | start idle _ _ =>
      have free : state.reading = false := free
      have none : NoReader state := by
        intro other notified call' waits
        exact absurd (free.symm.trans (owns.reading _ _ _ waits)) (by decide)
      refine ⟨rfl, rfl, ?_, fun other notified call' waits => absurd waits (none _ _ _)⟩
      by_contra watches
      obtain ⟨other, call', waits⟩ := owns.watching (by simpa using watches)
      exact none _ _ _ waits
  | again woken _ _ _ _ _ =>
      exact ⟨rfl, rfl, owns.stopped woken,
        fun other _ _ waits => owns.single _ _ _ _ _ _ waits woken⟩

omit [DecidableEq Fib] in
theorem Reported.count_le {len : Int} {size : Nat} (reported : Reported len size)
    (notEof : len ≠ errorEof) (notFailed : len ≠ errorReadFailed) (bounded : size < 2 ^ 63) :
    toSize len ≤ size := by
  rcases reported with eof | failed | ⟨nonnegative, le⟩
  · exact absurd eof notEof
  · exact absurd failed notFailed
  · have cast : (toSize len : Int) = len := toSize_eq nonnegative (by omega)
    omega

omit [DecidableEq Fib] in
theorem ReadEntry.sized {status : Int} {call : ReadCall}
    (entry : ReadEntry state fib action status call entered)
    (owns : ReaderOwns state) (requests : SizedReads state action) : call.Sized := by
  cases entry with
  | start _ _ first => exact (ReadRequest.Sized.first requests first).1
  | again woken _ isOpen notEof notFailed continues =>
      have sized := owns.sized _ _ _ woken
      rcases owns.notified _ _ woken with closed | ⟨_, reported⟩
      · exact absurd (isOpen.symm.trans closed) (by decide)
      · exact (sized.next (reported.count_le notEof notFailed sized.size_lt) continues).1

theorem Fiber.Unbound.notReader {fiber : Fiber} (unbound : fiber.Unbound) (notified : Bool)
    (call : ReadCall) : fiber ≠ .waitRead notified call := by
  rcases unbound with idle | ⟨waiting, serial, result, rfl, _⟩
  · exact Fiber.idle_notReader idle notified call
  · rintro ⟨⟩

theorem Fiber.Unbound.notHandle {fiber : Fiber} (unbound : fiber.Unbound) (closer : Closer)
    (serial : Nat) (promise : PromiseState) :
    fiber ≠ .wait (.closeHandle closer) serial promise := by
  rintro rfl
  rcases unbound with idle | ⟨waiting, serial, result, same, kinds⟩
  · cases idle
  · cases same
    rcases kinds with kind | kind | kind <;> cases kind

/-- A fiber that holds neither the buffer nor the handle ends its operation
or suspends in one that does not either. -/
theorem ReaderOwns.unbound {value : Fiber} (owns : ReaderOwns state)
    (fibers : after.fiber = Function.update state.fiber fib value)
    (unbound : (state.fiber fib).Unbound)
    (stays : ∀ notified call, value ≠ .waitRead notified call) (ended : ¬ value.InEofClose)
    (reading : after.reading = state.reading) (buf : after.buf = state.buf)
    (len : after.len = state.len) (closed : state.closed = true → after.closed = true)
    (watching : after.tcp.watching = state.tcp.watching) : ReaderOwns after :=
  owns.move fibers unbound.notReader stays
    (fun _ _ _ awaits => absurd awaits (unbound.notHandle _ _ _))
    (fun inside => absurd inside ended) reading buf len closed (.inl watching)

theorem Fiber.idle_notInEofClose (last : Option Outcome) : ¬ (Fiber.idle last).InEofClose := by
  rintro ⟨call, serial, promise, shut | closing⟩
  · cases shut
  · cases closing

theorem Fiber.wait_notInEofClose {waiting : Waiting} {serial : Nat} {promise : PromiseState}
    (shutdown : ∀ call, waiting ≠ .shutdown (.eof call))
    (handle : ∀ call, waiting ≠ .closeHandle (.eof call)) :
    ¬ (Fiber.wait waiting serial promise).InEofClose := by
  rintro ⟨call, _, _, shut | closing⟩
  · cases shut
    exact shutdown call rfl
  · cases closing
    exact handle call rfl

/-- `close` is entered and the fiber suspends inside it. -/
theorem ReaderOwns.enterClose {value : Fiber} {status : Int} {closer : Closer}
    (owns : ReaderOwns state) (entry : CloseEntry state fib action status closer entered)
    (fibers : after.fiber = Function.update entered.fiber fib value)
    (stays : ∀ notified call, value ≠ .waitRead notified call)
    (ended : value.InEofClose → ∃ call, closer = .eof call)
    (reading : after.reading = entered.reading) (buf : after.buf = entered.buf)
    (len : after.len = entered.len) (closed : after.closed = true)
    (watching : after.tcp.watching = entered.tcp.watching ∨ (after.tcp.watching = false ∧
      ∃ closer serial promise, value = .wait (.closeHandle closer) serial promise)) :
    ReaderOwns after := by
  cases entry with
  | user idle =>
      exact owns.move fibers (Fiber.idle_notReader idle) stays
        (fun _ _ _ awaits => absurd awaits (Fiber.idle_promiseless idle _ _ _))
        (fun inside => by obtain ⟨call, same⟩ := ended inside; cases same)
        reading buf len (fun _ => closed) watching
  | destructor idle =>
      exact owns.move fibers (Fiber.idle_notReader (idle _)) stays
        (fun _ _ _ awaits => absurd awaits (Fiber.idle_promiseless (idle _) _ _ _))
        (fun inside => by obtain ⟨call, same⟩ := ended inside; cases same)
        reading buf len (fun _ => closed) watching
  | eof woken _ _ =>
      refine owns.leave woken fibers stays reading ?_
      intro watches
      rcases watching with same | ⟨off, _⟩
      · exact same ▸ watches
      · exact absurd (off.symm.trans watches) (by decide)

/-- An exception leaves `close`. -/
theorem ReaderOwns.closeThrew {closer : Closer} {exc : Exc} (owns : ReaderOwns state)
    (notReader : ∀ notified call, state.fiber fib ≠ .waitRead notified call)
    (notHandle : ∀ closer serial promise,
      state.fiber fib ≠ .wait (.closeHandle closer) serial promise)
    (ended : (∃ call, closer = .eof call) → state.reading = false) :
    ReaderOwns (state.closeThrew fib closer exc) := by
  cases closer with
  | user =>
      exact owns.move rfl notReader (by rintro _ _ ⟨⟩)
        (fun _ _ _ awaits => absurd awaits (notHandle _ _ _))
        (fun inside => absurd inside (Fiber.idle_notInEofClose _)) rfl rfl rfl id (.inl rfl)
  | eof call =>
      have quiet : state.reading = false := ended ⟨call, rfl⟩
      have none : NoReader state := by
        intro other notified call' waits
        exact absurd (quiet.symm.trans (owns.reading _ _ _ waits)) (by decide)
      refine ReaderOwns.ofNoReader ?_ ?_ fun _ _ => rfl
      · intro other notified call' waits
        by_cases same : other = fib
        · subst same
          simp [State.closeThrew] at waits
        · exact none other notified call' (by simpa [State.closeThrew, same] using waits)
      · show state.tcp.watching = false
        by_contra watches
        obtain ⟨other, call', waits⟩ := owns.watching (by simpa using watches)
        exact none _ _ _ waits
  | destructor =>
      exact owns.congr (fun _ _ _ => Iff.rfl) id owns.ended rfl rfl rfl id (.inl rfl)

/-- The close is done and its caller returns: whoever still waits is woken. -/
theorem ReaderOwns.closeReturned {last : Option Outcome} {closer : Closer} {serial : Nat}
    {promise : PromiseState} (owns : ReaderOwns state) (owned : Owned state)
    (ran : state.fiber fib = .wait (.closeHandle closer) serial promise)
    (fibers : after.fiber = Function.update state.notifyAll.fiber fib (.idle last))
    (reading : after.reading = state.reading) (closed : after.closed = state.closed)
    (watching : after.tcp.watching = state.tcp.watching) : ReaderOwns after := by
  refine owns.notify ?_ reading ?_ fun _ _ _ _ => .inl ?_
  · intro other
    rw [fibers]
    by_cases same : other = fib
    · exact .inr ⟨last, by rw [same, Function.update_self]⟩
    · exact .inl (by rw [Function.update_of_ne same, State.notifyAll_fiber])
  · rw [watching]
    by_contra watches
    have live := owned.watched (by simpa using watches)
    exact absurd (live.symm.trans (owned.handle _ _ _ _ ran).1) (by decide)
  · exact closed.trans (owned.closers _ ⟨_, _, _, .inr ran⟩)

omit [DecidableEq Fib] in
/-- libuv was offered the blocked reader's buffer, so it reports at most the
reader's size. -/
theorem ReaderOwns.delivered {nread : Int} {bytes : List UInt8} {len : Int} {call : ReadCall}
    (owns : ReaderOwns state) (waits : state.fiber fib = .waitRead false call)
    (deliverable : state.canDeliver nread bytes = true)
    (code : (0 ≤ nread ∧ len = nread) ∨ (nread = uvEof ∧ len = errorEof) ∨
      (nread < 0 ∧ nread ≠ uvEof ∧ len = errorReadFailed)) : Reported len call.size := by
  obtain ⟨bufEq, lenEq, _⟩ := owns.blocked _ _ waits
  have sized := owns.sized _ _ _ waits
  have offered : state.allocCallback = (call.buf, call.size) := by
    unfold State.allocCallback
    rw [bufEq, lenEq, toSize_natCast sized.size_lt]
  rcases code with ⟨nonnegative, rfl⟩ | ⟨_, rfl⟩ | ⟨_, _, rfl⟩
  · unfold State.canDeliver at deliverable
    have nonempty := sized.nonempty
    rw [offered, if_neg (by have := sized.buffer; omega), if_pos nonnegative] at deliverable
    simp only [decide_eq_true_eq] at deliverable
    exact .inr (.inr ⟨nonnegative, by omega⟩)
  · exact .inl rfl
  · exact .inr (.inl rfl)

theorem ReaderOwns.admit {status : Int} {call : ReadCall} (owns : ReaderOwns state)
    (entry : ReadEntry state fib action status call entered) (free : entered.reading = false)
    (sized : call.Sized) (noCloser : ∀ other, ¬ (entered.fiber other).InClose) :
    ReaderOwns ((entered.beginRead call).watch.setFiber fib (.waitRead false call)) := by
  obtain ⟨fibers, handle, off, others⟩ := entry.alone owns free
  have readers : ∀ other notified call', Function.update entered.fiber fib
      (.waitRead false call) other = .waitRead notified call' →
        other = fib ∧ notified = false ∧ call' = call := by
    intro other notified call' waits
    by_cases same : other = fib
    · rw [same, Function.update_self] at waits
      cases waits
      exact ⟨same, rfl, rfl⟩
    · rw [Function.update_of_ne same, fibers] at waits
      exact absurd (others _ _ _ waits) same
  constructor
  · exact fun _ _ _ _ => rfl
  · intro first second _ _ _ _ one two
    rw [(readers _ _ _ one).1, (readers _ _ _ two).1]
  · intro other _ call' waits
    rw [(readers _ _ _ waits).2.2]
    exact sized
  · intro other call' waits
    rw [(readers _ _ _ waits).2.2]
    refine ⟨rfl, ?_, .inl rfl⟩
    simpa using toInt64_eq sized.size_lt
  · intro other call' waits
    exact absurd (readers _ _ _ waits).2.1 (by decide)
  · exact fun _ => ⟨fib, call, Function.update_self _ _ _⟩
  · rintro other ⟨ended, serial, promise, inside⟩
    -- An EOF has closed the socket, so no read is admitted any more.
    by_cases same : other = fib
    · rw [same, State.setFiber_fiber, Function.update_self] at inside
      simp at inside
    · rw [State.setFiber_fiber, Function.update_of_ne same] at inside
      exact absurd ⟨_, serial, promise, inside⟩ (noCloser other)

theorem Transition.readerOwns (transition : Transition state action after)
    (owned : Owned state) (owns : ReaderOwns state) (requests : SizedReads state action) :
    ReaderOwns after := by
  cases transition with
  | ends events unbound _ _ _ _ _ _ =>
      exact owns.unbound rfl unbound (by rintro _ _ ⟨⟩) (Fiber.idle_notInEofClose _) rfl rfl rfl
        id rfl
  | resolves idle _ =>
      exact owns.unbound rfl (.inl idle) (by rintro _ _ ⟨⟩)
        (Fiber.wait_notInEofClose (by rintro _ ⟨⟩) (by rintro _ ⟨⟩)) rfl rfl rfl id rfl
  | connects resolved =>
      exact owns.unbound rfl (.inr ⟨_, _, _, resolved, .inl rfl⟩) (by rintro _ _ ⟨⟩)
        (Fiber.wait_notInEofClose (by rintro _ ⟨⟩) (by rintro _ ⟨⟩)) rfl rfl rfl id rfl
  | writes idle _ _ =>
      exact owns.unbound rfl (.inl idle) (by rintro _ _ ⟨⟩)
        (Fiber.wait_notInEofClose (by rintro _ ⟨⟩) (by rintro _ ⟨⟩)) rfl rfl rfl id rfl
  | admits entry isOpen free _ =>
      exact owns.admit entry free (entry.sized owns requests)
        ((entry.owned owned).noCloser isOpen)
  | @rejects fib _ _ _ _ _ entry _ free _ =>
      obtain ⟨fibers, handle, off, others⟩ := entry.alone owns free
      refine ReaderOwns.ofNoReader ?_ (handle ▸ off) fun _ _ => rfl
      intro other notified call waits
      by_cases same : other = fib
      · subst same
        simp at waits
      · simp only [State.finish_fiber, Function.update_of_ne same] at waits
        exact same (others _ _ _ (fibers ▸ waits))
  | readsNull entry _ _ null => exact absurd null (entry.sized owns requests).buffer
  | waitsAgain woken unfinished isOpen =>
      rcases owns.notified _ _ woken with closed | ⟨finished, _⟩
      · exact absurd (isOpen.symm.trans closed) (by decide)
      · exact absurd finished unfinished
  | readFails woken _ _ => exact owns.leave woken rfl (by rintro _ _ ⟨⟩) rfl id
  | readReturns ends _ => exact owns.leave ends.woken rfl (by rintro _ _ ⟨⟩) rfl id
  | readStops ends _ => exact owns.leave ends.woken rfl (by rintro _ _ ⟨⟩) rfl id
  | shutsDown entry _ _ =>
      refine owns.enterClose entry rfl (by rintro _ _ ⟨⟩) ?_ rfl rfl rfl rfl (.inl rfl)
      rintro ⟨call, _, _, shut | closing⟩
      · cases shut
        exact ⟨call, rfl⟩
      · cases closing
  | closesAtOnce entry _ _ =>
      refine owns.enterClose entry rfl (by rintro _ _ ⟨⟩) ?_ rfl rfl rfl rfl
        (.inr ⟨rfl, _, _, _, rfl⟩)
      rintro ⟨call, _, _, shut | closing⟩
      · cases shut
      · cases closing
        exact ⟨call, rfl⟩
  | closeFails entry _ _ _ =>
      cases entry with
      | user idle =>
          exact owns.unbound rfl (.inl idle) (by rintro _ _ ⟨⟩) (Fiber.idle_notInEofClose _) rfl
            rfl rfl (fun _ => rfl) rfl
      | destructor _ =>
          exact owns.congr (fun _ _ _ => Iff.rfl) id owns.ended rfl rfl rfl (fun _ => rfl)
            (.inl rfl)
      | eof woken _ _ => exact owns.leave woken rfl (by rintro _ _ ⟨⟩) rfl id
  | closes shut _ =>
      refine owns.move rfl (by rw [shut]; rintro _ _ ⟨⟩) (by rintro _ _ ⟨⟩)
        (by rw [shut]; rintro _ _ _ ⟨⟩) ?_ rfl rfl rfl id (.inr ⟨rfl, _, _, _, rfl⟩)
      rintro ⟨call, _, _, none | closing⟩
      · cases none
      · cases closing
        exact ⟨call, _, _, .inl shut⟩
  | shutdownFails shut _ =>
      refine owns.closeThrew (by rw [shut]; rintro _ _ ⟨⟩) (by rw [shut]; rintro _ _ _ ⟨⟩) ?_
      rintro ⟨call, rfl⟩
      exact owns.ended _ ⟨call, _, _, .inl shut⟩
  | closeReturnsToUser ran =>
      refine owns.closeReturned owned ran rfl ?_ ?_ ?_ <;> simp
  | closeReturnsToDestructor ran =>
      refine owns.closeReturned owned ran rfl ?_ ?_ ?_ <;> simp
  | closeReturnsToRead ran _ _ =>
      refine owns.closeReturned owned ran rfl ?_ ?_ ?_ <;> simp [State.finishRead]
  | closeStopsRead ran _ =>
      refine owns.closeReturned owned ran rfl ?_ ?_ ?_ <;> simp
  | destroysClosed idle _ =>
      exact owns.unbound rfl (.inl (idle _)) (by rintro _ _ ⟨⟩) (Fiber.idle_notInEofClose _) rfl
        rfl rfl id rfl
  | completes _ _ awaits =>
      refine owns.move rfl (by rw [awaits]; rintro _ _ ⟨⟩) (by rintro _ _ ⟨⟩) ?_ ?_ rfl rfl rfl
        id (.inl rfl)
      · rw [awaits]
        rintro closer serial promise ⟨⟩
        exact ⟨_, _, _, rfl⟩
      · rintro ⟨call, _, _, shut | closing⟩
        · cases shut
          exact ⟨call, _, _, .inl awaits⟩
        · cases closing
          exact ⟨call, _, _, .inr awaits⟩
  | delivers watching deliverable code =>
      obtain ⟨reader, call, waits⟩ := owns.watching watching
      refine owns.notify (fun _ => .inl rfl) rfl rfl ?_
      intro other notified call' waits'
      have same : other = reader := owns.single _ _ _ _ _ _ waits' waits
      rw [same, waits] at waits'
      cases waits'
      exact .inr ⟨rfl, owns.delivered waits deliverable code⟩
  | handleCloses _ _ _ awaits =>
      refine owns.move rfl (by rw [awaits]; rintro _ _ ⟨⟩) (by rintro _ _ ⟨⟩)
        (fun _ _ _ _ => ⟨_, _, _, rfl⟩) ?_ rfl rfl rfl id (.inl rfl)
      rintro ⟨call, _, _, none | closing⟩
      · cases none
      · cases closing
        exact ⟨call, _, _, .inr awaits⟩

end Preservation

/-! ## Reachable states -/

variable [DecidableEq Fib] [Fintype Fib] {state : State Fib}

theorem reachable_readerOwns {allowed : State Fib → Action Fib → Prop}
    (reachable : (machine Fib).Reachable allowed state)
    (requests : ∀ state action, allowed state action → SizedReads state action) :
    ReaderOwns state := by
  apply reachable_invariant reachable ReaderOwns.initial
  intro before action after owned owns admitted transition
  exact transition.readerOwns owned owns (requests _ _ admitted)

/-- While the watcher is started there is exactly one reader, and the buffer
libuv is offered is the one of that reader's call. A reader that is blocked
has the watcher running, or a close that has issued `uv_close` and has not
yet reached its `notify_all`. -/
theorem read_buffer_owned_and_reader_served
    (reachable : (machine Fib).Reachable SizedReads state) :
    (state.tcp.watching = true →
      ∃ fib call, state.fiber fib = .waitRead false call ∧
        (∀ other notified call', state.fiber other = .waitRead notified call' → other = fib) ∧
        state.reading = true ∧ state.buf = call.buf ∧ state.len = call.size ∧
        state.allocCallback = (call.buf, call.size)) ∧
      ∀ fib call, state.fiber fib = .waitRead false call →
        state.tcp.watching = true ∨ (state.tcp.closing = true ∧ ClosingHandle state) := by
  have owns := reachable_readerOwns reachable fun _ _ sized => sized
  have owned := reachable_owned reachable
  constructor
  · intro watching
    obtain ⟨fib, call, waits⟩ := owns.watching watching
    obtain ⟨bufEq, lenEq, _⟩ := owns.blocked _ _ waits
    have single : ∀ other notified call',
        state.fiber other = .waitRead notified call' → other = fib :=
      fun other _ _ waits' => owns.single _ _ _ _ _ _ waits' waits
    refine ⟨fib, call, waits, single, owns.reading _ _ _ waits, bufEq, lenEq, ?_⟩
    unfold State.allocCallback
    rw [bufEq, lenEq, toSize_natCast (owns.sized _ _ _ waits).size_lt]
  · intro fib call waits
    refine (owns.blocked _ _ waits).2.2.imp id fun closing => ⟨?_, closing⟩
    obtain ⟨other, closer, serial, promise, awaits⟩ := closing
    exact (owned.handle _ _ _ _ awaits).1

/-- A refused second reader, and a third fiber whose `uv_shutdown` failed,
leave the first reader in place. -/
theorem reader_served_after_refusal_and_failed_close :
    ∃ state : State (Fin 3), (machine (Fin 3)).Reachable SizedReads state ∧
      state.tcp.watching = true ∧ state.closed = true ∧
      ∃ fib call, state.fiber fib = .waitRead false call ∧
        state.allocCallback = (call.buf, call.size) := by
  have first : (machine (Fin 3)).Reachable SizedReads (initial fun _ => 0) := .start ⟨_, rfl⟩
  have reachable := first.exec
    (Machine.along_of_forall (by simp [SizedReads, ReadRequest.Sized]) _)
    (rfl : (machine (Fin 3)).exec (initial fun _ => 0)
      [.read 0 (.readExactly 100 8) 0, .readCallback 3 [1, 2, 3], .resume 0 0,
        .read 1 (.read 200 4) 0, .close 2 uvEconnreset] = some _)
  obtain ⟨fib, call, waits, _, _, _, _, offered⟩ :=
    (read_buffer_owned_and_reader_served reachable).1 rfl
  exact ⟨_, reachable, rfl, rfl, fib, call, waits, offered⟩

end Fiberio.Socket
