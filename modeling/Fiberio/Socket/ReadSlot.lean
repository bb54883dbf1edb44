import Fiberio.Socket.Results

/-!
Owns who may touch `reading_`, `buf_` and `len_`: at most one fiber is inside
a read, and as long as it is, the steps of all others leave these alone. This
needs no assumption on the sizes that the readers ask for.

Does not own what the reader finds there.
-/

namespace Fiberio.Socket

open Fiberio.Foundation

variable {Fib : Type}

/-! ## The only reader -/

/-- At most one fiber is inside a read, and `reading_` is set exactly while it
waits for its bytes. -/
structure SoleReader (state : State Fib) : Prop where
  single : ∀ first second call call', (state.fiber first).activeRead = some call →
    (state.fiber second).activeRead = some call' → first = second
  reading : ∀ fib notified call, state.fiber fib = .waitRead notified call →
    state.reading = true
  reader : state.reading = true → ∃ fib notified call, state.fiber fib = .waitRead notified call
  ended : ∀ fib, (state.fiber fib).InEofClose → state.reading = false

/-- A fiber inside a read that does not run: a close may wake it, and its
promise may be set. -/
inductive Fiber.Holds (fiber : Fiber) : Fiber → Bool → Prop where
  | same {closed : Bool} : Fiber.Holds fiber fiber closed
  | woken : Fiber.Holds fiber fiber.notify true
  | answered {waiting : Waiting} {serial : Nat} {result : Except Exc Unit} {closed : Bool}
      (unset : fiber = .wait waiting serial .unset) :
      Fiber.Holds fiber (.wait waiting serial (.set result)) closed

/-- Where a fiber that ran inside a read is afterwards. -/
inductive Settles (fib : Fib) (after : State Fib) : Prop where
  | outside (outside : (after.fiber fib).activeRead = none) (free : after.reading = false)
  | waits {call : ReadCall} (waits : after.fiber fib = .waitRead false call)
      (reading : after.reading = true)
  | closes (inside : (after.fiber fib).InEofClose) (free : after.reading = false)

/-- The step leaves the slot of the reader alone. -/
structure KeepsSlot (state after : State Fib) : Prop where
  reading : after.reading = state.reading
  buf : after.buf = state.buf
  len : after.len = state.len
  memory : after.memory = state.memory
  delivered : after.tcp.delivered = state.tcp.delivered
  watching : after.tcp.watching = true → state.tcp.watching = true
  closed : state.closed = true → after.closed = true
  chunks : chunkBytes after.log = chunkBytes state.log

/-- What `read_callback` leaves in `len_`. -/
def reportCode (nread : Int) : Int :=
  if 0 ≤ nread then nread else if nread = uvEof then errorEof else errorReadFailed

/-- A read callback has run. -/
structure Delivers (state : State Fib) (nread : Int) (bytes : List UInt8) (after : State Fib) :
    Prop where
  watching : state.tcp.watching = true
  deliverable : state.canDeliver nread bytes = true
  fibers : ∀ fib, after.fiber fib = (state.fiber fib).notify
  reading : after.reading = state.reading
  closed : after.closed = state.closed
  buf : after.buf = 0
  len : after.len = reportCode nread
  stopped : after.tcp.watching = false
  memory : after.memory = state.memory.store state.buf bytes
  delivered : after.tcp.delivered = state.tcp.delivered ++ bytes
  chunks : chunkBytes after.log = chunkBytes state.log

/-- What a step does to the fibers inside a read. -/
inductive SlotStep (state : State Fib) (action : Action Fib) (after : State Fib) : Prop where
  | keeps (noReport : ∀ nread bytes, action ≠ .readCallback nread bytes)
      (notOwn : ∀ fib status, action = .resume fib status →
        (state.fiber fib).activeRead = none)
      (slot : KeepsSlot state after)
      (active : ∀ fib, (after.fiber fib).activeRead = (state.fiber fib).activeRead)
      (held : ∀ fib, (state.fiber fib).activeRead ≠ none →
        (state.fiber fib).Holds (after.fiber fib) after.closed)
  | reports {nread : Int} {bytes : List UInt8} (called : action = .readCallback nread bytes)
      (delivers : Delivers state nread bytes after)
  | runs {fib : Fib} {call : ReadCall} {status : Int} (called : action = .resume fib status)
      (active : (state.fiber fib).activeRead = some call)
      (others : ∀ other, other ≠ fib → (state.fiber other).Stays (after.fiber other))
      (settles : Settles fib after)
  | starts {fib : Fib} {request : ReadRequest} {status : Int}
      (called : action = .read fib request status) (isOpen : state.closed = false)
      (free : state.reading = false)
      (others : ∀ other, other ≠ fib → (state.fiber other).Stays (after.fiber other))
      (settles : Settles fib after)

/-! ## Every step is of this kind -/

theorem Fiber.InEofClose.active {fiber : Fiber} (inside : fiber.InEofClose) :
    fiber.activeRead ≠ none := by
  obtain ⟨call, serial, promise, rfl | rfl⟩ := inside <;> simp [Fiber.activeRead]

section Inversion

variable [DecidableEq Fib] {state after entered : State Fib} {fib : Fib} {action : Action Fib}

/-- One fiber moves, and is inside a read neither before nor after. -/
theorem SlotStep.moves {value : Fiber}
    (fibers : after.fiber = Function.update state.fiber fib value)
    (outside : (state.fiber fib).activeRead = none) (stays : value.activeRead = none)
    (noReport : ∀ nread bytes, action ≠ .readCallback nread bytes)
    (resumes : ∀ other status, action = .resume other status → other = fib)
    (slot : KeepsSlot state after) : SlotStep state action after := by
  refine .keeps noReport ?_ slot ?_ ?_
  · intro other status resumed
    rw [resumes other status resumed]
    exact outside
  · intro other
    rw [fibers]
    by_cases same : other = fib
    · rw [same, Function.update_self, stays, outside]
    · rw [Function.update_of_ne same]
  · intro other active
    by_cases same : other = fib
    · rw [same] at active
      exact absurd outside active
    · rw [fibers, Function.update_of_ne same]
      exact .same

/-- The fiber that runs leaves the read, or waits for more bytes. -/
theorem Settles.ofUpdate {value : Fiber} {fibers : Fib → Fiber}
    (fiber : after.fiber = Function.update fibers fib value)
    (settled : (value.activeRead = none ∨ value.InEofClose) ∧ after.reading = false ∨
      (∃ call, value = .waitRead false call) ∧ after.reading = true) : Settles fib after := by
  have now : after.fiber fib = value := by
    rw [fiber, Function.update_self]
  rcases settled with ⟨outside | inside, free⟩ | ⟨⟨call, waits⟩, reading⟩
  · exact .outside (by rw [now, outside]) free
  · exact .closes (by rw [now]; exact inside) free
  · exact .waits (now.trans waits) reading

/-- The fiber that enters a read starts an operation, or runs inside one. -/
theorem SlotStep.ofEntry {status : Int} {call : ReadCall} {value : Fiber}
    (entry : ReadEntry state fib action status call entered)
    (isOpen : entered.closed = false) (free : entered.reading = false)
    (fibers : after.fiber = Function.update entered.fiber fib value)
    (settled : (value.activeRead = none ∨ value.InEofClose) ∧ after.reading = false ∨
      (∃ call, value = .waitRead false call) ∧ after.reading = true) :
    SlotStep state action after := by
  have settles : Settles fib after := .ofUpdate fibers settled
  cases entry with
  | start _ _ _ => exact .starts rfl isOpen free (Moves.others_of_update fibers) settles
  | @again call _ woken _ _ _ _ _ =>
      have active : (state.fiber fib).activeRead = some call := by
        rw [woken]
        rfl
      exact .runs rfl active (Moves.others_of_update fibers) settles

/-- A close that is entered by a fiber outside a read leaves the slot alone;
a reader enters it at the end of the stream. -/
theorem SlotStep.ofCloseEntry {status : Int} {closer : Closer} {value : Fiber}
    (entry : CloseEntry state fib action status closer entered)
    (fibers : after.fiber = Function.update entered.fiber fib value)
    (stays : (∀ call, closer ≠ .eof call) → value.activeRead = none)
    (inside : ∀ call, closer = .eof call → value.activeRead = none ∨ value.InEofClose)
    (slot : KeepsSlot entered after) : SlotStep state action after := by
  cases entry with
  | user idle =>
      exact .moves fibers (Fiber.Unbound.notActive (.inl idle))
        (stays (by simp)) (by simp) (by simp) slot
  | destructor idle =>
      refine .moves fibers (Fiber.Unbound.notActive (.inl (idle fib)))
        (stays (by simp)) (by simp) (by simp) ?_
      exact ⟨slot.reading, slot.buf, slot.len, slot.memory, slot.delivered, slot.watching,
        slot.closed, slot.chunks⟩
  | @eof status call woken _ _ =>
      have active : (state.fiber fib).activeRead = some call := by
        rw [woken]
        rfl
      refine .runs rfl active (Moves.others_of_update fibers) ?_
      exact .ofUpdate fibers (.inl ⟨inside call rfl, slot.reading⟩)

omit [DecidableEq Fib] in
theorem QuietEvent.noChunk {event : Event Fib} (quiet : QuietEvent state fib action event) :
    event.chunkBytes = [] := by
  cases quiet <;> rfl

omit [DecidableEq Fib] in
/-- The fields of the slot are as before, and no inner read has ended. -/
theorem KeepsSlot.ofLog (events : List (Event Fib)) (log : after.log = state.log ++ events)
    (silent : chunkBytes events = []) (reading : after.reading = state.reading)
    (buf : after.buf = state.buf) (len : after.len = state.len)
    (memory : after.memory = state.memory) (delivered : after.tcp.delivered = state.tcp.delivered)
    (watching : after.tcp.watching = true → state.tcp.watching = true)
    (closed : state.closed = true → after.closed = true) : KeepsSlot state after := by
  refine ⟨reading, buf, len, memory, delivered, watching, closed, ?_⟩
  rw [log, chunkBytes_append, silent, List.append_nil]

/-- The close is done: its caller is outside a read, and whoever waits is
woken. -/
theorem SlotStep.ofCloseReturned {closer : Closer} {serial : Nat} {result : Except Exc Unit}
    {status : Int} {outcome : Outcome} (owned : Owned state)
    (ran : state.fiber fib = .wait (.closeHandle closer) serial (.set result))
    (fibers : after.fiber = Function.update state.notifyAll.fiber fib (.idle (some outcome)))
    (plain : (state.fiber fib).activeRead = none) (closed : after.closed = state.closed)
    (slot : KeepsSlot state after) : SlotStep state (.resume fib status) after := by
  refine .keeps (by simp) ?_ slot ?_ ?_
  · rintro other later ⟨⟩
    exact plain
  · intro other
    by_cases same : other = fib
    · rw [same, fibers, Function.update_self, plain]
      rfl
    · rw [fibers, Function.update_of_ne same, State.notifyAll_fiber, Fiber.activeRead_notify]
  · intro other active
    by_cases same : other = fib
    · rw [same] at active
      exact absurd plain active
    · rw [fibers, Function.update_of_ne same, State.notifyAll_fiber, closed,
        owned.closers fib ⟨_, _, _, .inr ran⟩]
      exact .woken

/-- The close that a read called at the end of the stream is done, and the
operation ends. -/
theorem SlotStep.ofReadReturned {call : ReadCall} {serial : Nat} {result : Except Exc Unit}
    {status : Int} {outcome : Outcome} (sole : SoleReader state)
    (ran : state.fiber fib = .wait (.closeHandle (.eof call)) serial (.set result))
    (fibers : after.fiber = Function.update state.notifyAll.fiber fib (.idle (some outcome)))
    (reading : after.reading = state.reading) : SlotStep state (.resume fib status) after := by
  have active : (state.fiber fib).activeRead = some call := by
    rw [ran]
    rfl
  have free : after.reading = false := by
    rw [reading]
    exact sole.ended fib ⟨call, _, _, .inr ran⟩
  refine .runs rfl active ?_ (.ofUpdate fibers (.inl ⟨.inl rfl, free⟩))
  intro other differs
  rw [fibers, Function.update_of_ne differs]
  exact .inr rfl

/-- A promise is set. -/
theorem SlotStep.ofAnswer {waiting : Waiting} {serial : Nat} {result : Except Exc Unit}
    (awaits : state.fiber fib = .wait waiting serial .unset)
    (fibers : after.fiber =
      Function.update state.fiber fib (.wait waiting serial (.set result)))
    (noReport : ∀ nread bytes, action ≠ .readCallback nread bytes)
    (noResume : ∀ other status, action ≠ .resume other status)
    (slot : KeepsSlot state after) : SlotStep state action after := by
  refine .keeps noReport (fun other status resumed => absurd resumed (noResume _ _)) slot ?_ ?_
  · intro other
    by_cases same : other = fib
    · rw [same, fibers, Function.update_self, awaits, Fiber.activeRead_wait]
    · rw [fibers, Function.update_of_ne same]
  · intro other active
    by_cases same : other = fib
    · rw [same, fibers, Function.update_self]
      exact .answered awaits
    · rw [fibers, Function.update_of_ne same]
      exact .same

theorem Transition.slotStep (transition : Transition state action after) (owned : Owned state)
    (sole : SoleReader state) : SlotStep state action after := by
  cases transition with
  | @ends events fib _ operation outcome _ unbound _ _ quiet _ _ runs =>
      have silent : chunkBytes (events ++ [.finished fib operation outcome]) = [] := by
        rw [chunkBytes, List.flatMap_eq_nil_iff]
        intro event member
        rcases List.mem_append.mp member with early | last
        · exact (quiet event early).noChunk
        · rw [List.mem_singleton.mp last]
          rfl
      refine .moves rfl unbound.notActive rfl ?_ ?_
        (.ofLog _ (by simp) silent rfl rfl rfl rfl rfl id id)
      · rintro nread bytes rfl
        rcases runs with called | ⟨_, _, resumed⟩
        · cases called
        · cases resumed
      · rintro other status rfl
        rcases runs with called | ⟨_, _, resumed⟩
        · cases called
        · cases resumed
          rfl
  | resolves idle _ =>
      exact .moves rfl (Fiber.Unbound.notActive (.inl idle)) rfl (by simp) (by simp)
        (.ofLog [.uvGetaddrinfo] rfl rfl rfl rfl rfl rfl rfl id id)
  | connects resolved =>
      exact .moves rfl (by rw [resolved]; rfl) rfl (by simp) (by simp)
        (.ofLog [.uvTcpConnect] rfl rfl rfl rfl rfl rfl rfl id id)
  | writes idle _ _ =>
      exact .moves rfl (Fiber.Unbound.notActive (.inl idle)) rfl (by simp) (by simp)
        (.ofLog [.uvWrite] rfl rfl rfl rfl rfl rfl rfl id id)
  | admits entry isOpen free _ =>
      exact .ofEntry entry isOpen free rfl (.inr ⟨⟨_, rfl⟩, rfl⟩)
  | rejects entry isOpen free _ =>
      exact .ofEntry entry isOpen free rfl (.inl ⟨.inl rfl, rfl⟩)
  | readsNull entry isOpen free _ =>
      exact .ofEntry entry isOpen free rfl (.inl ⟨.inl rfl, rfl⟩)
  | waitsAgain woken _ _ =>
      exact .runs rfl (by rw [woken]; rfl) (Moves.others_of_update rfl)
        (.ofUpdate rfl (.inr ⟨⟨_, rfl⟩, sole.reading _ _ _ woken⟩))
  | readFails woken _ _ =>
      exact .runs rfl (by rw [woken]; rfl) (Moves.others_of_update rfl)
        (.ofUpdate rfl (.inl ⟨.inl rfl, rfl⟩))
  | readReturns ends _ =>
      exact .runs rfl (by rw [ends.woken]; rfl) (Moves.others_of_update rfl)
        (.ofUpdate rfl (.inl ⟨.inl rfl, rfl⟩))
  | readStops ends _ =>
      exact .runs rfl (by rw [ends.woken]; rfl) (Moves.others_of_update rfl)
        (.ofUpdate rfl (.inl ⟨.inl rfl, rfl⟩))
  | @shutsDown _ _ _ closer _ entry _ _ =>
      refine .ofCloseEntry entry rfl ?_ ?_
        (.ofLog [.uvShutdown] rfl rfl rfl rfl rfl rfl rfl id fun _ => rfl)
      · intro plain
        cases closer <;> first | rfl | exact absurd rfl (plain _)
      · rintro call rfl
        exact .inr ⟨call, _, _, .inl rfl⟩
  | @closesAtOnce _ _ _ closer _ entry _ _ =>
      refine .ofCloseEntry entry rfl ?_ ?_
        (.ofLog [.uvShutdown, .uvClose] (by simp) rfl rfl rfl rfl rfl rfl (by simp) fun _ => rfl)
      · intro plain
        cases closer <;> first | rfl | exact absurd rfl (plain _)
      · rintro call rfl
        exact .inr ⟨call, _, _, .inr rfl⟩
  | @closeFails fib _ _ closer entered exc entry _ _ _ =>
      cases entry with
      | user idle =>
          exact .moves rfl (Fiber.Unbound.notActive (.inl idle)) rfl (by simp) (by simp)
            (.ofLog [.uvShutdown, .closeThrew exc, .finished fib .close (.threw exc)]
              (by simp [State.closeThrew]) rfl rfl rfl rfl rfl rfl id fun _ => rfl)
      | destructor idle =>
          exact .keeps (by simp) (by simp)
            (.ofLog [.uvShutdown, .closeThrew exc] (by simp [State.closeThrew]) rfl rfl rfl rfl
              rfl rfl id fun _ => rfl) (fun _ => rfl) fun _ _ => .same
      | eof woken _ _ =>
          exact .runs rfl (by rw [woken]; rfl) (Moves.others_of_update rfl)
            (.ofUpdate rfl (.inl ⟨.inl rfl, rfl⟩))
  | @closes fib closer serial result status shut _ =>
      cases closer with
      | eof call =>
          refine .runs rfl (by rw [shut]; rfl) (Moves.others_of_update rfl)
            (.ofUpdate rfl (.inl ⟨.inr ⟨call, _, _, .inr rfl⟩, ?_⟩))
          exact sole.ended fib ⟨call, _, _, .inl shut⟩
      | user | destructor =>
          exact .moves rfl (by rw [shut]; rfl) rfl (by simp) (by simp)
            (.ofLog [.uvClose] rfl rfl rfl rfl rfl rfl rfl (by simp) id)
  | @shutdownFails fib closer serial exc status shut _ =>
      cases closer with
      | eof call =>
          exact .runs rfl (by rw [shut]; rfl) (Moves.others_of_update rfl)
            (.ofUpdate rfl (.inl ⟨.inl rfl, rfl⟩))
      | user =>
          exact .moves rfl (by rw [shut]; rfl) rfl (by simp) (by simp)
            (.ofLog [.closeThrew exc, .finished fib .close (.threw exc)]
              (by simp [State.closeThrew]) rfl rfl rfl rfl rfl rfl id id)
      | destructor =>
          refine .keeps (by simp) ?_ (.ofLog [.closeThrew exc] (by simp [State.closeThrew]) rfl rfl
            rfl rfl rfl rfl id id) (fun _ => rfl) fun _ _ => .same
          rintro other later ⟨⟩
          rw [shut]
          rfl
  | @closeReturnsToUser fib _ _ _ ran =>
      exact .ofCloseReturned owned ran rfl (by rw [ran]; rfl) rfl
        (.ofLog [.notifyAll, .closeReturned, .finished fib .close (.returned [])] (by simp) rfl
          rfl rfl rfl rfl rfl id id)
  | @closeReturnsToDestructor fib _ _ _ ran =>
      exact .ofCloseReturned owned ran rfl (by rw [ran]; rfl) rfl
        (.ofLog [.notifyAll, .closeReturned, .finished fib .destroy (.returned [])] (by simp) rfl
          rfl rfl rfl rfl rfl id id)
  | @closeReturnsToRead fib call _ _ _ ran _ _ => exact .ofReadReturned sole ran rfl (by simp)
  | @closeStopsRead fib call _ _ _ ran _ => exact .ofReadReturned sole ran rfl (by simp)
  | destroysClosed idle _ =>
      exact .moves rfl (Fiber.Unbound.notActive (.inl (idle _))) rfl (by simp) (by simp)
        (.ofLog [.finished _ _ _] rfl rfl rfl rfl rfl rfl rfl id id)
  | @completes number status request waiting _ _ awaits =>
      exact .ofAnswer awaits rfl (by simp) (by simp)
        (.ofLog [.callback number status] rfl rfl rfl rfl rfl rfl rfl id id)
  | @delivers nread bytes len watching deliverable code =>
      have len_eq : len = reportCode nread := by
        unfold reportCode
        rcases code with ⟨nonnegative, rfl⟩ | ⟨eof, rfl⟩ | ⟨negative, notEof, rfl⟩
        · rw [if_pos nonnegative]
        · rw [eof]
          rfl
        · rw [if_neg (by omega), if_neg notEof]
      refine .reports rfl ⟨watching, deliverable, fun _ => rfl, rfl, rfl, rfl, len_eq, rfl, rfl,
        rfl, ?_⟩
      simp [chunkBytes, Event.chunkBytes]
  | handleCloses _ _ _ awaits =>
      exact .ofAnswer awaits rfl (by simp) (by simp)
        (.ofLog [.onHandleClosed] rfl rfl rfl rfl rfl rfl rfl id id)

/-- A reader that is held stays a reader. -/
theorem Fiber.Holds.waitRead_iff {fiber later : Fiber} {closed : Bool}
    (holds : fiber.Holds later closed) (call : ReadCall) :
    (∃ notified, later = .waitRead notified call) ↔
      ∃ notified, fiber = .waitRead notified call := by
  cases holds with
  | same => rfl
  | woken => cases fiber <;> simp [Fiber.notify]
  | answered unset => simp [unset]

theorem Fiber.Holds.inEofClose {fiber later : Fiber} {closed : Bool}
    (holds : fiber.Holds later closed) (inside : later.InEofClose) : fiber.InEofClose := by
  obtain ⟨call, serial, promise, waits⟩ := inside
  cases holds with
  | same => exact ⟨call, serial, promise, waits⟩
  | woken =>
      rw [Fiber.notify_eq_wait_iff, Fiber.notify_eq_wait_iff] at waits
      exact ⟨call, serial, promise, waits⟩
  | @answered waiting serial result _ unset =>
      refine ⟨call, serial, .unset, ?_⟩
      rcases waits with waits | waits <;> cases waits
      · exact .inl unset
      · exact .inr unset

omit [DecidableEq Fib] in
/-- Only the fiber that ran may be inside a read. -/
theorem Settles.soleReader (settles : Settles fib after)
    (others : ∀ other, other ≠ fib → (after.fiber other).activeRead = none) :
    SoleReader after := by
  have only : ∀ other, (after.fiber other).activeRead ≠ none → other = fib := by
    intro other active
    by_contra differs
    exact active (others other differs)
  constructor
  · intro first second call call' firstActive secondActive
    rw [only first (by simp [firstActive]), only second (by simp [secondActive])]
  · intro other notified call waits
    have same := only other (by simp [waits, Fiber.activeRead])
    rw [same] at waits
    cases settles with
    | outside outside _ => simp [waits, Fiber.activeRead] at outside
    | waits _ reading => exact reading
    | closes inside _ =>
        obtain ⟨_, _, _, closing | closing⟩ := inside <;> simp [waits] at closing
  · intro reading
    cases settles with
    | outside _ free => exact absurd (free.symm.trans reading) (by decide)
    | waits waits _ => exact ⟨fib, _, _, waits⟩
    | closes _ free => exact absurd (free.symm.trans reading) (by decide)
  · intro other inside
    have same := only other inside.active
    rw [same] at inside
    cases settles with
    | outside _ free => exact free
    | waits waits _ =>
        obtain ⟨_, _, _, closing | closing⟩ := inside <;> simp [waits] at closing
    | closes _ free => exact free

omit [DecidableEq Fib] in
theorem SoleReader.notify (sole : SoleReader state)
    (fibers : ∀ fib, after.fiber fib = (state.fiber fib).notify)
    (reading : after.reading = state.reading) : SoleReader after := by
  constructor
  · intro first second call call' firstActive secondActive
    rw [fibers, Fiber.activeRead_notify] at firstActive secondActive
    exact sole.single first second call call' firstActive secondActive
  · intro fib notified call waits
    rw [fibers] at waits
    obtain ⟨_, earlier, before⟩ := Fiber.notify_eq_waitRead_iff.mp waits
    rw [reading, sole.reading fib earlier call before]
  · intro busy
    obtain ⟨fib, notified, call, waits⟩ := sole.reader (reading ▸ busy)
    exact ⟨fib, true, call, by rw [fibers, waits]; rfl⟩
  · intro fib inside
    obtain ⟨call, serial, promise, waits⟩ := inside
    rw [fibers, Fiber.notify_eq_wait_iff, Fiber.notify_eq_wait_iff] at waits
    rw [reading, sole.ended fib ⟨call, serial, promise, waits⟩]

omit [DecidableEq Fib] in
theorem SlotStep.soleReader (step : SlotStep state action after) (owned : Owned state)
    (sole : SoleReader state) : SoleReader after := by
  cases step with
  | keeps _ _ slot active held =>
      constructor
      · simpa only [active] using sole.single
      · intro fib notified call waits
        have wasActive : (state.fiber fib).activeRead ≠ none := by
          rw [← active, waits]
          simp [Fiber.activeRead]
        obtain ⟨earlier, before⟩ := ((held fib wasActive).waitRead_iff call).mp ⟨_, waits⟩
        rw [slot.reading, sole.reading fib earlier call before]
      · intro busy
        obtain ⟨fib, notified, call, waits⟩ := sole.reader (slot.reading ▸ busy)
        have wasActive : (state.fiber fib).activeRead ≠ none := by
          rw [waits]
          simp [Fiber.activeRead]
        obtain ⟨later, now⟩ := ((held fib wasActive).waitRead_iff call).mpr ⟨_, waits⟩
        exact ⟨fib, later, call, now⟩
      · intro fib inside
        have wasActive : (state.fiber fib).activeRead ≠ none := by
          rw [← active]
          exact inside.active
        rw [slot.reading, sole.ended fib ((held fib wasActive).inEofClose inside)]
  | reports _ delivers => exact sole.notify delivers.fibers delivers.reading
  | @runs fib call _ _ active others settles =>
      apply settles.soleReader
      intro other differs
      rw [(others other differs).activeRead]
      cases isActive : (state.fiber other).activeRead with
      | none => rfl
      | some call' => exact absurd (sole.single _ _ _ _ isActive active) differs
  | @starts fib _ _ _ isOpen free others settles =>
      apply settles.soleReader
      intro other differs
      rw [(others other differs).activeRead]
      cases isActive : (state.fiber other).activeRead with
      | none => rfl
      | some call' =>
          -- A reader that waits has set `reading_`, one that closes has set `closed_`.
          rcases Fiber.activeRead_cases isActive with ⟨notified, waits⟩ | ⟨_, inside⟩
          · exact absurd (free.symm.trans (sole.reading _ _ _ waits)) (by decide)
          · exact absurd (isOpen.symm.trans (owned.closers _ inside.inClose)) (by decide)

end Inversion

/-! ## Reachable states -/

theorem SoleReader.initial (memory : Memory UInt8) : SoleReader (initial memory : State Fib) := by
  constructor
  · intro first second call call' active
    cases active
  · intro fib notified call waits
    cases waits
  · intro busy
    cases busy
  · intro fib inside
    exact absurd inside (Fiber.idle_notInEofClose none)

theorem reachable_soleReader [DecidableEq Fib] [Fintype Fib] {state : State Fib}
    {allowed : State Fib → Action Fib → Prop}
    (reachable : (machine Fib).Reachable allowed state) : SoleReader state := by
  apply reachable_invariant reachable SoleReader.initial
  intro before action after owned sole _ transition
  exact (transition.slotStep owned sole).soleReader owned sole

end Fiberio.Socket
