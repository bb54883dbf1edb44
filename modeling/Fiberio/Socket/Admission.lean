import Fiberio.Socket.Stream

/-!
Owns the order in which reads are admitted: a public read operation holds the
stream from its first admitted inner read to its last, because no suspension
point lies between the return of one inner read and the admission of the next.
Together with the partition of the stream this says what concurrent readers
obtain.

Does not own the bytes themselves.
-/

namespace Fiberio.Socket

open Fiberio.Foundation

variable {Fib : Type}

/-! ## The calls of the log -/

/-- The call that an event admits, or hands a chunk to. -/
def Event.servedCall : Event Fib → Option Nat
  | .admitted call | .chunk call _ => some call
  | _ => none

def Event.chunkId : Event Fib → Option Nat
  | .chunk call _ => some call
  | _ => none

def Event.isRefusal : Event Fib → Bool
  | .refused _ => true
  | _ => false

/-- The calls that obtained the chunks, one entry for each chunk. -/
def chunkIds (log : List (Event Fib)) : List Nat := log.filterMap Event.chunkId

@[simp] theorem chunkIds_append (first second : List (Event Fib)) :
    chunkIds (first ++ second) = chunkIds first ++ chunkIds second := by
  simp [chunkIds]

/-- Calls are admitted in the order of their numbers, and a call that was
refused was never admitted. -/
structure Admission (state : State Fib) : Prop where
  chunks : ∀ id ∈ chunkIds state.log, id < state.calls
  sorted : (chunkIds state.log).Pairwise (· ≤ ·)
  admitted : ∀ id, .admitted id ∈ state.log → id < state.calls
  refused : ∀ id, .refused id ∈ state.log → id < state.calls ∧ .admitted id ∉ state.log
  active : ∀ fib call, (state.fiber fib).activeRead = some call → call.id < state.calls ∧
    .refused call.id ∉ state.log ∧ ∀ id ∈ chunkIds state.log, id ≤ call.id

namespace Admission

variable {state after : State Fib} {fib : Fib}

theorem initial (memory : Memory UInt8) : Admission (initial memory : State Fib) := by
  constructor
  · intro id member
    cases member
  · exact List.Pairwise.nil
  · intro id member
    cases member
  · intro id member
    cases member
  · intro fib call active
    cases active

/-- The step serves at most the call number `id`. -/
theorem serve (admission : Admission state) (events : List (Event Fib)) (id : Nat)
    (log : after.log = state.log ++ events)
    (served : ∀ event ∈ events, ∀ other, event.servedCall = some other → other = id)
    (noRefusal : events.any Event.isRefusal = false)
    (known : id < after.calls) (calls : state.calls ≤ after.calls)
    (notRefused : .refused id ∉ state.log) (above : ∀ other ∈ chunkIds state.log, other ≤ id)
    (active : ∀ fib call, (after.fiber fib).activeRead = some call → call.id = id) :
    Admission after := by
  have newChunks : ∀ other ∈ chunkIds events, other = id := by
    intro other member
    obtain ⟨event, listed, isChunk⟩ := List.mem_filterMap.mp member
    apply served event listed
    cases event <;> simp_all [Event.chunkId, Event.servedCall]
  have refusals : ∀ other, .refused other ∈ after.log → .refused other ∈ state.log := by
    intro other member
    rw [log] at member
    rcases List.mem_append.mp member with earlier | new
    · exact earlier
    · exact absurd (List.any_eq_false.mp noRefusal _ new) (by simp [Event.isRefusal])
  have admissions : ∀ other, .admitted other ∈ after.log →
      .admitted other ∈ state.log ∨ other = id := by
    intro other member
    rw [log] at member
    rcases List.mem_append.mp member with earlier | new
    · exact .inl earlier
    · exact .inr (served _ new other rfl)
  have allChunks : ∀ other ∈ chunkIds after.log, other ∈ chunkIds state.log ∨ other = id := by
    intro other member
    rw [log, chunkIds_append] at member
    exact (List.mem_append.mp member).imp (fun earlier => earlier) (newChunks other)
  constructor
  · intro other member
    rcases allChunks other member with earlier | rfl
    · have := admission.chunks other earlier
      omega
    · exact known
  · rw [log, chunkIds_append]
    refine List.pairwise_append.mpr ⟨admission.sorted, ?_, ?_⟩
    · refine List.pairwise_of_forall_mem_list fun first firstMember second secondMember => ?_
      rw [newChunks first firstMember, newChunks second secondMember]
    · intro earlier earlierMember later laterMember
      rw [newChunks later laterMember]
      exact above earlier earlierMember
  · intro other member
    rcases admissions other member with earlier | rfl
    · have := admission.admitted other earlier
      omega
    · exact known
  · intro other member
    obtain ⟨below, notAdmitted⟩ := admission.refused other (refusals other member)
    refine ⟨by omega, fun nowAdmitted => ?_⟩
    rcases admissions other nowAdmitted with earlier | rfl
    · exact notAdmitted earlier
    · exact notRefused (refusals other member)
  · intro fib call isActive
    rw [active fib call isActive]
    refine ⟨known, fun member => notRefused (refusals id member), fun other member => ?_⟩
    rcases allChunks other member with earlier | rfl
    · exact above other earlier
    · exact Nat.le_refl _

/-- The step serves no call; it may refuse the one that starts in it. -/
theorem quiet (admission : Admission state) (events : List (Event Fib))
    (log : after.log = state.log ++ events)
    (unserved : ∀ event ∈ events, event.servedCall = none)
    (refusal : ∀ id, .refused id ∈ events → id = state.calls ∧ after.calls = state.calls + 1)
    (calls : state.calls ≤ after.calls)
    (active : ∀ fib call, (after.fiber fib).activeRead = some call →
      ∃ other, (state.fiber other).activeRead = some call) : Admission after := by
  have sameChunks : chunkIds after.log = chunkIds state.log := by
    rw [log, chunkIds_append]
    have none : chunkIds events = [] := by
      apply List.filterMap_eq_nil_iff.mpr
      intro event member
      have silent := unserved event member
      cases event <;> simp_all [Event.chunkId, Event.servedCall]
    rw [none, List.append_nil]
  have admissions : ∀ id, .admitted id ∈ after.log → .admitted id ∈ state.log := by
    intro id member
    rw [log] at member
    rcases List.mem_append.mp member with earlier | new
    · exact earlier
    · exact absurd (unserved _ new) (by simp [Event.servedCall])
  have refusals : ∀ id, .refused id ∈ after.log →
      .refused id ∈ state.log ∨ (id = state.calls ∧ after.calls = state.calls + 1) := by
    intro id member
    rw [log] at member
    exact (List.mem_append.mp member).imp (fun earlier => earlier) (refusal id)
  constructor
  · intro id member
    rw [sameChunks] at member
    have := admission.chunks id member
    omega
  · rw [sameChunks]
    exact admission.sorted
  · intro id member
    have := admission.admitted id (admissions id member)
    omega
  · intro id member
    rcases refusals id member with earlier | ⟨rfl, more⟩
    · obtain ⟨below, notAdmitted⟩ := admission.refused id earlier
      exact ⟨by omega, fun nowAdmitted => notAdmitted (admissions id nowAdmitted)⟩
    · refine ⟨by omega, fun nowAdmitted => ?_⟩
      have := admission.admitted _ (admissions _ nowAdmitted)
      omega
  · intro fib call isActive
    obtain ⟨other, earlier⟩ := active fib call isActive
    obtain ⟨below, notRefused, above⟩ := admission.active other call earlier
    refine ⟨by omega, fun member => ?_, by rw [sameChunks]; exact above⟩
    rcases refusals _ member with refused | ⟨isNew, _⟩
    · exact notRefused refused
    · omega

end Admission

/-! ## Every step keeps the order -/

section Preservation

variable [DecidableEq Fib] {state after entered : State Fib} {fib : Fib} {action : Action Fib}

/-- A fiber with no read under way moves on without one. -/
theorem Admission.move {value : Fiber} (admission : Admission state) (events : List (Event Fib))
    (log : after.log = state.log ++ events)
    (unserved : ∀ event ∈ events, event.servedCall = none)
    (noRefusal : ∀ id, .refused id ∉ events) (calls : after.calls = state.calls)
    (fibers : after.fiber = Function.update state.fiber fib value)
    (active : ∀ call, value.activeRead = some call → (state.fiber fib).activeRead = some call) :
    Admission after := by
  refine admission.quiet events log unserved (fun id member => absurd member (noRefusal id))
    (by omega) ?_
  intro other call isActive
  rw [fibers] at isActive
  by_cases same : other = fib
  · subst same
    rw [Function.update_self] at isActive
    exact ⟨other, active call isActive⟩
  · rw [Function.update_of_ne same] at isActive
    exact ⟨other, isActive⟩

/-- The fiber enters `read`; whatever comes of it, only its call is served. -/
theorem Admission.enter {status : Int} {call : ReadCall} {value : Fiber}
    (admission : Admission state) (owns : ReaderOwns state) (owned : Owned state)
    (requests : SizedReads state action)
    (entry : ReadEntry state fib action status call entered) (isOpen : entered.closed = false)
    (free : entered.reading = false) (events : List (Event Fib))
    (log : after.log = entered.log ++ events)
    (served : ∀ event ∈ events, ∀ other, event.servedCall = some other → other = call.id)
    (noRefusal : events.any Event.isRefusal = false) (calls : after.calls = entered.calls)
    (fibers : after.fiber = Function.update entered.fiber fib value)
    (active : ∀ call', value.activeRead = some call' → call' = call) : Admission after := by
  obtain ⟨sameFibers, _, _, others⟩ := entry.alone owns free
  have closers := (entry.owned owned).noCloser isOpen
  have activeAfter : ∀ other call', (after.fiber other).activeRead = some call' →
      call'.id = call.id := by
    intro other call' isActive
    rw [fibers] at isActive
    by_cases same : other = fib
    · subst same
      rw [Function.update_self] at isActive
      rw [active call' isActive]
    · rw [Function.update_of_ne same, sameFibers] at isActive
      rcases Fiber.activeRead_cases isActive with ⟨notified, waits⟩ | ⟨_, inside⟩
      · exact absurd (others _ _ _ waits) same
      · exact absurd (sameFibers ▸ inside.inClose) (closers other)
  cases entry with
  | start idle _ first =>
      have fresh : call.id = state.calls := (ReadRequest.Sized.first requests first).2.1
      have calls : after.calls = state.calls + 1 := calls
      refine admission.serve events call.id log served noRefusal (by omega) (by omega) ?_ ?_
        activeAfter
      · intro member
        have := (admission.refused _ member).1
        omega
      · intro other member
        have := admission.chunks other member
        omega
  | @again earlier _ woken _ _ notEof notFailed continues =>
      obtain ⟨_, within⟩ := owns.count woken isOpen notEof notFailed
      obtain ⟨_, sameId, _⟩ := (owns.sized _ _ _ woken).next within continues
      obtain ⟨below, notRefused, above⟩ := admission.active fib earlier (by rw [woken]; rfl)
      have calls : after.calls = state.calls := calls
      rw [sameId] at served activeAfter
      refine admission.serve
        (.chunk earlier.id (state.memory.load earlier.buf (toSize state.len)) :: events)
        earlier.id ?_ ?_ ?_ (by omega) (by omega) notRefused above activeAfter
      · rw [log]
        simp
      · intro event member other isServed
        rcases List.mem_cons.mp member with rfl | later
        · exact (Option.some.inj isServed).symm
        · exact served event later other isServed
      · rw [List.any_cons, noRefusal]
        rfl

/-- The only fiber with a read under way ends it, with a last chunk. -/
theorem Admission.leave {call : ReadCall} (admission : Admission state)
    (active : (state.fiber fib).activeRead = some call)
    (sole : ∀ other call', (state.fiber other).activeRead = some call' → other = fib)
    (events : List (Event Fib)) (log : after.log = state.log ++ events)
    (served : ∀ event ∈ events, ∀ other, event.servedCall = some other → other = call.id)
    (noRefusal : events.any Event.isRefusal = false) (calls : after.calls = state.calls)
    (left : ∃ last, after.fiber fib = .idle last)
    (others : ∀ other, other ≠ fib → after.fiber other = state.fiber other ∨
      after.fiber other = (state.fiber other).notify) : Admission after := by
  obtain ⟨below, notRefused, above⟩ := admission.active fib call active
  refine admission.serve events call.id log served noRefusal (by omega) (by omega) notRefused
    above ?_
  intro other call' isActive
  by_cases same : other = fib
  · obtain ⟨last, left⟩ := left
    rw [same, left] at isActive
    cases isActive
  · have earlier : (state.fiber other).activeRead = some call' := by
      rcases others other same with unchanged | notified
      · rwa [unchanged] at isActive
      · rwa [notified, Fiber.activeRead_notify] at isActive
    exact absurd (sole other call' earlier) same

/-- An exception leaves `close`. -/
theorem Admission.closeThrew {closer : Closer} {exc : Exc} (admission : Admission state) :
    Admission (state.closeThrew fib closer exc) := by
  cases closer with
  | user =>
      exact admission.move [.closeThrew exc, .finished fib .close (.threw exc)]
        (by simp [State.closeThrew]) (by simp [Event.servedCall]) (by simp)
        (by simp [State.closeThrew]) rfl (by simp [Fiber.activeRead])
  | eof call =>
      exact admission.move [.closeThrew exc, .finished fib .read (.threw exc)]
        (by simp [State.closeThrew]) (by simp [Event.servedCall]) (by simp)
        (by simp [State.closeThrew]) rfl (by simp [Fiber.activeRead])
  | destructor =>
      exact admission.quiet [.closeThrew exc] (by simp [State.closeThrew])
        (by simp [Event.servedCall]) (by simp) (by simp [State.closeThrew])
        fun other call isActive => ⟨other, isActive⟩

/-- The close is done and the fiber leaves it. -/
theorem Admission.closeReturned {operation : Operation} {outcome : Outcome}
    (admission : Admission state)
    (log : after.log = state.log ++
      [.notifyAll, .closeReturned, .finished fib operation outcome])
    (calls : after.calls = state.calls)
    (fibers : after.fiber =
      Function.update state.notifyAll.fiber fib (.idle (some outcome))) : Admission after := by
  refine admission.quiet _ log (by simp [Event.servedCall]) (by simp) (by omega) ?_
  intro other call isActive
  rw [fibers] at isActive
  by_cases same : other = fib
  · rw [same, Function.update_self] at isActive
    cases isActive
  · rw [Function.update_of_ne same, State.notifyAll_fiber, Fiber.activeRead_notify] at isActive
    exact ⟨other, isActive⟩

omit [DecidableEq Fib] in
theorem CloseEntry.same {status : Int} {closer : Closer}
    (entry : CloseEntry state fib action status closer entered) :
    entered.log = state.log ∧ entered.calls = state.calls := by
  cases entry <;> exact ⟨rfl, rfl⟩

omit [DecidableEq Fib] in
/-- A fiber that suspends inside `close` keeps the read it came from. -/
theorem CloseEntry.active {status : Int} {closer : Closer} {waiting : Waiting} {serial : Nat}
    {promise : PromiseState} (entry : CloseEntry state fib action status closer entered)
    (kind : waiting = .shutdown closer ∨ waiting = .closeHandle closer) (call : ReadCall)
    (active : (Fiber.wait waiting serial promise).activeRead = some call) :
    (state.fiber fib).activeRead = some call := by
  cases entry with
  | user _ => rcases kind with rfl | rfl <;> cases active
  | destructor _ => rcases kind with rfl | rfl <;> cases active
  | eof woken _ _ =>
      rw [woken]
      rcases kind with rfl | rfl <;> exact active

theorem Transition.admission (transition : Transition state action after)
    (owned : Owned state) (owns : ReaderOwns state) (admission : Admission state)
    (requests : SizedReads state action) : Admission after := by
  cases transition with
  | @ends events fib _ operation outcome calls unbound counted refusal quiet _ _ _ =>
      refine admission.quiet (events ++ [.finished fib operation outcome]) (by simp) ?_ ?_ ?_ ?_
      · intro event member
        rcases List.mem_append.mp member with listed | last
        · cases quiet event listed <;> rfl
        · rw [List.mem_singleton.mp last]
          rfl
      · intro id member
        have listed : .refused id ∈ events := by simpa using member
        refine ⟨?_, refusal id listed⟩
        cases quiet _ listed with
        | refused _ _ => rfl
      · show state.calls ≤ calls
        omega
      · intro other call isActive
        by_cases same : other = fib
        · subst same
          simp [Fiber.activeRead] at isActive
        · exact ⟨other, by simpa [same] using isActive⟩
  | resolves idle _ =>
      exact admission.move [.uvGetaddrinfo] (by simp) (by simp [Event.servedCall]) (by simp)
        (by simp) rfl (by intro call active; cases active)
  | connects resolved =>
      exact admission.move [.uvTcpConnect] (by simp) (by simp [Event.servedCall]) (by simp)
        (by simp) rfl (by intro call active; cases active)
  | writes idle _ _ =>
      exact admission.move [.uvWrite] (by simp) (by simp [Event.servedCall]) (by simp)
        (by simp) rfl (by intro call active; cases active)
  | @admits _ _ _ call _ entry isOpen free _ =>
      exact admission.enter owns owned requests entry isOpen free
        [.admitted call.id, .uvReadStart] (by simp) (by simp [Event.servedCall]) rfl (by simp) rfl
        (by simp [Fiber.activeRead])
  | @rejects fib _ _ call _ exc entry isOpen free _ =>
      exact admission.enter owns owned requests entry isOpen free
        [.admitted call.id, .uvReadStart, .finished fib .read (.threw exc)] (by simp)
        (by simp [Event.servedCall]) rfl (by simp) rfl (by simp [Fiber.activeRead])
  | readsNull entry _ _ null => exact absurd null (entry.sized owns requests).buffer
  | waitsAgain woken unfinished isOpen =>
      rcases owns.notified _ _ woken with closed | ⟨finished, _⟩
      · exact absurd (isOpen.symm.trans closed) (by decide)
      · exact absurd finished unfinished
  | @readFails fib _ _ woken _ _ =>
      exact admission.move [.finished fib .read (.threw (.ioError (.text "read failed")))]
        (by simp) (by simp [Event.servedCall]) (by simp) (by simp) rfl
        (by simp [Fiber.activeRead])
  | @readReturns fib call len _ ends _ =>
      exact admission.leave (by rw [ends.woken]; rfl) (owns.onlyActive ends.woken)
        [.chunk call.id _, .finished fib .read _] (by simp; exact ⟨rfl, rfl⟩)
        (by simp [Event.servedCall]) rfl (by simp) ⟨_, Function.update_self _ _ _⟩
        (fun other differs => .inl (by simp [differs]))
  | @readStops fib call len _ ends _ =>
      exact admission.leave (by rw [ends.woken]; rfl) (owns.onlyActive ends.woken)
        [.chunk call.id _, .finished fib .read _] (by simp; exact ⟨rfl, rfl⟩)
        (by simp [Event.servedCall]) rfl (by simp) ⟨_, Function.update_self _ _ _⟩
        (fun other differs => .inl (by simp [differs]))
  | shutsDown entry _ _ =>
      have fibers := (entry.marked owned).2.1
      exact admission.move [.uvShutdown] (by simp [entry.same]) (by simp [Event.servedCall])
        (by simp) (by simp [entry.same]) (by rw [← fibers]; rfl) (entry.active (.inl rfl))
  | closesAtOnce entry _ _ =>
      have fibers := (entry.marked owned).2.1
      exact admission.move [.uvShutdown, .uvClose] (by simp [entry.same])
        (by simp [Event.servedCall]) (by simp) (by simp [entry.same]) (by rw [← fibers]; rfl)
        (entry.active (.inr rfl))
  | @closeFails fib _ _ closer entered exc entry isOpen _ _ =>
      have fibers := (entry.marked owned).2.1
      have marked : Admission { entered.emit .uvShutdown with closed := true } := by
        refine admission.quiet [.uvShutdown] (by simp [entry.same]) (by simp [Event.servedCall])
          (by simp) (by simp [entry.same]) ?_
        intro other call isActive
        exact ⟨other, by simpa [fibers] using isActive⟩
      exact marked.closeThrew
  | closes shut _ =>
      refine admission.move [.uvClose] (by simp) (by simp [Event.servedCall]) (by simp) (by simp)
        rfl ?_
      intro call active
      rw [shut]
      rename_i closer _ _ _ _
      cases closer with
      | eof earlier => exact active
      | user => cases active
      | destructor => cases active
  | shutdownFails _ _ => exact admission.closeThrew
  | closeReturnsToUser _ => exact admission.closeReturned (by simp; rfl) (by simp) rfl
  | closeReturnsToDestructor _ => exact admission.closeReturned (by simp; rfl) (by simp) rfl
  | @closeReturnsToRead fib call _ _ _ ran _ last =>
      have inside : (state.fiber fib).InEofClose := ⟨call, _, _, .inr ran⟩
      exact admission.leave (by rw [ran]; rfl) (owns.onlyEof owned inside)
        [.notifyAll, .closeReturned, .chunk call.id [],
          .finished fib .read (.returned (call.result state.memory 0))] (by simp)
        (by simp [Event.servedCall]) rfl (by simp) ⟨_, Function.update_self _ _ _⟩
        (fun other differs => .inr (by simp [differs]))
  | @closeStopsRead fib call _ _ _ ran _ =>
      have inside : (state.fiber fib).InEofClose := ⟨call, _, _, .inr ran⟩
      exact admission.leave (by rw [ran]; rfl) (owns.onlyEof owned inside)
        [.notifyAll, .closeReturned, .chunk call.id [],
          .finished fib .read (.threw .socketClosedError)] (by simp)
        (by simp [Event.servedCall]) rfl (by simp) ⟨_, Function.update_self _ _ _⟩
        (fun other differs => .inr (by simp [differs]))
  | destroysClosed _ _ =>
      exact admission.move [_] (by simp; rfl) (by simp [Event.servedCall]) (by simp) (by simp)
        rfl (by simp [Fiber.activeRead])
  | @completes id status request waiting _ _ awaits =>
      refine admission.move [.callback id status] (by simp) (by simp [Event.servedCall]) (by simp)
        (by simp) rfl ?_
      intro call active
      rw [awaits, Fiber.activeRead_wait]
      exact active
  | @delivers nread _ _ _ _ _ =>
      refine admission.quiet [.readCallback nread, .uvReadStop, .notifyAll] (by simp)
        (by simp [Event.servedCall]) (by simp) (by simp) ?_
      intro other call isActive
      exact ⟨other, by simpa [Fiber.activeRead_notify] using isActive⟩
  | handleCloses _ _ _ awaits =>
      refine admission.move [.onHandleClosed] (by simp) (by simp [Event.servedCall]) (by simp)
        (by simp) rfl ?_
      intro call active
      rw [awaits, Fiber.activeRead_wait]
      exact active

theorem closeThrew_refused {closer : Closer} {exc : Exc} {id : Nat}
    (member : .refused id ∈ (state.closeThrew fib closer exc).log) :
    .refused id ∈ state.log := by
  cases closer <;> simpa [State.closeThrew] using member

/-- A step that refuses a read changes nothing that the other readers see. -/
theorem Transition.refusal {id : Nat} (transition : Transition state action after)
    (now : .refused id ∈ after.log) (before : .refused id ∉ state.log) :
    after.buf = state.buf ∧ after.len = state.len ∧ after.reading = state.reading ∧
      after.closed = state.closed ∧ after.tcp = state.tcp ∧ after.memory = state.memory := by
  cases transition with
  | ends => simp
  | admits entry => cases entry <;> simp_all
  | rejects entry => cases entry <;> simp_all
  | readsNull entry => cases entry <;> simp_all
  | shutsDown entry => simp_all [entry.same]
  | closesAtOnce entry => simp_all [entry.same]
  | closeFails entry =>
      have earlier := closeThrew_refused now
      simp_all [entry.same]
  | shutdownFails => exact absurd (closeThrew_refused now) before
  | _ => simp_all

end Preservation

/-! ## Concurrent readers -/

section Reachable

variable [DecidableEq Fib] [Fintype Fib] {state : State Fib}

theorem reachable_partition (reachable : (machine Fib).Reachable ReadersOnly state) :
    Partition state := by
  have both : ReaderOwns state ∧ Partition state := by
    apply reachable_invariant reachable
    · exact fun memory => ⟨ReaderOwns.initial memory, Partition.initial memory⟩
    · intro before action after owned holds readers transition
      exact ⟨transition.readerOwns owned holds.1 readers.sized,
        transition.partition owned holds.1 holds.2 readers⟩
  exact both.2

theorem reachable_admission {allowed : State Fib → Action Fib → Prop}
    (reachable : (machine Fib).Reachable allowed state)
    (requests : ∀ state action, allowed state action → SizedReads state action) :
    Admission state := by
  have both : ReaderOwns state ∧ Admission state := by
    apply reachable_invariant reachable
    · exact fun memory => ⟨ReaderOwns.initial memory, Admission.initial memory⟩
    · intro before action after owned holds admitted transition
      have sized := requests _ _ admitted
      exact ⟨transition.readerOwns owned holds.1 sized,
        transition.admission owned holds.1 holds.2 sized⟩
  exact both.2

omit [DecidableEq Fib] [Fintype Fib] in
theorem Partition.chunks_prefix (partition : Partition state) :
    chunkBytes state.log <+: state.tcp.delivered := by
  by_cases waiting : ∃ fib call, state.fiber fib = .waitRead true call ∧ 0 ≤ state.len
  · obtain ⟨fib, call, woken, nonnegative⟩ := waiting
    rw [partition.arrived fib call woken nonnegative]
    exact List.prefix_append _ _
  · rw [partition.handedOut]
    intro fib call woken
    by_contra nonnegative
    exact waiting ⟨fib, call, woken, by omega⟩

/-- Fibers that share a socket and only read from it partition the stream. What
the calls that return normally obtain is, in order of completion, a prefix of
the delivered bytes; the chunks of one call stand next to each other in the
stream; a call that was admitted is never refused later; and the step that
refuses a call leaves the socket and its bytes as they were. -/
theorem concurrent_readers_partition_stream
    (reachable : (machine Fib).Reachable ReadersOnly state) :
    obtained state.log <+: state.tcp.delivered ∧
      (chunkBytes state.log <+: state.tcp.delivered ∧
        (chunkIds state.log).Pairwise (· ≤ ·)) ∧
      (∀ id, .admitted id ∈ state.log → .refused id ∉ state.log) ∧
      ∀ action after id, (machine Fib).step state action = some after →
        .refused id ∈ after.log → .refused id ∉ state.log →
          after.buf = state.buf ∧ after.len = state.len ∧ after.reading = state.reading ∧
            after.closed = state.closed ∧ after.tcp = state.tcp ∧
            after.memory = state.memory := by
  have owned := reachable_owned reachable
  have partition := reachable_partition reachable
  have admission := reachable_admission reachable fun _ _ readers => readers.sized
  refine ⟨partition.kept.trans partition.chunks_prefix,
    ⟨partition.chunks_prefix, admission.sorted⟩, ?_, ?_⟩
  · intro id admitted refused
    exact (admission.refused id refused).2 admitted
  · intro action after id stepped now before
    exact (step_transition owned stepped).refusal now before

/-- Two chunks for one `read_exactly`, with a refused reader between them and
another reader after it. -/
theorem read_exactly_contiguous_despite_refusal :
    ∃ state : State (Fin 2), (machine (Fin 2)).Reachable ReadersOnly state ∧
      .refused 1 ∈ state.log ∧ chunkIds state.log = [0, 0, 2] ∧
      obtained state.log = [1, 2, 3, 4, 5] ∧
      obtained state.log <+: state.tcp.delivered := by
  have first : (machine (Fin 2)).Reachable ReadersOnly (initial fun _ => 0) := .start ⟨_, rfl⟩
  have reachable := first.exec
    (Machine.along_of_forall (by simp [ReadersOnly, ReadRequest.Sized]) _)
    (rfl : (machine (Fin 2)).exec (initial fun _ => 0)
      [.read 0 (.readExactly 100 4) 0, .read 1 (.read 200 8) 0, .readCallback 3 [1, 2, 3],
        .resume 0 0, .readCallback 1 [4], .resume 0 0, .read 1 (.read 200 8) 0,
        .readCallback 1 [5], .resume 1 0] = some _)
  refine ⟨_, reachable, ?_, ?_, ?_, (concurrent_readers_partition_stream reachable).1⟩ <;>
    decide +kernel

end Reachable

end Fiberio.Socket
