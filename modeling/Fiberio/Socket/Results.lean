import Fiberio.Socket.Stream

/-!
Owns which fiber a step of the socket moves, and what the step hands to it:
the bytes that a read returns are the bytes by which the results in the log
grow, and only a fiber that is reading gets any. Also owns which steps close
the socket, deliver bytes and queue buffers.

Does not own what the bytes are.
-/

namespace Fiberio.Socket

open Fiberio.Foundation

/-! ## The fiber that moves -/

/-- The bytes that the last operation of the fiber returned. -/
def Fiber.returned : Fiber → List UInt8
  | .idle (some (.returned bytes)) => bytes
  | _ => []

/-- The fiber does not run: at most it is woken. -/
def Fiber.Stays (fiber later : Fiber) : Prop := later = fiber ∨ later = fiber.notify

namespace Fiber.Stays

variable {fiber later : Fiber}

theorem idle (stays : fiber.Stays later) (idle : fiber.isIdle = true) : later = fiber := by
  rcases stays with same | woken
  · exact same
  · rw [woken]
    cases fiber <;> first | rfl | cases idle

theorem activeRead (stays : fiber.Stays later) : later.activeRead = fiber.activeRead := by
  rcases stays with same | woken
  · rw [same]
  · rw [woken, Fiber.activeRead_notify]

theorem returned (stays : fiber.Stays later) : later.returned = fiber.returned := by
  rcases stays with same | woken
  · rw [same]
  · rw [woken]
    cases fiber <;> rfl

end Fiber.Stays

theorem Fiber.returned_of_activeRead {fiber : Fiber} {call : ReadCall}
    (active : fiber.activeRead = some call) : fiber.returned = [] := by
  cases fiber with
  | idle last => cases active
  | waitRead notified call => rfl
  | wait waiting serial promise => rfl

variable {Fib : Type}

/-- The fiber enters a public read operation, or is inside one. -/
def Reads (state : State Fib) (action : Action Fib) (fib : Fib) : Prop :=
  (∃ request status, action = .read fib request status) ∨
    (state.fiber fib).activeRead ≠ none

/-- The inner read is the one that the fiber is in, or one that it enters. -/
def Pursues (state : State Fib) (action : Action Fib) (fib : Fib) (call : ReadCall) : Prop :=
  (state.fiber fib).activeRead = some call ∨
    ∃ status entered, ReadEntry state fib action status call entered

/-- Which fiber a step moves, and what the step hands to it. -/
inductive Moves (state : State Fib) (action : Action Fib) (after : State Fib) : Prop where
  | nobody (notEntered : ∀ other request status, action ≠ .read other request status)
      (others : ∀ other, (state.fiber other).Stays (after.fiber other))
      (same : obtained after.log = obtained state.log)
  | reader (fib : Fib) (reads : Reads state action fib)
      (stays : (after.fiber fib).isIdle = true ∨
        ∃ call, (after.fiber fib).activeRead = some call ∧ Pursues state action fib call)
      (others : ∀ other, other ≠ fib → (state.fiber other).Stays (after.fiber other))
      (handed : obtained after.log = obtained state.log ++ (after.fiber fib).returned)
  | other (fib : Fib) (called : (state.fiber fib).isIdle = true → action.caller = some fib)
      (notEntered : ∀ other request status, action ≠ .read other request status)
      (outside : (state.fiber fib).activeRead = none)
      (stays : (after.fiber fib).activeRead = none)
      (others : ∀ other, other ≠ fib → (state.fiber other).Stays (after.fiber other))
      (same : obtained after.log = obtained state.log)

namespace Moves

variable [DecidableEq Fib] {state after : State Fib} {fib : Fib} {action : Action Fib}

/-- The others stay where one fiber is updated. -/
theorem others_of_update {value : Fiber}
    (fibers : after.fiber = Function.update state.fiber fib value) (other : Fib)
    (differs : other ≠ fib) : (state.fiber other).Stays (after.fiber other) := by
  rw [fibers, Function.update_of_ne differs]
  exact .inl rfl

/-- A fiber that reads returns from its operation. -/
theorem returns {outcome : Outcome} (reads : Reads state action fib)
    (fibers : after.fiber = Function.update state.fiber fib (.idle (some outcome)))
    (handed : obtained after.log =
      obtained state.log ++ (Fiber.idle (some outcome)).returned) : Moves state action after := by
  have now : after.fiber fib = .idle (some outcome) := by
    rw [fibers, Function.update_self]
  apply Moves.reader fib reads
  · rw [now]
    exact .inl rfl
  · exact others_of_update fibers
  · rw [now]
    exact handed

/-- A fiber moves on; if it was reading it is in the same read. -/
theorem advances {value : Fiber}
    (called : (state.fiber fib).isIdle = true → action.caller = some fib)
    (notEntered : ∀ other request status, action ≠ .read other request status)
    (fibers : after.fiber = Function.update state.fiber fib value)
    (active : value.activeRead = (state.fiber fib).activeRead)
    (same : obtained after.log = obtained state.log) : Moves state action after := by
  have now : after.fiber fib = value := by
    rw [fibers, Function.update_self]
  by_cases reading : (state.fiber fib).activeRead = none
  · apply Moves.other fib called notEntered reading
    · rw [now, active, reading]
    · exact others_of_update fibers
    · exact same
  · obtain ⟨call, isCall⟩ := Option.ne_none_iff_exists'.mp reading
    have stillActive : (after.fiber fib).activeRead = some call := by
      rw [now, active, isCall]
    apply Moves.reader fib (.inr reading)
    · exact .inr ⟨call, stillActive, .inl isCall⟩
    · exact others_of_update fibers
    · rw [Fiber.returned_of_activeRead stillActive, List.append_nil]
      exact same

/-- A suspended call comes one step further. -/
theorem resumes {value : Fiber} (suspended : (state.fiber fib).isIdle = false)
    (notEntered : ∀ other request status, action ≠ .read other request status)
    (fibers : after.fiber = Function.update state.fiber fib value)
    (active : value.activeRead = (state.fiber fib).activeRead)
    (same : obtained after.log = obtained state.log) : Moves state action after := by
  refine .advances ?_ notEntered fibers active same
  intro idle
  exact absurd (suspended.symm.trans idle) (by decide)

end Moves

/-! ## Every step moves one fiber at most -/

section Inversion

variable [DecidableEq Fib] {state after entered : State Fib} {fib : Fib} {action : Action Fib}

omit [DecidableEq Fib] in
theorem ReadEntry.reads {status : Int} {call : ReadCall}
    (entry : ReadEntry state fib action status call entered) :
    Reads state action fib ∧ entered.fiber = state.fiber ∧
      obtained entered.log = obtained state.log := by
  cases entry with
  | start _ _ _ => exact ⟨.inl ⟨_, _, rfl⟩, rfl, rfl⟩
  | again woken _ _ _ _ _ =>
      refine ⟨.inr (by simp [woken, Fiber.activeRead]), rfl, ?_⟩
      simp [obtained, Event.obtained]

omit [DecidableEq Fib] in
/-- The fiber that enters `close` is in the same read as before, or in none. -/
theorem CloseEntry.activeRead {status : Int} {closer : Closer} {waiting : Waiting}
    {serial : Nat} {promise : PromiseState}
    (entry : CloseEntry state fib action status closer entered)
    (kind : waiting = .shutdown closer ∨ waiting = .closeHandle closer) :
    (Fiber.wait waiting serial promise).activeRead = (state.fiber fib).activeRead := by
  cases entry with
  | user idle =>
      rw [Fiber.Unbound.notActive (.inl idle)]
      rcases kind with rfl | rfl <;> rfl
  | destructor idle =>
      rw [Fiber.Unbound.notActive (.inl (idle fib))]
      rcases kind with rfl | rfl <;> rfl
  | eof woken _ _ =>
      rw [woken]
      rcases kind with rfl | rfl <;> rfl

omit [DecidableEq Fib] in
theorem CloseEntry.called {status : Int} {closer : Closer}
    (entry : CloseEntry state fib action status closer entered) :
    ((state.fiber fib).isIdle = true → action.caller = some fib) ∧
      (∀ other request status, action ≠ .read other request status) ∧
      entered.fiber = state.fiber ∧ entered.log = state.log := by
  cases entry with
  | user _ => exact ⟨fun _ => rfl, by simp, rfl, rfl⟩
  | destructor _ => exact ⟨fun _ => rfl, by simp, rfl, rfl⟩
  | eof woken _ _ =>
      refine ⟨?_, by simp, rfl, rfl⟩
      intro idle
      rw [woken] at idle
      cases idle

/-- An exception leaves `close`. -/
theorem Moves.closeThrew {base : State Fib} {closer : Closer} {exc : Exc}
    (called : (state.fiber fib).isIdle = true → action.caller = some fib)
    (notEntered : ∀ other request status, action ≠ .read other request status)
    (reads : (state.fiber fib).activeRead ≠ none ↔ ∃ call, closer = .eof call)
    (fibers : base.fiber = state.fiber) (same : obtained base.log = obtained state.log) :
    Moves state action (base.closeThrew fib closer exc) := by
  cases closer with
  | user =>
      refine .advances called notEntered (by rw [← fibers]; rfl) ?_ ?_
      · by_contra active
        obtain ⟨call, isEof⟩ := reads.mp fun none => active none.symm
        cases isEof
      · simpa [State.closeThrew, obtained, Event.obtained] using same
  | eof call =>
      refine .returns (.inr (reads.mpr ⟨call, rfl⟩)) (by rw [← fibers]; rfl) ?_
      simpa [State.closeThrew, obtained, Event.obtained, Fiber.returned] using same
  | destructor =>
      refine .nobody notEntered (fun other => .inl ?_) ?_
      · simp [State.closeThrew, fibers]
      · simpa [State.closeThrew, obtained, Event.obtained] using same

/-- The close is done: its caller leaves `close`, and the others are woken. -/
theorem Moves.closeReturned {outcome : Outcome} {closer : Closer} {serial : Nat}
    {result : Except Exc Unit} {status : Int}
    (ran : state.fiber fib = .wait (.closeHandle closer) serial (.set result))
    (fibers : after.fiber = Function.update state.notifyAll.fiber fib (.idle (some outcome)))
    (handed : obtained after.log =
      obtained state.log ++ (Fiber.idle (some outcome)).returned)
    (empty : (∀ call, closer ≠ .eof call) → (Fiber.idle (some outcome)).returned = []) :
    Moves state (.resume fib status) after := by
  have now : after.fiber fib = .idle (some outcome) := by
    rw [fibers, Function.update_self]
  have others : ∀ other, other ≠ fib → (state.fiber other).Stays (after.fiber other) := by
    intro other differs
    rw [fibers, Function.update_of_ne differs]
    exact .inr rfl
  by_cases reads : (state.fiber fib).activeRead = none
  · have plain : ∀ call, closer ≠ .eof call := by
      rintro call rfl
      rw [ran] at reads
      cases reads
    apply Moves.other fib
    · intro idle
      rw [ran] at idle
      cases idle
    · simp
    · exact reads
    · rw [now]
      rfl
    · exact others
    · rw [handed, empty plain, List.append_nil]
  · apply Moves.reader fib (.inr reads)
    · rw [now]
      exact .inl rfl
    · exact others
    · rw [now]
      exact handed

theorem Transition.moves (transition : Transition state action after) :
    Moves state action after := by
  cases transition with
  | @ends events fib _ operation outcome _ unbound _ _ quiet empty _ runs =>
      have nothing : (Fiber.idle (some outcome)).returned = [] := by
        cases outcome with
        | returned bytes => exact empty bytes rfl
        | threw exc => rfl
      have silent : obtained events = [] := by
        rw [obtained, List.flatMap_eq_nil_iff]
        exact fun event member => (quiet event member).silent.2
      have last : Event.obtained (.finished fib operation outcome) = [] := by
        cases operation <;> cases outcome <;> first | rfl | exact empty _ rfl
      have same : obtained (state.log ++ events ++ [.finished fib operation outcome]) =
          obtained state.log := by
        rw [obtained_append, obtained_append, silent]
        simp [obtained, last]
      have called : (state.fiber fib).isIdle = true → action.caller = some fib := by
        intro idle
        rcases runs with entered | ⟨busy, _⟩
        · exact entered
        · exact absurd (busy.symm.trans idle) (by decide)
      by_cases reads : Reads state action fib
      · refine .returns reads rfl ?_
        rw [nothing, List.append_nil]
        exact same
      · refine .advances called ?_ rfl unbound.notActive.symm same
        intro other request status entered
        rcases runs with isCaller | ⟨_, _, resumed⟩
        · rw [entered] at isCaller
          cases isCaller
          exact reads (.inl ⟨_, _, entered⟩)
        · rw [entered] at resumed
          cases resumed
  | resolves idle _ =>
      refine .advances (fun _ => rfl) (by simp) rfl (Fiber.Unbound.notActive (.inl idle)).symm ?_
      simp [obtained, Event.obtained]
  | connects resolved =>
      refine .resumes (by rw [resolved]; rfl) (by simp) rfl (by rw [resolved]; rfl) ?_
      simp [obtained, Event.obtained]
  | writes idle _ _ =>
      refine .advances (fun _ => rfl) (by simp) rfl (Fiber.Unbound.notActive (.inl idle)).symm ?_
      simp [obtained, Event.obtained]
  | @admits fib _ _ call entered entry _ _ _ =>
      obtain ⟨reads, fibers, same⟩ := entry.reads
      have waits : ((entered.beginRead call).watch.setFiber fib (.waitRead false call)).fiber fib =
          .waitRead false call := by
        simp
      apply Moves.reader fib reads
      · rw [waits]
        exact .inr ⟨call, rfl, .inr ⟨_, _, entry⟩⟩
      · exact Moves.others_of_update (by rw [← fibers]; rfl)
      · rw [waits, ← same]
        simp [obtained, Event.obtained, Fiber.returned]
  | rejects entry _ _ _ =>
      obtain ⟨reads, fibers, same⟩ := entry.reads
      refine .returns reads (by rw [← fibers]; rfl) ?_
      rw [← same]
      simp [obtained, Event.obtained, Fiber.returned]
  | readsNull entry _ _ _ =>
      obtain ⟨reads, fibers, same⟩ := entry.reads
      refine .returns reads (by rw [← fibers]; rfl) ?_
      rw [← same]
      simp [obtained, Event.obtained, Fiber.returned]
  | waitsAgain woken _ _ =>
      exact .resumes (by rw [woken]; rfl) (by simp) rfl (by rw [woken]; rfl) rfl
  | readFails woken _ _ =>
      refine .returns (.inr (by simp [woken, Fiber.activeRead])) rfl ?_
      simp [obtained, Event.obtained, Fiber.returned]
  | readReturns ends _ =>
      refine .returns (.inr (by simp [ends.woken, Fiber.activeRead])) rfl ?_
      simp [obtained, Event.obtained, Fiber.returned]
  | readStops ends _ =>
      refine .returns (.inr (by simp [ends.woken, Fiber.activeRead])) rfl ?_
      simp [obtained, Event.obtained, Fiber.returned]
  | shutsDown entry _ _ =>
      obtain ⟨called, notEntered, fibers, log⟩ := entry.called
      refine .advances called notEntered (by rw [← fibers]; rfl) (entry.activeRead (.inl rfl)) ?_
      simp [obtained, Event.obtained, log]
  | closesAtOnce entry _ _ =>
      obtain ⟨called, notEntered, fibers, log⟩ := entry.called
      refine .advances called notEntered (by rw [← fibers]; rfl) (entry.activeRead (.inr rfl)) ?_
      simp [obtained, Event.obtained, log]
  | @closeFails fib _ _ closer _ _ entry _ _ _ =>
      obtain ⟨called, notEntered, fibers, log⟩ := entry.called
      refine .closeThrew called notEntered ?_ fibers ?_
      · cases entry with
        | user idle => simp [Fiber.Unbound.notActive (.inl idle)]
        | destructor idle => simp [Fiber.Unbound.notActive (.inl (idle fib))]
        | eof woken _ _ => simp [Fiber.activeRead, woken]
      · simp [obtained, Event.obtained, log]
  | @closes fib closer serial result status shut _ =>
      refine .resumes (by rw [shut]; rfl) (by simp) rfl ?_ ?_
      · rw [shut]
        cases closer <;> rfl
      · simp [obtained, Event.obtained]
  | @shutdownFails fib closer serial exc status shut _ =>
      refine .closeThrew (by simp [shut, Fiber.isIdle]) (by simp) ?_ rfl rfl
      cases closer <;> simp [shut, Fiber.activeRead]
  | closeReturnsToUser ran =>
      refine .closeReturned ran rfl ?_ fun _ => rfl
      simp [obtained, Event.obtained, Fiber.returned]
  | closeReturnsToDestructor ran =>
      refine .closeReturned ran rfl ?_ fun _ => rfl
      simp [obtained, Event.obtained, Fiber.returned]
  | @closeReturnsToRead fib call _ _ _ ran _ _ =>
      refine .closeReturned ran rfl ?_ fun plain => absurd rfl (plain call)
      simp [obtained, Event.obtained, Fiber.returned]
  | @closeStopsRead fib call _ _ _ ran _ =>
      refine .closeReturned ran rfl ?_ fun plain => absurd rfl (plain call)
      simp [obtained, Event.obtained, Fiber.returned]
  | destroysClosed idle _ =>
      refine .advances (fun _ => rfl) (by simp) rfl
        (Fiber.Unbound.notActive (.inl (idle _))).symm ?_
      simp [obtained, Event.obtained]
  | @completes id status request waiting _ _ awaits =>
      refine .resumes (by rw [awaits]; rfl) (by simp) rfl ?_ ?_
      · rw [awaits, Fiber.activeRead_wait]
      · simp [obtained, Event.obtained]
  | delivers _ _ _ =>
      refine .nobody (by simp) (fun other => .inr rfl) ?_
      simp [obtained, Event.obtained]
  | handleCloses _ _ _ awaits =>
      refine .resumes (by rw [awaits]; rfl) (by simp) rfl ?_ ?_
      · rw [awaits, Fiber.activeRead_wait]
      · simp [obtained, Event.obtained]

end Inversion

/-! ## What a step changes in the handle -/

section Frames

variable [DecidableEq Fib] {state after entered : State Fib} {fib : Fib} {action : Action Fib}

/-- Only a read callback delivers bytes. -/
theorem Transition.delivered (transition : Transition state action after) :
    after.tcp.delivered = state.tcp.delivered ∨
      ∃ nread bytes, action = .readCallback nread bytes ∧ state.tcp.watching = true ∧
        (nread < 0 → bytes = []) ∧ after.tcp.delivered = state.tcp.delivered ++ bytes := by
  cases transition with
  | admits entry _ _ _ => cases entry <;> exact .inl rfl
  | rejects entry _ _ _ => cases entry <;> exact .inl rfl
  | readsNull entry _ _ _ => cases entry <;> exact .inl rfl
  | shutsDown entry _ _ => cases entry <;> exact .inl rfl
  | closesAtOnce entry _ _ => cases entry <;> exact .inl rfl
  | @closeFails _ _ _ closer _ _ entry _ _ _ => cases entry <;> exact .inl rfl
  | @shutdownFails _ closer _ _ _ _ _ => cases closer <;> exact .inl rfl
  | delivers watching deliverable _ =>
      refine .inr ⟨_, _, rfl, watching, ?_, rfl⟩
      intro negative
      unfold State.canDeliver at deliverable
      split at deliverable
      · simp only [decide_eq_true_eq] at deliverable
        exact deliverable.2
      · rw [if_neg (by omega)] at deliverable
        simpa using deliverable
  | _ => exact .inl rfl

/-- Only a read callback writes to memory. -/
theorem Transition.memory (transition : Transition state action after)
    (noReport : ∀ nread bytes, action ≠ .readCallback nread bytes) :
    after.memory = state.memory := by
  cases transition with
  | admits entry _ _ _ => cases entry <;> rfl
  | rejects entry _ _ _ => cases entry <;> rfl
  | readsNull entry _ _ _ => cases entry <;> rfl
  | shutsDown entry _ _ => cases entry <;> rfl
  | closesAtOnce entry _ _ => cases entry <;> rfl
  | closeFails entry _ _ _ => cases entry <;> rfl
  | @shutdownFails _ closer _ _ _ _ _ => cases closer <;> rfl
  | delivers _ _ _ => exact absurd rfl (noReport _ _)
  | _ => rfl

/-- How `close` is entered: the closing fiber waits, or `uv_shutdown` failed. -/
structure BecomesClosed (state : State Fib) (action : Action Fib) (after : State Fib) (fib : Fib)
    (status : Int) (closer : Closer) : Prop where
  isOpen : state.closed = false
  entry : ∃ entered, CloseEntry state fib action status closer entered
  suspends : 0 ≤ status → ∃ serial, after.fiber fib = .wait (.shutdown closer) serial .unset

/-- `closed_` is set where `close` is entered, and never cleared. -/
theorem Transition.closed_cases (transition : Transition state action after) :
    after.closed = state.closed ∨
      ∃ fib status closer, BecomesClosed state action after fib status closer := by
  cases transition with
  | admits entry _ _ _ => cases entry <;> exact .inl rfl
  | rejects entry _ _ _ => cases entry <;> exact .inl rfl
  | readsNull entry _ _ _ => cases entry <;> exact .inl rfl
  | @shutsDown _ _ _ _ entered entry isOpen _ =>
      exact .inr ⟨_, _, _, isOpen, ⟨_, entry⟩, fun _ => ⟨entered.serials, by simp⟩⟩
  | closesAtOnce entry isOpen gone =>
      refine .inr ⟨_, _, _, isOpen, ⟨_, entry⟩, fun accepted => ?_⟩
      exact absurd accepted gone.negative
  | closeFails entry isOpen failed _ =>
      refine .inr ⟨_, _, _, isOpen, ⟨_, entry⟩, fun accepted => ?_⟩
      rw [checkUvStatus_ok accepted] at failed
      cases failed
  | @shutdownFails _ closer _ _ _ _ _ => cases closer <;> exact .inl rfl
  | _ => exact .inl rfl

/-- Only an accepted write queues a buffer. -/
theorem Transition.writes_cases (transition : Transition state action after) :
    after.tcp.writes = state.tcp.writes ∨
      ∃ fib data status, action = .write fib data status ∧ state.closed = false ∧
        after.tcp.writes = state.tcp.writes ++ [data] := by
  cases transition with
  | writes _ isOpen _ => exact .inr ⟨_, _, _, rfl, isOpen, rfl⟩
  | admits entry _ _ _ => cases entry <;> exact .inl rfl
  | rejects entry _ _ _ => cases entry <;> exact .inl rfl
  | readsNull entry _ _ _ => cases entry <;> exact .inl rfl
  | shutsDown entry _ _ => cases entry <;> exact .inl rfl
  | closesAtOnce entry _ _ => cases entry <;> exact .inl rfl
  | closeFails entry _ _ _ => cases entry <;> exact .inl rfl
  | @shutdownFails _ closer _ _ _ _ _ => cases closer <;> exact .inl rfl
  | _ => exact .inl rfl

theorem Transition.readCallback_logged {nread : Int} (transition : Transition state action after)
    (logged : .readCallback nread ∈ after.log) :
    .readCallback nread ∈ state.log ∨ ∃ bytes, action = .readCallback nread bytes := by
  cases transition with
  | ends events _ _ _ quiet _ _ _ =>
      simp only [State.finish_log, List.mem_append, List.mem_singleton, reduceCtorEq, or_false]
        at logged
      rcases logged with earlier | now
      · exact .inl earlier
      · cases quiet _ now
  | admits entry _ _ _ => cases entry <;> exact .inl (by simpa using logged)
  | rejects entry _ _ _ => cases entry <;> exact .inl (by simpa using logged)
  | readsNull entry _ _ _ => cases entry <;> exact .inl (by simpa using logged)
  | shutsDown entry _ _ => cases entry <;> exact .inl (by simpa using logged)
  | closesAtOnce entry _ _ => cases entry <;> exact .inl (by simpa using logged)
  | closeFails entry _ _ _ =>
      cases entry <;> exact .inl (by simpa [State.closeThrew] using logged)
  | @shutdownFails _ closer _ _ _ _ _ =>
      cases closer <;> exact .inl (by simpa [State.closeThrew] using logged)
  | delivers _ _ _ =>
      simp only [State.onReadFinished_log, State.emit_log, List.mem_append, List.mem_singleton,
        reduceCtorEq, or_false, Event.readCallback.injEq] at logged
      rcases logged with earlier | rfl
      · exact .inl earlier
      · exact .inr ⟨_, rfl⟩
  | _ => exact .inl (by simpa using logged)

end Frames

end Fiberio.Socket
