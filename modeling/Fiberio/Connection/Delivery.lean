import Fiberio.Connection.Model
import Fiberio.Socket.EndOfStream
import Fiberio.Socket.GracefulClose

/-!
Owns graceful delivery: in a run without errors in which nobody closes `B`
locally, the loop at `B` accumulates a prefix of what was written to `A`, and
all of it once it has exited.

Does not own that the loop comes to its exit.
-/

namespace Fiberio.Connection

open Fiberio.Foundation

/-- No error status is delivered, and nobody closes `B` locally. -/
def Undisturbed {FibA FibB : Type} (_ : State FibA FibB) : Action FibA FibB → Prop
  | .atA action => action.Succeeds
  | .atB (.close _ _) | .atB (.destroy _ _) => False
  | .atB action => action.Succeeds
  | .turn _ status => 0 ≤ status
  | .send _ | .finish => True

variable {FibA FibB : Type} [DecidableEq FibA] [Fintype FibA] [DecidableEq FibB] [Fintype FibB]
  {reader : Reader FibB}

/-! ## What one step does to each end -/

/-- One step of the connection, by what it is at its two ends. -/
inductive Transition (reader : Reader FibB) (state : State FibA FibB) :
    Action FibA FibB → State FibA FibB → Prop where
  | atA {action : Socket.Action FibA} {a : Socket.State FibA}
      (allowed : state.allowsA action = true)
      (stepped : (Socket.machine FibA).step state.a action = some a) :
      Transition reader state (.atA action)
        { state with a := a, issued := state.issuedAfter action }
  | atB {action : Socket.Action FibB} {b : Socket.State FibB}
      (allowed : state.allowsB reader action = true)
      (stepped : (Socket.machine FibB).step state.b action = some b) :
      Transition reader state (.atB action) { state with b := b }
  | exits {buf : Nat} {status : Int} (testing : state.loop = .testing)
      (closed : state.b.closed = true) :
      Transition reader state (.turn buf status) { state with loop := .exited }
  | calls {buf : Nat} {status : Int} {b : Socket.State FibB} (testing : state.loop = .testing)
      (stepped : (Socket.machine FibB).step state.b
        (.read reader.fiber (.readString reader.std reader.count buf) status) = some b) :
      Transition reader state (.turn buf status) { state with b := b, loop := .reading }
  | appends {buf : Nat} {status : Int} {bytes : List UInt8} (reading : state.loop = .reading)
      (returned : state.b.fiber reader.fiber = .idle (some (.returned bytes))) :
      Transition reader state (.turn buf status)
        { state with data := state.data ++ bytes, loop := .testing }
  | throws {buf : Nat} {status : Int} {exc : Exc} (reading : state.loop = .reading)
      (threw : state.b.fiber reader.fiber = .idle (some (.threw exc))) :
      Transition reader state (.turn buf status) { state with loop := .threw exc }
  | sends {count : Nat} (allowed : state.canSend count = true) :
      Transition reader state (.send count) { state with pipe := state.pipe.send count }
  | finishes (allowed : state.canFinish = true) :
      Transition reader state .finish { state with pipe := state.pipe.finish }

theorem step_transition {before after : State FibA FibB} {action : Action FibA FibB}
    (stepped : (machine FibA reader).step before action = some after) :
    Transition reader before action after := by
  cases action with
  | atA action =>
      obtain ⟨allowed, stepped⟩ := Option.ite_none_right_eq_some.mp stepped
      obtain ⟨a, step, rfl⟩ := Option.map_eq_some_iff.mp stepped
      exact .atA allowed step
  | atB action =>
      obtain ⟨allowed, stepped⟩ := Option.ite_none_right_eq_some.mp stepped
      obtain ⟨b, step, rfl⟩ := Option.map_eq_some_iff.mp stepped
      exact .atB allowed step
  | turn buf status =>
      have stepped : before.turn reader buf status = some after := stepped
      unfold State.turn at stepped
      split at stepped
      · rename_i testing
        split at stepped
        · rename_i closed
          cases stepped
          exact .exits testing closed
        · obtain ⟨b, step, rfl⟩ := Option.map_eq_some_iff.mp stepped
          exact .calls testing step
      · rename_i reading
        split at stepped
        · rename_i bytes returned
          cases stepped
          exact .appends reading returned
        · rename_i exc threw
          cases stepped
          exact .throws reading threw
        · cases stepped
      · cases stepped
      · cases stepped
  | send count =>
      obtain ⟨allowed, result⟩ := Option.ite_none_right_eq_some.mp stepped
      cases result
      exact .sends allowed
  | finish =>
      obtain ⟨allowed, result⟩ := Option.ite_none_right_eq_some.mp stepped
      cases result
      exact .finishes allowed

/-! ## The ends on their own -/

section Ends

variable {state : State FibA FibB}

/-- `A` sees a run without errors. -/
theorem a_reachable (reachable : (machine FibA reader).Reachable Undisturbed state) :
    (Socket.machine FibA).Reachable (fun _ action => action.Succeeds) state.a := by
  apply reachable.project
  · intro first initial
    obtain ⟨memoryA, memoryB, rfl⟩ := initial
    exact ⟨memoryA, rfl⟩
  · intro before action after undisturbed stepped
    cases step_transition stepped with
    | atA _ step => exact .inr ⟨_, undisturbed, step⟩
    | _ => exact .inl rfl

omit [DecidableEq FibA] [Fintype FibA] [Fintype FibB] in
theorem allowsB_stringReaders {action : Socket.Action FibB}
    (allowed : state.allowsB reader action = true) (undisturbed : Undisturbed state (.atB action)) :
    Socket.StringReaders state.b action := by
  cases action with
  | read fib request status => simp [State.allowsB] at allowed
  | close fib status => exact undisturbed.elim
  | destroy fib status => exact undisturbed.elim
  | resume fib status => exact ⟨undisturbed, by simp⟩
  | readCallback nread bytes => exact ⟨undisturbed, by simp⟩
  | connect fib status => exact ⟨trivial, by simp⟩
  | write fib data status => exact ⟨trivial, by simp⟩
  | complete id status => exact ⟨trivial, by simp⟩
  | onHandleClosed => exact ⟨trivial, by simp⟩

omit [DecidableEq FibA] [Fintype FibA] in
/-- The string that the loop's `read_string` allocates is not empty. -/
theorem call_stringReaders {buf : Nat} {status : Int} {before after : Socket.State FibB}
    (stepped : (Socket.machine FibB).step before
      (.read reader.fiber (.readString reader.std reader.count buf) status) = some after)
    (accepted : 0 ≤ status) :
    Socket.StringReaders before
      (.read reader.fiber (.readString reader.std reader.count buf) status) := by
  obtain ⟨_, stepped⟩ := Option.ite_none_left_eq_some.mp stepped
  obtain ⟨enabled, _⟩ := Option.ite_none_right_eq_some.mp stepped
  rw [Bool.and_eq_true] at enabled
  have nonzero := reader.nonzero
  have buffer : buf ≠ 0 := by
    cases std : reader.std with
    | cpp14 =>
        simp only [std, Socket.ReadRequest.hasBuffer, decide_eq_true_eq] at enabled
        omega
    | cpp17 =>
        simp only [std, Socket.ReadRequest.hasBuffer, decide_eq_true_eq] at enabled
        omega
  refine ⟨⟨⟨buffer, nonzero⟩, accepted⟩, ?_⟩
  intro fib request status' same
  cases same
  exact ⟨_, _, _, rfl⟩

/-- `B` sees a run in which only `read_string` is called to read. -/
theorem b_reachable (reachable : (machine FibA reader).Reachable Undisturbed state) :
    (Socket.machine FibB).Reachable Socket.StringReaders state.b := by
  apply reachable.project
  · intro first initial
    obtain ⟨memoryA, memoryB, rfl⟩ := initial
    exact ⟨memoryB, rfl⟩
  · intro before action after undisturbed stepped
    cases step_transition stepped with
    | atB allowed step => exact .inr ⟨_, allowsB_stringReaders allowed undisturbed, step⟩
    | calls _ step => exact .inr ⟨_, call_stringReaders step undisturbed, step⟩
    | _ => exact .inl rfl

end Ends

/-! ## The pipe between the ends -/

/-- The pipe carries what was written, and ends when `A` has shut down. -/
structure Carries (state : State FibA FibB) : Prop where
  issued : state.issued = state.a.tcp.writes
  graceful : state.pipe.Graceful state.queued state.b.tcp.delivered
  shut : state.a.tcp.shut = true → state.pipe.ended = true
  ended : state.pipe.ended = true → state.a.closed = true
  finished : .readCallback uvEof ∈ state.b.log →
    state.pipe.ended = true ∧ state.b.tcp.delivered = state.queued

section Pipe

variable {state : State FibA FibB}

omit [DecidableEq FibB] [Fintype FibB] in
/-- A step at `A` queues what it issues, and shuts down at the end. -/
theorem Carries.atA {action : Socket.Action FibA} {a : Socket.State FibA}
    (carries : Carries state) (owned : Socket.Owned state.a)
    (allowed : state.allowsA action = true) (succeeds : action.Succeeds)
    (stepped : (Socket.machine FibA).step state.a action = some a) :
    Carries { state with a := a, issued := state.issuedAfter action } := by
  have transition := Socket.step_transition owned stepped
  have stillClosed : state.a.closed = true → a.closed = true := by
    intro closed
    rcases transition.closed_cases with same | ⟨_, _, _, becomes⟩
    · rw [same, closed]
    · exact absurd (becomes.isOpen.symm.trans closed) (by decide)
  have live : state.a.closed = false → state.pipe.ended = false := by
    intro isOpen
    by_contra isEnded
    have closed := carries.ended (by simpa using isEnded)
    exact absurd (isOpen.symm.trans closed) (by decide)
  have shut : a.tcp.shut = true → state.pipe.ended = true := by
    intro shut
    rw [transition.shut_eq, Bool.or_eq_true] at shut
    rcases shut with earlier | now
    · exact carries.shut earlier
    · -- libuv answers the shutdown when the pipe has ended.
      cases action with
      | complete id status =>
          have accepted : ¬ status < 0 := by
            have nonnegative : 0 ≤ status := succeeds
            omega
          simp only [Socket.State.shuts] at now
          split at now
          · rename_i request registered
            simp only [Bool.and_eq_true, beq_iff_eq] at now
            simpa [State.allowsA, registered, now.1, accepted] using allowed
          · cases now
      | _ => cases now
  have ended : state.pipe.ended = true → a.closed = true :=
    fun isEnded => stillClosed (carries.ended isEnded)
  -- Either the action is a write that is accepted, or no buffer is queued.
  have queues : (a.tcp.writes = state.a.tcp.writes ∧
        state.issuedAfter action = state.issued) ∨
      ∃ data, state.a.closed = false ∧ a.tcp.writes = state.a.tcp.writes ++ [data] ∧
        state.issuedAfter action = state.issued ++ [data] := by
    cases action with
    | write fib data status =>
        by_cases closed : state.a.closed = true
        · refine .inl ⟨?_, by simp [State.issuedAfter, closed]⟩
          rcases transition.writes_cases with same | ⟨_, _, _, _, isOpen, _⟩
          · exact same
          · exact absurd (isOpen.symm.trans closed) (by decide)
        · have isOpen : state.a.closed = false := by simpa using closed
          exact .inr ⟨data, isOpen, Socket.write_queued stepped isOpen succeeds,
            by simp [State.issuedAfter, isOpen]⟩
    | _ =>
        refine .inl ⟨?_, rfl⟩
        rcases transition.writes_cases with same | ⟨_, _, _, called, _, _⟩
        · exact same
        · cases called
  rcases queues with ⟨writes, issued⟩ | ⟨data, isOpen, writes, issued⟩
  · have sameQueue : a.tcp.writes.flatten = state.queued := by rw [writes]; rfl
    refine ⟨?_, ?_, shut, ended, ?_⟩
    · rw [issued, carries.issued, writes]
    · rw [State.queued, sameQueue]
      exact carries.graceful
    · intro seen
      rw [State.queued, sameQueue]
      exact carries.finished seen
  · have queue : a.tcp.writes.flatten = state.queued ++ data := by
      rw [writes, List.flatten_append]
      simp [State.queued]
    refine ⟨?_, ?_, shut, ended, ?_⟩
    · rw [issued, carries.issued, writes]
    · rw [State.queued, queue]
      exact carries.graceful.queue data (live isOpen)
    · intro seen
      exact absurd ((live isOpen).symm.trans (carries.finished seen).1) (by decide)

omit [DecidableEq FibA] [Fintype FibA] [Fintype FibB] in
/-- What `B` receives was sent, and the end comes last. -/
theorem Carries.atB {action : Socket.Action FibB} {b : Socket.State FibB}
    (carries : Carries state) (transition : Socket.Transition state.b action b)
    (feeds : ∀ nread bytes, action = .readCallback nread bytes →
      (if nread = uvEof then state.pipe.canEnd state.queued state.b.tcp.delivered
        else state.pipe.canDeliver state.queued state.b.tcp.delivered bytes) = true) :
    Carries { state with b := b } := by
  have eofNegative : uvEof < 0 := by decide
  have delivery : state.pipe.Graceful state.queued b.tcp.delivered := by
    rcases transition.delivered with same | ⟨nread, bytes, called, _, noBytes, grows⟩
    · rw [same]
      exact carries.graceful
    · have feed := feeds nread bytes called
      rw [grows]
      split at feed
      · rename_i atEnd
        rw [noBytes (by omega), List.append_nil]
        exact carries.graceful
      · exact carries.graceful.deliver feed
  refine ⟨carries.issued, delivery, carries.shut, carries.ended, ?_⟩
  intro seen
  -- The bytes that arrived make up the queue, and none can follow.
  have whole : state.pipe.ended = true ∧ state.b.tcp.delivered = state.queued := by
    rcases transition.readCallback_logged seen with earlier | ⟨bytes, called⟩
    · exact carries.finished earlier
    · have feed := feeds uvEof bytes called
      rw [if_pos rfl] at feed
      have ended := feed
      rw [Pipe.canEnd, Bool.and_eq_true] at ended
      exact ⟨ended.1, carries.graceful.received_all feed⟩
  refine ⟨whole.1, ?_⟩
  rcases transition.delivered with same | ⟨nread, bytes, _, _, _, grows⟩
  · exact same.trans whole.2
  · have bounded := delivery.received_prefix.length_le
    rw [grows, whole.2, List.length_append] at bounded
    have none : bytes = [] := List.eq_nil_of_length_eq_zero (by omega)
    rw [none, List.append_nil] at grows
    exact grows.trans whole.2

omit [DecidableEq FibA] [DecidableEq FibB] [Fintype FibA] [Fintype FibB] in
/-- The pipe ends behind the last byte: a shutdown comes before `uv_close`. -/
theorem Carries.finishes (carries : Carries state) (owned : Socket.Owned state.a)
    (shutFirst : Socket.ShutFirst state.a) (allowed : state.canFinish = true) :
    Carries { state with pipe := state.pipe.finish } := by
  have drained : state.pipe.sent = state.queued.length ∧ state.a.closed = true := by
    rw [State.canFinish, Bool.or_eq_true, Bool.and_eq_true] at allowed
    rcases allowed with ⟨pending, drained⟩ | closing
    · obtain ⟨request, listed, isShutdown⟩ := List.any_eq_true.mp pending
      obtain ⟨_, waiting, issued, awaits⟩ := owned.pending request listed
      refine ⟨of_decide_eq_true drained, ?_⟩
      rw [eq_of_beq isShutdown] at issued
      cases waiting with
      | shutdown closer => exact owned.closers _ ⟨closer, _, _, .inl awaits⟩
      | _ => cases issued
    · have ended := carries.shut (shutFirst.closing closing)
      exact ⟨carries.graceful.drained ended, carries.ended ended⟩
  refine ⟨carries.issued, carries.graceful.finish drained.1, fun _ => rfl, fun _ => drained.2, ?_⟩
  intro seen
  exact ⟨rfl, (carries.finished seen).2⟩

theorem Transition.carries {after : State FibA FibB} {action : Action FibA FibB}
    (transition : Transition reader state action after) (carries : Carries state)
    (ownedA : Socket.Owned state.a) (ownedB : Socket.Owned state.b)
    (shutFirst : Socket.ShutFirst state.a) (undisturbed : Undisturbed state action) :
    Carries after := by
  cases transition with
  | atA allowed stepped => exact carries.atA ownedA allowed undisturbed stepped
  | atB allowed stepped =>
      apply carries.atB (Socket.step_transition ownedB stepped)
      intro nread bytes called
      rw [called, State.allowsB, Bool.and_eq_true] at allowed
      exact allowed.2
  | calls _ stepped =>
      have unread : Carries { state with b := _ } :=
        carries.atB (Socket.step_transition ownedB stepped) (by simp)
      exact ⟨unread.issued, unread.graceful, unread.shut, unread.ended, unread.finished⟩
  | sends allowed =>
      simp only [State.canSend, Bool.and_eq_true, Bool.not_eq_true', decide_eq_true_eq] at allowed
      obtain ⟨⟨live, _⟩, within⟩ := allowed
      exact ⟨carries.issued, carries.graceful.send within live, carries.shut, carries.ended,
        carries.finished⟩
  | finishes allowed => exact carries.finishes ownedA shutFirst allowed
  | _ => exact ⟨carries.issued, carries.graceful, carries.shut, carries.ended, carries.finished⟩

end Pipe

/-! ## The loop -/

/-- The loop is the only reader of `B`, and has appended what its calls
returned. -/
structure Looping (reader : Reader FibB) (state : State FibA FibB) : Prop where
  alone : ∀ fib, (state.b.fiber fib).activeRead ≠ none →
    fib = reader.fiber ∧ state.loop = .reading
  between : state.loop ≠ .reading →
    (state.b.fiber reader.fiber).isIdle = true ∧ Socket.obtained state.b.log = state.data
  during : state.loop = .reading →
    ((state.b.fiber reader.fiber).isIdle = true ∨
      (state.b.fiber reader.fiber).activeRead ≠ none) ∧
    Socket.obtained state.b.log = state.data ++ (state.b.fiber reader.fiber).returned
  exited : state.loop = .exited → state.b.closed = true

section Loop

variable {state : State FibA FibB}

omit [DecidableEq FibA] [Fintype FibA] [DecidableEq FibB] [Fintype FibB] in
theorem Looping.initial (memoryA memoryB : Memory UInt8) :
    Looping reader (initial memoryA memoryB : State FibA FibB) := by
  constructor
  · intro fib active
    exact absurd rfl active
  · exact fun _ => ⟨rfl, rfl⟩
  · intro reading
    cases reading
  · intro exited
    cases exited

omit [DecidableEq FibA] [Fintype FibA] [Fintype FibB] in
theorem allowsB_outside {action : Socket.Action FibB}
    (allowed : state.allowsB reader action = true) :
    action.caller ≠ some reader.fiber ∧
      ∀ fib request status, action ≠ .read fib request status := by
  constructor
  · unfold State.allowsB at allowed
    rw [Bool.and_eq_true] at allowed
    exact of_decide_eq_true allowed.1
  · rintro fib request status rfl
    simp [State.allowsB] at allowed

omit [DecidableEq FibA] [Fintype FibA] [Fintype FibB] in
/-- Nothing that the other fibers do, and no callback, gets between the loop
and its bytes. -/
theorem Looping.atB {action : Socket.Action FibB} {b : Socket.State FibB}
    (looping : Looping reader state) (transition : Socket.Transition state.b action b)
    (others : action.caller ≠ some reader.fiber)
    (notRead : ∀ fib request status, action ≠ .read fib request status) :
    Looping reader { state with b := b } := by
  have stillClosed : state.loop = .exited → b.closed = true := by
    intro exited
    have closed := looping.exited exited
    rcases transition.closed_cases with same | ⟨_, _, _, becomes⟩
    · rw [same, closed]
    · exact absurd (becomes.isOpen.symm.trans closed) (by decide)
  -- The reader stays where it is, and nobody obtains anything.
  have quiet : (∀ fib, (b.fiber fib).activeRead ≠ none →
        (state.b.fiber fib).activeRead ≠ none) →
      (state.b.fiber reader.fiber).Stays (b.fiber reader.fiber) →
      Socket.obtained b.log = Socket.obtained state.b.log →
        Looping reader { state with b := b } := by
    intro active stays same
    refine ⟨fun fib reading => looping.alone fib (active fib reading), ?_, ?_, stillClosed⟩
    · intro outside
      obtain ⟨idle, data⟩ := looping.between outside
      show (b.fiber reader.fiber).isIdle = true ∧ _
      rw [stays.idle idle, same]
      exact ⟨idle, data⟩
    · intro reading
      obtain ⟨inside, data⟩ := looping.during reading
      show ((b.fiber reader.fiber).isIdle = true ∨ (b.fiber reader.fiber).activeRead ≠ none) ∧ _
      rw [same, stays.returned, stays.activeRead]
      refine ⟨inside.imp ?_ id, data⟩
      intro idle
      rw [stays.idle idle]
      exact idle
  cases transition.moves with
  | nobody _ stay same =>
      apply quiet _ (stay reader.fiber) same
      intro fib reading
      rwa [(stay fib).activeRead] at reading
  | reader mover reads goes stay handed =>
      have active : (state.b.fiber mover).activeRead ≠ none := by
        rcases reads with ⟨request, status, called⟩ | active
        · exact absurd called (notRead _ _ _)
        · exact active
      obtain ⟨rfl, reading⟩ := looping.alone mover active
      refine ⟨?_, fun outside => absurd reading outside, ?_, stillClosed⟩
      · intro fib isReading
        by_cases same : fib = reader.fiber
        · exact ⟨same, reading⟩
        · refine looping.alone fib ?_
          have isReading : (b.fiber fib).activeRead ≠ none := isReading
          rwa [(stay fib same).activeRead] at isReading
      · intro _
        obtain ⟨call, isCall⟩ := Option.ne_none_iff_exists'.mp active
        have data := (looping.during reading).2
        rw [Socket.Fiber.returned_of_activeRead isCall, List.append_nil] at data
        refine ⟨?_, ?_⟩
        · rcases goes with idle | ⟨call', isActive, _⟩
          · exact .inl idle
          · refine .inr ?_
            show (b.fiber reader.fiber).activeRead ≠ none
            rw [isActive]
            exact Option.some_ne_none call'
        · show Socket.obtained b.log = state.data ++ (b.fiber reader.fiber).returned
          rw [handed, data]
  | other mover called _ outside stays stay same =>
      have differs : reader.fiber ≠ mover := by
        rintro rfl
        have idle : (state.b.fiber reader.fiber).isIdle = true := by
          by_cases reading : state.loop = .reading
          · exact (looping.during reading).1.resolve_right fun active => active outside
          · exact (looping.between reading).1
        exact others (called idle)
      apply quiet _ (stay reader.fiber differs) same
      intro fib reading
      by_cases moved : fib = mover
      · rw [moved] at reading
        exact absurd stays reading
      · rwa [(stay fib moved).activeRead] at reading

omit [DecidableEq FibA] [Fintype FibA] [Fintype FibB] in
/-- The loop calls `read_string`. -/
theorem Looping.calls {request : Socket.ReadRequest} {status : Int} {b : Socket.State FibB}
    (looping : Looping reader state) (testing : state.loop = .testing)
    (transition : Socket.Transition state.b (.read reader.fiber request status) b) :
    Looping reader { state with b := b, loop := .reading } := by
  have outside : state.loop ≠ .reading := by
    rw [testing]
    decide
  have free : ∀ fib, (state.b.fiber fib).activeRead = none := by
    intro fib
    by_contra active
    exact outside (looping.alone fib active).2
  cases transition.moves with
  | nobody notEntered _ _ => exact absurd rfl (notEntered _ _ _)
  | other _ _ notEntered _ _ _ _ => exact absurd rfl (notEntered _ _ _)
  | reader mover reads goes stay handed =>
      have isReader : mover = reader.fiber := by
        rcases reads with ⟨_, _, called⟩ | active
        · cases called
          rfl
        · exact absurd (free mover) active
      subst isReader
      refine ⟨?_, fun notReading => absurd rfl notReading, ?_, by simp⟩
      · intro fib isReading
        by_cases same : fib = reader.fiber
        · exact ⟨same, rfl⟩
        · have isReading : (b.fiber fib).activeRead ≠ none := isReading
          rw [(stay fib same).activeRead] at isReading
          exact absurd (free fib) isReading
      · intro _
        refine ⟨?_, ?_⟩
        · rcases goes with idle | ⟨call', isActive, _⟩
          · exact .inl idle
          · refine .inr ?_
            show (b.fiber reader.fiber).activeRead ≠ none
            rw [isActive]
            exact Option.some_ne_none call'
        · show Socket.obtained b.log = state.data ++ (b.fiber reader.fiber).returned
          rw [handed, (looping.between outside).2]

theorem Transition.looping {after : State FibA FibB} {action : Action FibA FibB}
    (transition : Transition reader state action after) (looping : Looping reader state)
    (ownedB : Socket.Owned state.b) : Looping reader after := by
  cases transition with
  | atB allowed stepped =>
      obtain ⟨others, notRead⟩ := allowsB_outside allowed
      exact looping.atB (Socket.step_transition ownedB stepped) others notRead
  | calls testing stepped =>
      exact looping.calls testing (Socket.step_transition ownedB stepped)
  | exits testing closed =>
      have outside : state.loop ≠ .reading := by
        rw [testing]
        decide
      refine ⟨?_, fun _ => looping.between outside, by simp, fun _ => closed⟩
      intro fib active
      exact absurd (looping.alone fib active).2 outside
  | appends reading returned =>
      have data := (looping.during reading).2
      rw [returned] at data
      refine ⟨?_, fun _ => ⟨by simp [returned, Socket.Fiber.isIdle], data⟩, by simp, by simp⟩
      intro fib active
      have same := (looping.alone fib active).1
      rw [same, returned] at active
      exact absurd rfl active
  | throws reading threw =>
      have data := (looping.during reading).2
      rw [threw] at data
      have data : Socket.obtained state.b.log = state.data := by
        simpa [Socket.Fiber.returned] using data
      refine ⟨?_, fun _ => ⟨by simp [threw, Socket.Fiber.isIdle], data⟩, by simp, by simp⟩
      intro fib active
      have same := (looping.alone fib active).1
      rw [same, threw] at active
      exact absurd rfl active
  | _ => exact ⟨looping.alone, looping.between, looping.during, looping.exited⟩

omit [DecidableEq FibA] [Fintype FibA] [DecidableEq FibB] [Fintype FibB] in
theorem Looping.data_prefix (looping : Looping reader state) :
    state.data <+: Socket.obtained state.b.log := by
  by_cases reading : state.loop = .reading
  · rw [(looping.during reading).2]
    exact List.prefix_append _ _
  · rw [(looping.between reading).2]

end Loop

/-! ## Delivery -/

section Reachable

variable {state : State FibA FibB}

theorem reachable_carries_looping (reachable : (machine FibA reader).Reachable Undisturbed state) :
    Carries state ∧ Looping reader state := by
  apply reachable.invariant_under fun _ => id
  · intro first initial
    obtain ⟨memoryA, memoryB, rfl⟩ := initial
    exact ⟨⟨rfl, .initial, by rintro ⟨⟩, by rintro ⟨⟩, by rintro ⟨⟩⟩,
      Looping.initial memoryA memoryB⟩
  · intro before action after earlier holds undisturbed stepped
    have ownedA := Socket.reachable_owned (a_reachable earlier)
    have ownedB := Socket.reachable_owned (b_reachable earlier)
    have shutFirst := Socket.reachable_shutFirst (a_reachable earlier)
    have transition := step_transition stepped
    exact ⟨transition.carries holds.1 ownedA ownedB shutFirst undisturbed,
      transition.looping holds.2 ownedB⟩

/-- What the loop has accumulated is at every moment a prefix of the buffers
written to `A`, in the order of the write calls, and once the loop has exited
it is all of them. -/
theorem loop_receives_what_was_written
    (reachable : (machine FibA reader).Reachable Undisturbed state) :
    state.data <+: state.issued.flatten ∧
      (state.loop = .exited → state.data = state.issued.flatten) := by
  obtain ⟨carries, looping⟩ := reachable_carries_looping reachable
  obtain ⟨_, partition, ending⟩ := Socket.reachable_ending (b_reachable reachable)
  have delivered : Socket.obtained state.b.log <+: state.b.tcp.delivered :=
    partition.kept.trans partition.chunks_prefix
  rw [carries.issued]
  constructor
  · exact (looping.data_prefix.trans delivered).trans carries.graceful.received_prefix
  · intro exited
    obtain ⟨seen, returned⟩ := ending.finished (looping.exited exited)
    have data := (looping.between (by rw [exited]; decide)).2
    calc state.data = Socket.obtained state.b.log := data.symm
      _ = state.b.tcp.delivered := returned.symm
      _ = state.queued := (carries.finished seen).2

/-- A `read_string(3)` loop with fiber 0. -/
private def threeAtATime : Reader (Fin 1) where
  fiber := 0
  std := .cpp17
  count := 3
  nonzero := by decide

/-- Two writes are in flight when `A` is closed; the five bytes arrive in
three pieces and an empty one. -/
theorem loop_receives_two_writes_in_pieces :
    ∃ state : State (Fin 3) (Fin 1),
      (machine (Fin 3) threeAtATime).Reachable Undisturbed state ∧ state.loop = .exited ∧
        state.issued = [[1, 2], [3, 4, 5]] ∧ state.data = state.issued.flatten := by
  have first : (machine (Fin 3) threeAtATime).Reachable Undisturbed
      (initial (fun _ => 0) (fun _ => 0)) := .start ⟨_, _, rfl⟩
  have reachable := first.exec
    (Machine.along_of_forall (by simp [Undisturbed, Socket.Action.Succeeds]) _)
    (rfl : (machine (Fin 3) threeAtATime).exec (initial (fun _ => 0) (fun _ => 0))
      [.atA (.write 0 [1, 2] 0), .turn 100 0, .atB (.readCallback 0 []), .send 1,
        .atA (.write 1 [3, 4, 5] 0), .atA (.close 2 0), .atB (.resume 0 0), .turn 100 0,
        .turn 100 0, .atB (.readCallback 1 [1]), .send 3, .atB (.resume 0 0), .turn 100 0,
        .turn 200 0, .atA (.complete 0 0), .atB (.readCallback 3 [2, 3, 4]), .atB (.resume 0 0),
        .send 1, .turn 0 0, .turn 100 0, .atA (.complete 1 0), .finish, .atA (.complete 2 0),
        .atB (.readCallback 1 [5]), .atB (.resume 0 0), .turn 0 0, .turn 100 0,
        .atA (.resume 2 0), .atB (.readCallback uvEof []), .atB (.resume 0 0),
        .atB (.complete 0 0), .atB (.resume 0 0), .atB .onHandleClosed, .atB (.resume 0 0),
        .turn 0 0, .turn 0 0] = some _)
  exact ⟨_, reachable, rfl, rfl, (loop_receives_what_was_written reachable).2 rfl⟩

end Reachable

end Fiberio.Connection
