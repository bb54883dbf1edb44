import Fiberio.Socket.ReadProgress

/-!
Owns the outcome of one `read(buf, size)`, whatever the other fibers do
meanwhile: it is told by what the call's own callback reported and by
`closed_` at the time the reader resumes. A callback that reports no bytes
makes it return zero on an open socket.

Does not own the operations that call `read` in a loop.
-/

namespace Fiberio.Socket

open Fiberio.Foundation

variable {Fib : Type} [DecidableEq Fib] [Fintype Fib]

/-! ## A single inner read -/

section Single

variable {start last final : State Fib} {fib : Fib} {buf size : Nat} {status : Int}
  {first call : ReadCall} {front : List (Action Fib)} {earlier : List Report}
  {report : Option Report}

omit [Fintype Fib] [DecidableEq Fib] in
/-- The operation is the inner read itself. -/
theorem CallTrace.ofRead (trace : CallTrace start fib first last front call earlier report)
    (plain : first.caller = .read) :
    call.caller = .read ∧ earlier = [] ∧ reports front = report.toList := by
  have same := trace.inner.caller
  rw [plain] at same
  have isRead : call.caller = .read := by
    cases caller : call.caller <;> rw [caller] at same <;> first | rfl | cases same
  have none := trace.once (by rw [isRead]; rfl)
  refine ⟨isRead, none, ?_⟩
  rw [trace.reported, none, List.nil_append]

theorem ReadCall.onClosed_ofRead {memory : Memory UInt8} (isRead : call.caller = .read) :
    call.onClosed memory = .returned [] := by
  simp [ReadCall.onClosed, ReadCall.continues, ReadCall.result, isRead]

end Single

/-- A `read(buf, size)` that was admitted and has returned: `last` is the state
in which its reader resumed. -/
structure FinishedRead (allowed : State Fib → Action Fib → Prop) (start : State Fib) (fib : Fib)
    (buf size : Nat) (status : Int) (actions : List (Action Fib)) (final : State Fib)
    (outcome : Outcome) (front : List (Action Fib)) (later : Int) (last : State Fib)
    (call : ReadCall) (report : Option Report) : Prop where
  split : actions = front ++ [.resume fib later]
  ran : callRead start fib (.read buf size) status front = some last
  reachable : (machine Fib).Reachable allowed last
  allows : allowed last (.resume fib later)
  isRead : call.caller = .read
  reported : reports actions = report.toList
  fits : ∀ one ∈ report, one.Fits size
  stored : ∀ one ∈ report, 0 ≤ one.nread →
    call.result last.memory one.bytes.length = one.bytes
  ends : CallEnds last fib call report later final outcome

section Outcome

variable {allowed : State Fib → Action Fib → Prop} {start final : State Fib} {fib : Fib}
  {buf size : Nat} {status : Int} {actions : List (Action Fib)} {outcome : Outcome}

theorem finished_read (reachable : (machine Fib).Reachable allowed start) (buffer : buf ≠ 0)
    (nonempty : 1 ≤ size) (bounded : size < 2 ^ 63)
    (along : (machine Fib).Along allowed start (.read fib (.read buf size) status :: actions))
    (run : callRead start fib (.read buf size) status actions = some final)
    (ended : final.fiber fib = .idle (some outcome)) :
    (actions = [] ∧ TurnedAway start (.read buf size) status outcome) ∨
      Admitted start (.read buf size) status ⟨start.calls, buf, size, .read⟩ ∧
        ∃ front later last call report, FinishedRead allowed start fib buf size status actions
          final outcome front later last call report := by
  have sized : (ReadRequest.read buf size).Sized := ⟨buffer, nonempty, bounded⟩
  cases callRead_span reachable sized along run with
  | turnedAway none reason ends =>
      have same := ends.ended
      rw [ended] at same
      cases same
      exact .inl ⟨none, reason⟩
  | lasts _ trace =>
      have inside := trace.phase.inside
      simp [State.inside, ended, Fiber.isIdle] at inside
  | @ended first call earlier report front last later outcome' admitted split ran reached allows
      trace ends =>
      have same := ends.ended
      rw [ended] at same
      cases same
      have isFirst : first = ⟨start.calls, buf, size, .read⟩ := by
        have isFirst := admitted.first
        cases isFirst
        rfl
      subst isFirst
      obtain ⟨isRead, _, reported⟩ := trace.ofRead rfl
      have whole : call.size = size := by
        have total := trace.inner.total
        simpa [ReadCall.total, isRead] using total
      refine .inr ⟨admitted, front, later, last, call, report, split, ran, reached, allows, isRead,
        ?_, ?_, ?_, ends⟩
      · simp [split, reported, Action.report]
      · intro one isReport
        exact whole ▸ trace.phase.fits one isReport
      · intro one isReport count
        rw [ReadCall.result, isRead]
        exact trace.phase.stored isReport count

/-! ## A zero-byte read -/

/-- A callback that reports no bytes meets a reader whose socket is closed by
the time it resumes. -/
def ZeroOnlyWhenClosed (start : State Fib) (fib : Fib) (request : ReadRequest) (status : Int)
    (actions : List (Action Fib)) : Prop :=
  ∀ front later last, actions = front ++ [.resume fib later] →
    callRead start fib request status front = some last →
    (∃ one ∈ reports actions, one.nread = 0) → last.closed = true

theorem FinishedRead.zeroOnlyWhenClosed_iff {front : List (Action Fib)} {later : Int}
    {last : State Fib} {call : ReadCall} {report : Option Report}
    (finished : FinishedRead allowed start fib buf size status actions final outcome front later
      last call report) :
    ZeroOnlyWhenClosed start fib (.read buf size) status actions ↔
      ((∃ one ∈ report, one.nread = 0) → last.closed = true) := by
  constructor
  · intro only zero
    apply only front later last finished.split finished.ran
    rw [finished.reported]
    simpa using zero
  · intro closed front' later' last' split ran zero
    have sameFront : front' = front :=
      List.append_inj_left' (split.symm.trans finished.split) rfl
    rw [sameFront, finished.ran] at ran
    cases ran
    apply closed
    rw [finished.reported] at zero
    simpa using zero

/-- Whatever libuv reports and the other fibers do, a read that returns zero
leaves a closed socket if and only if no callback reported zero bytes to a
reader that resumed on an open one. -/
theorem zero_read_closed_iff
    (reachable : (machine Fib).Reachable Machine.AnyStep start) (buffer : buf ≠ 0)
    (nonempty : 1 ≤ size) (bounded : size < 2 ^ 63)
    (run : callRead start fib (.read buf size) status actions = some final)
    (ended : final.fiber fib = .idle (some outcome)) :
    (outcome = .returned [] → final.closed = true) ↔
      ZeroOnlyWhenClosed start fib (.read buf size) status actions := by
  rcases finished_read reachable buffer nonempty bounded (Machine.along_anyStep _ _) run ended with
    ⟨rfl, reason⟩ | ⟨_, front, later, last, call, report, finished⟩
  · constructor
    · intro _ front later last split
      simp at split
    · intro _ isZero
      rw [isZero] at reason
      cases reason with
      | atOnce first => cases first
  · rw [finished.zeroOnlyWhenClosed_iff]
    cases finished.ends.verdict with
    | @obtained one isReport count isOpen _ closed _ =>
        have result := finished.stored one isReport count
        have fits := (finished.fits one isReport).count count
        rw [result]
        constructor
        · intro closes other
          obtain ⟨zero, isReport', isZero⟩ := other
          rw [isReport] at isReport'
          cases isReport'
          have empty : one.bytes = [] := List.eq_nil_of_length_eq_zero (by omega)
          exact absurd (closed.symm.trans (closes (by rw [empty]))) (by decide)
        · intro only returned
          have empty : one.bytes = [] := Outcome.returned.inj returned
          rw [empty] at fits
          have wasClosed := only ⟨one, isReport, fits⟩
          exact absurd (isOpen.symm.trans wasClosed) (by decide)
    | closed wasClosed _ closed _ => exact ⟨fun _ _ => wasClosed, fun _ _ => closed⟩
    | @failed one isReport failed _ _ =>
        refine ⟨fun _ zero => ?_, fun _ returned => by cases returned⟩
        obtain ⟨other, isReport', isZero⟩ := zero
        rw [isReport] at isReport'
        cases isReport'
        exact absurd isZero (by have := failed.1; omega)
    | @rejected one _ isReport count _ continues _ _ _ =>
        have loops := (ReadCall.loops_of_continues continues).1
        rw [finished.isRead] at loops
        cases loops
    | @closeThrew one exc isReport eof _ _ closed _ =>
        refine ⟨fun _ zero => ?_, fun _ returned => by cases returned⟩
        obtain ⟨other, isReport', isZero⟩ := zero
        rw [isReport] at isReport'
        cases isReport'
        rw [eof] at isZero
        exact absurd isZero (by decide)

/-! ## The outcome under races -/

theorem checkUvStatus_ne_ioError {status : Int} {exc : Exc} {what : What}
    (failed : checkUvStatus status = .error exc) : exc ≠ .ioError what := by
  unfold checkUvStatus at failed
  split_ifs at failed <;> cases failed <;> simp

theorem ReadRequest.first_ne_ioError {request : ReadRequest} {id : Nat} {closed : Bool}
    {what : What} : request.first id closed ≠ .inl (.threw (.ioError what)) := by
  intro first
  obtain ⟨std, count, refused⟩ := ReadRequest.first_threw first
  cases CppStd.refuses_isContainerError refused

/-- A read is refused as a concurrent one only while `reading_` is set. -/
theorem reading_of_refused {state after : State Fib} {other : Fib} {request : ReadRequest}
    (stepped : (machine Fib).step state (.read other request status) = some after)
    (refused : after.fiber other =
      .idle (some (.threw (.ioError (.text "concurrent read"))))) :
    state.closed = false ∧ state.reading = true := by
  obtain ⟨_, stepped⟩ := Option.ite_none_left_eq_some.mp stepped
  obtain ⟨_, result⟩ := Option.ite_none_right_eq_some.mp stepped
  cases result
  unfold State.startRead at refused
  simp only at refused
  split at refused
  · rename_i outcome first
    rw [State.finish_fiber, Function.update_self] at refused
    cases refused
    exact absurd first ReadRequest.first_ne_ioError
  · rename_i call first
    unfold State.read at refused
    simp only at refused
    split at refused
    · simp at refused
    · rename_i isOpen
      split at refused
      · rename_i reading
        exact ⟨by simpa using isOpen, reading⟩
      · split at refused
        · rename_i exc failed
          rw [State.finish_fiber, Function.update_self] at refused
          cases refused
          exact absurd rfl (checkUvStatus_ne_ioError failed)
        · split at refused <;> simp at refused

/-- With shutdown statuses that `close` survives an admitted read ends in one
of three ways. -/
theorem FinishedRead.outcome_cases {front : List (Action Fib)} {later : Int}
    {last : State Fib} {call : ReadCall} {report : Option Report}
    (finished : FinishedRead GracefulShutdown start fib buf size status actions final outcome
      front later last call report) :
    (∃ one, report = some one ∧ 0 ≤ one.nread ∧ last.closed = false ∧
        outcome = .returned one.bytes ∧ final.closed = false) ∨
      (last.closed = true ∧ (∀ one ∈ report, ¬ one.Failed) ∧ outcome = .returned [] ∧
        final.closed = true) ∨
      ∃ one, report = some one ∧ one.Failed ∧
        outcome = .threw (.ioError (.text "read failed")) := by
  have order := reachable_closesInOrder finished.reachable
  cases finished.ends.verdict with
  | @obtained one isReport count isOpen _ closed _ =>
      refine .inl ⟨one, isReport, count, isOpen, ?_, closed⟩
      rw [finished.stored one isReport count]
  | closed wasClosed noError closed _ =>
      exact .inr (.inl ⟨wasClosed, noError, ReadCall.onClosed_ofRead finished.isRead, closed⟩)
  | failed isReport failed _ _ => exact .inr (.inr ⟨_, isReport, failed, rfl⟩)
  | rejected _ _ _ continues _ _ _ =>
      have loops := (ReadCall.loops_of_continues continues).1
      rw [finished.isRead] at loops
      cases loops
  | closeThrew _ _ raised notGone _ _ =>
      exact absurd (raised_gone order finished.allows raised) notGone

/-- The outcome of an admitted read: it returns bytes only if its own callback
reported them and the socket is open; it throws exactly `io_error` after an
error; it returns zero on a closed socket after an EOF, or when the socket was
closed before it resumed; and `reading_` is free again. Once the callback has
reported, or the socket is closed, it can return. -/
theorem read_outcome_under_races
    (reachable : (machine Fib).Reachable GracefulShutdown start) (buffer : buf ≠ 0)
    (nonempty : 1 ≤ size) (bounded : size < 2 ^ 63) (isOpen : start.closed = false)
    (free : start.reading = false) (accepted : 0 ≤ status)
    (along : (machine Fib).Along GracefulShutdown start
      (.read fib (.read buf size) status :: actions))
    (run : callRead start fib (.read buf size) status actions = some final) :
    (reports actions ≠ [] ∨ final.closed = true →
      (machine Fib).CanReach GracefulShutdown final fun ended => ended.inside fib = false) ∧
    ∀ outcome, final.fiber fib = .idle (some outcome) →
      ∃ front later last, actions = front ++ [.resume fib later] ∧
        callRead start fib (.read buf size) status front = some last ∧
        (∀ bytes, outcome = .returned bytes → bytes ≠ [] →
          reports actions = [⟨bytes.length, bytes⟩] ∧ bytes.length ≤ size ∧
            final.closed = false) ∧
        ((∃ one ∈ reports actions, one.Failed) →
          outcome = .threw (.ioError (.text "read failed"))) ∧
        (((∃ one ∈ reports actions, one.nread = uvEof) ∨ last.closed = true) →
          (∀ one ∈ reports actions, ¬ one.Failed) →
            outcome = .returned [] ∧ final.closed = true) ∧
        outcome ≠ .threw .socketClosedError ∧ final.reading = false ∧
        ∀ more later other request status after, (machine Fib).exec final more = some later →
          (machine Fib).step later (.read other request status) = some after →
          after.fiber other = .idle (some (.threw (.ioError (.text "concurrent read")))) →
            ∃ reader notified call, later.fiber reader = .waitRead notified call := by
  have anyReachable : (machine Fib).Reachable Machine.AnyStep start :=
    reachable.mono fun _ _ _ => trivial
  constructor
  · intro decided
    have sized : (ReadRequest.read buf size).Sized := ⟨buffer, nonempty, bounded⟩
    have reached := reachable.exec along (exec_of_callRead run)
    apply callRead_canReturn anyReachable reached sized _ run decided
    intro call first
    cases first
    rfl
  intro outcome ended
  rcases finished_read reachable buffer nonempty bounded along run ended with
    ⟨_, reason⟩ | ⟨_, front, later, last, call, report, finished⟩
  · -- The read was admitted, so none of the reasons to turn it away applies.
    cases reason with
    | atOnce first => cases first
    | closed _ closed => exact absurd (isOpen.symm.trans closed) (by decide)
    | refused _ _ reading => exact absurd (free.symm.trans reading) (by decide)
    | rejected _ _ _ failed =>
        rw [checkUvStatus_ok accepted] at failed
        cases failed
  · refine ⟨front, later, last, finished.split, finished.ran, ?_, ?_, ?_, ?_,
      finished.ends.reading, ?_⟩
    · intro bytes returned some
      rcases finished.outcome_cases with ⟨one, isReport, count, _, isBytes, closed⟩ |
        ⟨_, _, isEmpty, _⟩ | ⟨_, _, _, threw⟩
      · rw [returned] at isBytes
        cases isBytes
        have fits := finished.fits one isReport
        refine ⟨?_, fits.within, closed⟩
        rw [finished.reported, isReport, Option.toList_some, ← fits.count count]
      · rw [returned] at isEmpty
        cases isEmpty
        exact absurd rfl some
      · rw [returned] at threw
        cases threw
    · intro failed
      obtain ⟨one, member, failed⟩ := failed
      rw [finished.reported] at member
      have isReport : report = some one := Option.mem_toList.mp member
      rcases finished.outcome_cases with ⟨other, isOther, count, _⟩ | ⟨_, noError, _⟩ |
        ⟨_, _, _, threw⟩
      · rw [isReport] at isOther
        cases isOther
        exact absurd failed.1 (by omega)
      · exact absurd failed (noError one isReport)
      · exact threw
    · intro ends noError
      rcases finished.outcome_cases with ⟨other, isOther, count, stillOpen, _⟩ |
        ⟨_, _, isEmpty, closed⟩ | ⟨one, isReport, failed, _⟩
      · rcases ends with ⟨one, member, eof⟩ | closed
        · rw [finished.reported, isOther] at member
          cases List.mem_singleton.mp member
          rw [eof] at count
          exact absurd count (by decide)
        · exact absurd (stillOpen.symm.trans closed) (by decide)
      · exact ⟨isEmpty, closed⟩
      · refine absurd failed (noError one ?_)
        rw [finished.reported, isReport]
        exact List.mem_singleton_self one
    · rcases finished.outcome_cases with ⟨_, _, _, _, isBytes, _⟩ | ⟨_, _, isEmpty, _⟩ |
        ⟨_, _, _, threw⟩
      · simp [isBytes]
      · simp [isEmpty]
      · simp [threw]
    · intro more later' other request status' after ran stepped refused
      have reached : (machine Fib).Reachable Machine.AnyStep later' := by
        have finalReached := anyReachable.exec (Machine.along_anyStep _ _) (exec_of_callRead run)
        exact finalReached.exec (Machine.along_anyStep _ _) ran
      exact (reachable_soleReader reached).reader (reading_of_refused stepped refused).2

end Outcome

/-- The callback has reported three bytes when another fiber closes the socket;
the reader then returns zero. -/
theorem read_overtaken_by_close :
    ∃ (actions : List (Action (Fin 2))) (final : State (Fin 2)),
      callRead (initial fun _ => 0) 0 (.read 100 8) 0 actions = some final ∧
      reports actions = [⟨3, [1, 2, 3]⟩] ∧ final.fiber 0 = .idle (some (.returned [])) ∧
      final.closed = true ∧ final.reading = false := by
  have reachable : (machine (Fin 2)).Reachable GracefulShutdown (initial fun _ => 0) :=
    .start ⟨_, rfl⟩
  have run : callRead (initial fun _ => 0) (0 : Fin 2) (.read 100 8) 0
      [.readCallback 3 [1, 2, 3], .close 1 0, .resume 0 0] = some _ := rfl
  obtain ⟨front, later, last, split, ran, _, _, ends, _, reading, _⟩ :=
    (read_outcome_under_races reachable (by decide) (by decide) (by decide) rfl rfl (by decide)
      (by decide +kernel) run).2 _ rfl
  have split : [.readCallback 3 [1, 2, 3], .close 1 0] ++ [.resume 0 0] =
      front ++ [.resume 0 later] := split
  obtain rfl := List.append_inj_left' split rfl
  cases ran
  obtain ⟨_, closed⟩ := ends (.inr rfl) (by decide)
  exact ⟨_, _, run, rfl, rfl, closed, reading⟩

/-- A callback reports zero bytes, but the socket is closed before the reader
comes to see it. -/
theorem zero_read_after_close :
    ∃ (actions : List (Action (Fin 2))) (final : State (Fin 2)),
      callRead (initial fun _ => 0) 0 (.read 100 8) 0 actions = some final ∧
      (∃ one ∈ reports actions, one.nread = 0) ∧
      ((final.fiber 0 = .idle (some (.returned []))) ∧ final.closed = true) ∧
      ZeroOnlyWhenClosed (initial fun _ => 0) 0 (.read 100 8) 0 actions := by
  have reachable : (machine (Fin 2)).Reachable Machine.AnyStep (initial fun _ => 0) :=
    .start ⟨_, rfl⟩
  have run : callRead (initial fun _ => 0) (0 : Fin 2) (.read 100 8) 0
      [.readCallback 0 [], .close 1 0, .resume 0 0] = some _ := rfl
  have only := (zero_read_closed_iff reachable (by decide) (by decide) (by decide) run rfl).mp
    fun _ => rfl
  exact ⟨_, _, run, ⟨⟨0, []⟩, by simp [reports, Action.report], rfl⟩, ⟨rfl, rfl⟩, only⟩

/-- libuv reports zero bytes (`EAGAIN`), and the read returns zero on a socket
that is open. -/
theorem zero_read_on_open_socket :
    ∃ final : State (Fin 1),
      callRead (initial fun _ => 0) (0 : Fin 1) (.read 100 8) 0
        [.readCallback 0 [], .resume 0 0] = some final ∧
      final.fiber 0 = .idle (some (.returned [])) ∧ final.closed = false ∧
      ¬ (final.fiber 0 = .idle (some (.returned [])) → final.closed = true) := by
  have run : callRead (initial fun _ => 0) (0 : Fin 1) (.read 100 8) 0
      [.readCallback 0 [], .resume 0 0] = some _ := rfl
  exact ⟨_, run, rfl, rfl, fun closes => absurd (closes rfl) (by decide)⟩

end Fiberio.Socket
