import Fiberio.Socket.Span

/-!
Owns the operations that read in a loop, `read_exactly` and the stream device:
each inner read is offered exactly the part of the buffer that is still empty,
and the loop ends because the buffer is full, because the socket is closed, or
because a read failed. Neither loop tests for the end of the stream; both rely
on `read` to close the socket there.

Does not own how the two loops compare.
-/

namespace Fiberio.Socket

open Fiberio.Foundation

variable {Fib : Type}

/-! ## Successful starts -/

/-- The status that `uv_read_start` returns in this step. -/
def State.readStartStatus (state : State Fib) : Action Fib → Option Int
  | .read _ _ status => if state.closed || state.reading then none else some status
  | .resume fib status =>
      if (state.fiber fib).isWoken && !state.closed && decide (state.buf = 0) &&
          decide (0 ≤ state.len) then
        some status
      else
        none
  | _ => none

/-- `uv_read_start` succeeds. -/
def ReadStarts (state : State Fib) (action : Action Fib) : Prop :=
  ∀ status ∈ state.readStartStatus action, 0 ≤ status

instance (state : State Fib) (action : Action Fib) : Decidable (ReadStarts state action) :=
  inferInstanceAs (Decidable (∀ status ∈ state.readStartStatus action, 0 ≤ status))

/-- A reader whose bytes have arrived on an open socket may start again. -/
theorem Phase.readStart {state : State Fib} {fib : Fib} {call : ReadCall} {one : Report}
    {report : Option Report} (phase : Phase state fib call report) (isReport : report = some one)
    (count : 0 ≤ one.nread) (isOpen : state.closed = false) (status : Int) :
    status ∈ state.readStartStatus (.resume fib status) := by
  cases phase with
  | waiting _ _ _ _ => cases isReport
  | reported woken finished len _ _ _ =>
      cases isReport
      have nonnegative : 0 ≤ state.len := by
        rw [len, reportCode, if_pos count]
        exact count
      simp [State.readStartStatus, woken, Fiber.isWoken, isOpen, finished, nonnegative]
  | closing _ eof _ _ _ =>
      cases isReport
      rw [eof] at count
      exact absurd count (by decide)

/-! ## How a loop ends -/

/-- How the caller reports that it obtained less than it was asked for. -/
def ReadCaller.onShort (caller : ReadCaller) (got : List UInt8) : Outcome :=
  match caller with
  | .readExactly _ _ => .threw .socketClosedError
  | _ => .returned got

/-- The end of a loop that began with `first` and obtained `got`. -/
inductive LoopEnds (start : State Fib) (first : ReadCall) (actions : List (Action Fib))
    (final : State Fib) (got : List UInt8) : Outcome → Prop where
  /-- The buffer is full, and nothing else was consumed. -/
  | filled (whole : got.length = first.total)
      (consumed : final.tcp.delivered = start.tcp.delivered ++ got)
      (all : received (reports actions) = got) (isOpen : final.closed = false) :
      LoopEnds start first actions final got (.returned got)
  /-- The stream ended, or somebody closed the socket. -/
  | closedFirst (short : got.length < first.total)
      (noError : ∀ one ∈ reports actions, ¬ one.Failed) (closed : final.closed = true)
      (atEof : (∃ one ∈ reports actions, one.nread = uvEof) →
        received (reports actions) = got) :
      LoopEnds start first actions final got (first.caller.onShort got)
  | failedFirst (short : got.length < first.total)
      (failed : ∃ one ∈ reports actions, one.Failed) :
      LoopEnds start first actions final got (.threw (.ioError (.text "read failed")))

/-- The bytes that the inner reads of the operation obtained. -/
structure Obtains (start : State Fib) (base : Nat) (final : State Fib) (got : List UInt8) :
    Prop where
  chunks : chunkBytes final.log = chunkBytes start.log ++ got
  stored : final.memory.load base got.length = got
  stream : start.tcp.delivered ++ got <+: final.tcp.delivered

section Ends

variable {start last final : State Fib} {fib : Fib} {first call : ReadCall}
  {front : List (Action Fib)} {earlier : List Report} {report : Option Report} {later : Int}
  {outcome : Outcome}

/-- An inner read of a loop stands in that loop. -/
theorem InnerRead.loop_cases (inner : InnerRead first call) (loops : first.caller.loops = true) :
    (∃ buf size, first.caller = .readExactly buf size ∧ call.caller = .readExactly buf size) ∨
      ∃ buf size start bytesRead, first.caller = .deviceRead buf size start ∧
        call.caller = .deviceRead buf size bytesRead := by
  have same := inner.caller
  cases isFirst : first.caller <;> rw [isFirst] at loops same <;> try cases loops
  · refine .inl ⟨_, _, rfl, ?_⟩
    cases isCall : call.caller <;> rw [isCall] at same <;> first | exact same | cases same
  · refine .inr ?_
    cases isCall : call.caller <;> rw [isCall] at same <;> cases same
    exact ⟨_, _, _, _, rfl, rfl⟩

/-- On an open socket the loop goes on as long as the buffer is not full. -/
theorem InnerRead.continues_iff {count : Nat} (inner : InnerRead first call)
    (loops : first.caller.loops = true) (within : count ≤ call.size) :
    call.continues count false = true ↔ count < call.size := by
  have bounded := inner.sized.size_lt
  have rest := inner.sized.rest
  rcases inner.loop_cases loops with ⟨buf, size, _, isCall⟩ | ⟨buf, size, _, bytesRead, _, isCall⟩
  · simp only [ReadCall.continues, isCall, subSize_eq within bounded, decide_eq_true_eq]
    omega
  · simp only [ReadCall.filled, ReadCall.total, isCall] at rest
    simp only [ReadCall.continues, isCall, Bool.not_false, Bool.true_and, decide_eq_true_eq]
    omega

/-- A full buffer holds the result. -/
theorem InnerRead.result_full (inner : InnerRead first call) (loops : first.caller.loops = true)
    (memory : Memory UInt8) :
    call.result memory call.size = memory.load first.base first.total := by
  have rest := inner.sized.rest
  rw [← inner.base, ← inner.total]
  rcases inner.loop_cases loops with ⟨buf, size, _, isCall⟩ | ⟨buf, size, _, bytesRead, _, isCall⟩
  · simp [ReadCall.result, ReadCall.base, ReadCall.total, isCall]
  · simp only [ReadCall.filled, ReadCall.total, isCall] at rest
    simp only [ReadCall.result, ReadCall.base, ReadCall.total, isCall]
    rw [← rest, Nat.add_comm]

/-- On a closed socket `read_exactly` throws, and the device returns what it
has. -/
theorem InnerRead.onClosed_eq (inner : InnerRead first call) (loops : first.caller.loops = true)
    (memory : Memory UInt8) :
    call.onClosed memory = first.caller.onShort (memory.load first.base call.filled) := by
  have bounded := inner.sized.size_lt
  have nonempty := inner.sized.nonempty
  rw [← inner.base]
  rcases inner.loop_cases loops with
    ⟨buf, size, isFirst, isCall⟩ | ⟨buf, size, _, bytesRead, isFirst, isCall⟩
  · simp [ReadCall.onClosed, ReadCall.continues, ReadCaller.onShort, isFirst, isCall,
      subSize_eq (Nat.zero_le _) bounded, nonempty]
  · simp [ReadCall.onClosed, ReadCall.continues, ReadCaller.onShort, isFirst, isCall,
      ReadCall.result, ReadCall.base, ReadCall.filled]

theorem CallTrace.filled_lt (trace : CallTrace start fib first last front call earlier report) :
    call.filled < first.total := by
  have nonempty := trace.inner.sized.nonempty
  have rest := trace.inner.sized.rest
  rw [← trace.inner.total]
  omega

/-- A loop ends in one of three ways, if `uv_read_start` succeeds and `close`
survives its shutdown. -/
theorem CallTrace.loopEnds (trace : CallTrace start fib first last front call earlier report)
    (ends : CallEnds last fib call report later final outcome)
    (loops : first.caller.loops = true) (order : ClosesInOrder last)
    (graceful : GracefulShutdown last (.resume fib later))
    (starts : ReadStarts last (.resume fib later)) :
    ∃ got, Obtains start first.base final got ∧
      LoopEnds start first (front ++ [.resume fib later]) final got outcome := by
  have place := trace.inner.sized.place
  have rest := trace.inner.sized.rest
  have noLastReport : reports (front ++ [Action.resume fib later]) = reports front := by
    simp [Action.report]
  have whole : reports front = earlier ++ report.toList := trace.reported
  have short : (received earlier).length < first.total := trace.filled ▸ trace.filled_lt
  -- What the earlier inner reads obtained, when the last one adds nothing.
  have unchanged : chunkBytes final.log = chunkBytes last.log →
      Obtains start first.base final (received earlier) := by
    intro chunks
    refine ⟨chunks.trans trace.chunks, ?_, ?_⟩
    · rw [ends.memory, trace.filled, ← trace.inner.base, trace.stored]
    · rw [ends.delivered, trace.delivered, whole, received_append, ← List.append_assoc]
      exact List.prefix_append _ _
  cases ends.verdict with
  | @obtained one isReport count isOpen isLast closed chunks =>
      have fits := trace.phase.fits one isReport
      have full : one.bytes.length = call.size := by
        have stops : ¬ one.bytes.length < call.size := by
          rw [← trace.inner.continues_iff loops fits.within, isLast]
          decide
        have within := fits.within
        omega
      have all : received (reports front) = received earlier ++ one.bytes := by
        rw [whole, isReport]
        simp [received]
      have total : (received earlier ++ one.bytes).length = first.total := by
        rw [List.length_append, trace.filled, full, ← trace.inner.total]
        omega
      have stored : final.memory.load first.base first.total = received earlier ++ one.bytes := by
        rw [← total, List.length_append, trace.filled, Memory.load_add, ends.memory,
          ← trace.inner.base, trace.stored, ← place, trace.phase.stored isReport count]
      have consumed : final.tcp.delivered =
          start.tcp.delivered ++ (received earlier ++ one.bytes) := by
        rw [ends.delivered, trace.delivered, all]
      refine ⟨received earlier ++ one.bytes, ⟨?_, ?_, ?_⟩, ?_⟩
      · rw [chunks, trace.chunks, List.append_assoc]
      · rw [total, stored]
      · rw [consumed]
      · rw [full, trace.inner.result_full loops, ← ends.memory, stored]
        exact .filled total consumed (noLastReport ▸ all) closed
  | closed wasClosed noError closed chunks =>
      refine ⟨received earlier, unchanged chunks, ?_⟩
      rw [trace.inner.onClosed_eq loops, ← trace.inner.base, trace.stored]
      refine .closedFirst short ?_ closed ?_
      · rw [noLastReport, whole]
        intro one member
        rcases List.mem_append.mp member with early | last
        · have count := trace.counts one early
          exact fun failed => absurd failed.1 (by omega)
        · exact noError one (Option.mem_toList.mp last)
      · rw [noLastReport, whole]
        intro eof
        obtain ⟨one, member, eof⟩ := eof
        -- The end of the stream comes without bytes, and last.
        rcases List.mem_append.mp member with early | last
        · have count := trace.counts one early
          rw [eof] at count
          exact absurd count (by decide)
        · have isReport := Option.mem_toList.mp last
          have silent := (trace.phase.fits one isReport).silent (by rw [eof]; decide)
          rw [Option.mem_def.mp isReport]
          simp [received, silent]
  | @failed one isReport failed closed chunks =>
      refine ⟨received earlier, unchanged chunks, .failedFirst short ⟨one, ?_, failed⟩⟩
      rw [noLastReport, whole, isReport]
      simp
  | rejected isReport count isOpen _ rejected _ _ =>
      have accepted := starts later (trace.phase.readStart isReport count isOpen later)
      rw [checkUvStatus_ok accepted] at rejected
      cases rejected
  | closeThrew _ _ raised notGone _ _ => exact absurd (raised_gone order graceful raised) notGone

end Ends

/-! ## Whole calls -/

section Calls

variable [DecidableEq Fib] [Fintype Fib] {start final : State Fib} {fib : Fib}
  {request : ReadRequest} {status : Int} {actions : List (Action Fib)}

/-- An operation that makes no inner read ends in the step in which it is
called. -/
theorem callRead_atOnce {outcome : Outcome}
    (first : request.first start.calls start.closed = .inl outcome)
    (run : callRead start fib request status actions = some final) :
    actions = [] ∧ EndsAtOnce start fib final outcome := by
  obtain ⟨began, stepped, run⟩ := Option.bind_eq_some_iff.mp run
  have ends : EndsAtOnce start fib began outcome := by
    obtain ⟨_, stepped⟩ := Option.ite_none_left_eq_some.mp stepped
    obtain ⟨_, result⟩ := Option.ite_none_right_eq_some.mp stepped
    cases result
    simp only [State.startRead, first]
    refine ⟨Function.update_self _ _ _, rfl, rfl, rfl, ?_⟩
    simp [chunkBytes, Event.chunkBytes]
  cases actions with
  | nil =>
      cases run
      exact ⟨rfl, ends⟩
  | cons action rest =>
      have inside := (Machine.execWhile_cons_some run).1
      simp [State.inside, ends.ended, Fiber.isIdle] at inside

/-- While the loop waits, its inner read is offered what is left of the
buffer. -/
theorem loop_offers {notified : Bool} {call : ReadCall}
    (reachable : (machine Fib).Reachable Machine.AnyStep start) (sized : request.Sized)
    (run : callRead start fib request status actions = some final)
    (waits : final.fiber fib = .waitRead notified call) :
    ∃ first got, Admitted start request status first ∧ Obtains start first.base final got ∧
      got.length < first.total ∧ call.buf = first.base + got.length ∧
      call.size = first.total - got.length ∧
      (final.buf ≠ 0 → final.allocCallback = (call.buf, call.size)) := by
  cases callRead_span reachable sized (Machine.along_anyStep _ _) run with
  | turnedAway _ _ ends =>
      rw [ends.ended] at waits
      cases waits
  | ended _ _ _ _ _ _ ends =>
      rw [ends.ended] at waits
      cases waits
  | @lasts first call' earlier report admitted trace =>
      have same : call' = call := by
        have active := trace.phase.active
        rw [waits] at active
        exact (Option.some.inj active).symm
      subst same
      have place := trace.inner.sized.place
      have rest := trace.inner.sized.rest
      have filled := trace.filled
      refine ⟨first, received earlier, admitted, ⟨trace.chunks, ?_, ?_⟩, filled ▸ trace.filled_lt,
        ?_, ?_, ?_⟩
      · rw [filled, ← trace.inner.base, trace.stored]
      · rw [trace.delivered, trace.reported, received_append, ← List.append_assoc]
        exact List.prefix_append _ _
      · rw [filled, ← trace.inner.base, place]
      · rw [filled, ← trace.inner.total]
        omega
      · intro pending
        cases trace.phase with
        | waiting _ buf len _ =>
            rw [State.allocCallback, buf, len, toSize_natCast trace.inner.sized.size_lt]
        | reported _ finished _ _ _ _ => exact absurd finished pending
        | closing inside _ _ _ _ => rcases inside with inside | inside <;> simp [waits] at inside

theorem loop_ends {outcome : Outcome}
    (reachable : (machine Fib).Reachable GracefulShutdown start) (sized : request.Sized)
    (loops : ∀ call, request.first start.calls start.closed = .inr call →
      call.caller.loops = true)
    (graceful : (machine Fib).Along GracefulShutdown start
      (.read fib request status :: actions))
    (starts : (machine Fib).Along ReadStarts start (.read fib request status :: actions))
    (run : callRead start fib request status actions = some final)
    (ended : final.fiber fib = .idle (some outcome)) :
    (TurnedAway start request status outcome ∧ actions = [] ∧
        EndsAtOnce start fib final outcome) ∨
      ∃ first got, Admitted start request status first ∧ Obtains start first.base final got ∧
        LoopEnds start first actions final got outcome := by
  cases callRead_span reachable sized graceful run with
  | turnedAway none reason ends =>
      have same := ends.ended
      rw [ended] at same
      cases same
      exact .inl ⟨reason, none, ends⟩
  | lasts _ trace =>
      have inside := trace.phase.inside
      simp [State.inside, ended, Fiber.isIdle] at inside
  | @ended first call earlier report front last later outcome' admitted split ran reached allows
      trace ends =>
      have same := ends.ended
      rw [ended] at same
      cases same
      subst split
      obtain ⟨got, obtains, loopEnds⟩ := trace.loopEnds ends (loops first admitted.first)
        (reachable_closesInOrder reached) allows (Machine.Along.last starts (exec_of_callRead ran))
      exact .inr ⟨first, got, admitted, obtains, loopEnds⟩

omit [DecidableEq Fib] [Fintype Fib] in
/-- If `uv_read_start` succeeds, a call is only turned away by the state of
the socket. -/
theorem TurnedAway.cases {outcome : Outcome} (reason : TurnedAway start request status outcome)
    (starts : ReadStarts start (.read fib request status)) :
    request.first start.calls start.closed = .inl outcome ∨
      (start.closed = true ∧ outcome = .threw .socketClosedError) ∨
      (start.closed = false ∧ start.reading = true ∧
        outcome = .threw (.ioError (.text "concurrent read"))) := by
  cases reason with
  | atOnce first => exact .inl first
  | closed _ closed => exact .inr (.inl ⟨closed, rfl⟩)
  | refused _ isOpen reading => exact .inr (.inr ⟨isOpen, reading, rfl⟩)
  | rejected _ isOpen free failed =>
      have accepted : 0 ≤ status := starts status (by simp [State.readStartStatus, isOpen, free])
      rw [checkUvStatus_ok accepted] at failed
      cases failed

end Calls

end Fiberio.Socket
