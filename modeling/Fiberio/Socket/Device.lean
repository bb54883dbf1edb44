import Fiberio.Socket.Lockstep
import Fiberio.Socket.ReadExactly

/-!
Owns the stream device of `iostream.hpp` against `read_exactly`. Its loop tests
`is_open()` and counts upwards, that of `read_exactly` counts down what is
left; on an open socket both go on as long as the buffer is not full, so they
make the same inner reads and differ in how they report a short read.

Does not own the other operations of the device.
-/

namespace Fiberio.Socket

open Fiberio.Foundation

/-! ## The two loops -/

/-- Inner reads of two loops over buffers of the same size, which have come
equally far. -/
structure LoopPartners (first second : ReadCall) : Prop where
  id : first.id = second.id
  size : first.size = second.size
  total : first.total = second.total
  sized : first.Sized ∧ second.Sized
  loops : first.caller.loops = true ∧ second.caller.loops = true

/-- A loop reads again exactly when its buffer is not full. -/
theorem ReadCall.Sized.continues_iff {call : ReadCall} {count : Nat} (sized : call.Sized)
    (loops : call.caller.loops = true) (within : count ≤ call.size) :
    call.continues count false = true ↔ count < call.size := by
  have inner : InnerRead call call := ⟨sized, rfl, rfl, rfl⟩
  exact inner.continues_iff loops within

theorem LoopPartners.continues {first second : ReadCall} {count : Nat}
    (partners : LoopPartners first second) (within : count ≤ first.size) :
    first.continues count false = second.continues count false := by
  have size := partners.size
  rw [Bool.eq_iff_iff, partners.sized.1.continues_iff partners.loops.1 within,
    partners.sized.2.continues_iff partners.loops.2 (by omega), size]

theorem LoopPartners.next {first second : ReadCall} {count : Nat}
    (partners : LoopPartners first second) (within : count ≤ first.size)
    (continues : first.continues count false = true) :
    LoopPartners (first.next count) (second.next count) := by
  have size := partners.size
  have total := partners.total
  have rest := partners.sized.1.rest
  have rest' := partners.sized.2.rest
  have continues' : second.continues count false = true := by
    rw [← partners.continues within]
    exact continues
  obtain ⟨sized, id, _, nextTotal, filled⟩ := partners.sized.1.next within continues
  obtain ⟨sized', id', _, nextTotal', filled'⟩ := partners.sized.2.next (by omega) continues'
  have nextRest := sized.rest
  have nextRest' := sized'.rest
  refine ⟨?_, by omega, by omega, ⟨sized, sized'⟩, ?_⟩
  · rw [id, id', partners.id]
  · exact ⟨(ReadCall.loops_of_continues continues).2, (ReadCall.loops_of_continues continues').2⟩

/-- The two loops go together, however they end. -/
theorem loopPartnership : Partnership LoopPartners fun _ _ => True where
  id := fun _ _ partners => partners.id
  size := fun _ _ partners => partners.size
  sized := fun _ _ partners => partners.sized
  continues := fun _ _ _ partners within => partners.continues within
  next := fun _ _ _ partners within continues => partners.next within continues
  threw := fun _ => trivial
  closed := fun _ _ _ _ _ => trivial
  obtained := fun _ _ _ _ _ _ _ _ => trivial

variable {Fib : Type}

/-! ## How both end -/

/-- The outcomes of the device and of `read_exactly`, for `size` bytes of which
the inner reads obtained `got`. -/
inductive OutcomesAgree (size : Nat) (got : List UInt8) (final : State Fib) :
    Outcome → Outcome → Prop where
  | filled (whole : got.length = size) :
      OutcomesAgree size got final (.returned got) (.returned got)
  | closedFirst (short : got.length < size) (closed : final.closed = true) :
      OutcomesAgree size got final (.returned got) (.threw .socketClosedError)
  | failed (short : got.length < size) (what : What) :
      OutcomesAgree size got final (.threw (.ioError what)) (.threw (.ioError what))

/-- Loops that obtained the same bytes end for the same reason. -/
theorem LoopEnds.agree {start final final' : State Fib} {first second : ReadCall}
    {actions : List (Action Fib)} {got : List UInt8} {outcome outcome' : Outcome}
    {buf size bytesRead buf' size' : Nat} (ends : LoopEnds start first actions final got outcome)
    (ends' : LoopEnds start second actions final' got outcome')
    (device : first.caller = .deviceRead buf size bytesRead)
    (exactly : second.caller = .readExactly buf' size') (total : first.total = second.total) :
    OutcomesAgree first.total got final outcome outcome' := by
  cases ends with
  | filled whole _ _ _ =>
      cases ends' with
      | filled _ _ _ _ => exact .filled whole
      | closedFirst short _ _ _ => omega
      | failedFirst short _ => omega
  | closedFirst short noError closed _ =>
      cases ends' with
      | filled whole _ _ _ => omega
      | closedFirst _ _ _ _ =>
          rw [device, exactly]
          exact .closedFirst short closed
      | failedFirst _ failed =>
          obtain ⟨one, member, failed⟩ := failed
          exact absurd failed (noError one member)
  | failedFirst short failed =>
      cases ends' with
      | filled whole _ _ _ => omega
      | closedFirst _ noError _ _ =>
          obtain ⟨one, member, failed⟩ := failed
          exact absurd failed (noError one member)
      | failedFirst _ _ => exact .failed short _

/-! ## The same events -/

/-- Both operations are under way, or both have ended. -/
def EndTogether (start : State Fib) (fib : Fib) (buf size : Nat) (device exactly : State Fib) :
    Prop :=
  (device.inside fib = true ∧ exactly.inside fib = true) ∨
    ∃ got outcome outcome', device.fiber fib = .idle (some outcome) ∧
      exactly.fiber fib = .idle (some outcome') ∧ Obtains start buf device got ∧
      Obtains start buf exactly got ∧ OutcomesAgree size got device outcome outcome'

/-- What the device and `read_exactly` have in common after the same events. -/
structure DeviceAgrees (start : State Fib) (fib : Fib) (buf size : Nat)
    (device exactly : State Fib) : Prop where
  closed : exactly.closed = device.closed
  reading : exactly.reading = device.reading
  tcp : exactly.tcp = device.tcp
  together : EndTogether start fib buf size device exactly
  full : (∃ bytes, device.fiber fib = .idle (some (.returned bytes)) ∧ bytes.length = size) ↔
    ∃ bytes, exactly.fiber fib = .idle (some (.returned bytes))

/-- The device returns `size` exactly when `read_exactly` returns normally. -/
theorem EndTogether.full {start device exactly : State Fib} {fib : Fib} {buf size : Nat}
    (together : EndTogether start fib buf size device exactly) :
    (∃ bytes, device.fiber fib = .idle (some (.returned bytes)) ∧ bytes.length = size) ↔
      ∃ bytes, exactly.fiber fib = .idle (some (.returned bytes)) := by
  rcases together with ⟨inside, inside'⟩ | ⟨got, outcome, outcome', ended, ended', _, _, agree⟩
  · constructor
    · intro returned
      obtain ⟨bytes, idle, _⟩ := returned
      simp [State.inside, idle, Fiber.isIdle] at inside
    · intro returned
      obtain ⟨bytes, idle⟩ := returned
      simp [State.inside, idle, Fiber.isIdle] at inside'
  · rw [ended, ended']
    cases agree with
    | filled whole => simpa using whole
    | closedFirst short _ =>
        simp only [Fiber.idle.injEq, Option.some.injEq, Outcome.returned.injEq, reduceCtorEq,
          exists_false, iff_false, not_exists, not_and]
        intro bytes same
        rw [← same]
        omega
    | failed _ _ => simp

section Calls

variable [DecidableEq Fib] [Fintype Fib] {start final final' : State Fib} {fib : Fib}
  {buf size : Nat} {status : Int} {actions : List (Action Fib)}

/-- `uv_read_start` succeeds on an open socket, and a shutdown succeeds or
finds that the connection is gone. -/
def FairCall (start : State Fib) (fib : Fib) (request : ReadRequest) (status : Int)
    (actions : List (Action Fib)) : Prop :=
  (machine Fib).Along GracefulShutdown start (.read fib request status :: actions) ∧
    (machine Fib).Along ReadStarts start (.read fib request status :: actions)

instance (start : State Fib) (fib : Fib) (request : ReadRequest) (status : Int)
    (actions : List (Action Fib)) : Decidable (FairCall start fib request status actions) :=
  inferInstanceAs (Decidable (_ ∧ _))

omit [DecidableEq Fib] [Fintype Fib] in
theorem deviceRead_first (isOpen : start.closed = false) (nonempty : 0 < size) :
    (ReadRequest.deviceRead buf size).first start.calls start.closed =
      .inr ⟨start.calls, buf, size, .deviceRead buf size 0⟩ := by
  simp [ReadRequest.first, isOpen, nonempty]

omit [DecidableEq Fib] [Fintype Fib] in
/-- The loop of the device is not entered. -/
theorem deviceRead_atOnce (notEntered : start.closed = true ∨ size = 0) :
    (ReadRequest.deviceRead buf size).first start.calls start.closed = .inl (.returned []) := by
  rcases notEntered with closed | rfl
  · simp [ReadRequest.first, closed]
  · simp [ReadRequest.first]

/-- Both run over the same actions. -/
theorem deviceRead_alike (reachable : (machine Fib).Reachable Machine.AnyStep start)
    (bounded : size < 2 ^ 63) :
    Option.Rel (Alike (fun _ _ => True) fib)
      (callRead start fib (.deviceRead buf size) status actions)
      (callRead start fib (.readExactly buf size) status actions) := by
  have sameBuffer : (ReadRequest.deviceRead buf size).hasBuffer =
      (ReadRequest.readExactly buf size).hasBuffer := rfl
  let started : State Fib := { start with calls := start.calls + 1 }
  by_cases nonempty : 0 < size
  · have exactly : (ReadRequest.readExactly buf size).first start.calls start.closed =
        .inr ⟨start.calls, buf, size, .readExactly buf size⟩ := readExactly_first nonempty _ _
    by_cases closed : start.closed = true
    · apply callRead_ended_alike sameBuffer
      have turnedAway : start.startRead fib (.readExactly buf size) status =
          started.finish fib .read (.threw .socketClosedError) := by
        simp only [State.startRead, exactly]
        rw [State.read, if_pos (by exact closed)]
      rw [turnedAway]
      simp only [State.startRead, deviceRead_atOnce (.inl closed)]
      exact .intro started started.buf started.memory trivial
    · have isOpen : start.closed = false := by simpa using closed
      have device := @deviceRead_first _ start buf size isOpen nonempty
      by_cases buffer : (ReadRequest.readExactly buf size).hasBuffer = true
      · have given : buf ≠ 0 := by
          simp only [ReadRequest.hasBuffer, decide_eq_true_eq] at buffer
          intro null
          exact absurd (buffer.2 null) (by omega)
        have sized := (@ReadRequest.Sized.first (.deviceRead buf size) _ _ _
          ⟨given, nonempty, bounded⟩ device).1
        have sized' := (@ReadRequest.Sized.first (.readExactly buf size) _ _ _
          ⟨given, nonempty, bounded⟩ exactly).1
        apply callRead_alike loopPartnership reachable ⟨sameBuffer.trans buffer, buffer⟩
        rw [device, exactly]
        exact .inr ⟨rfl, rfl, rfl, ⟨sized, sized'⟩, ⟨rfl, rfl⟩⟩
      · cases run : callRead start fib (.deviceRead buf size) status actions with
        | some final => exact absurd (callRead_hasBuffer run) buffer
        | none =>
            cases run' : callRead start fib (.readExactly buf size) status actions with
            | some final => exact absurd (callRead_hasBuffer run') buffer
            | none => exact .none
  · apply callRead_ended_alike sameBuffer
    have exactly : (ReadRequest.readExactly buf size).first start.calls start.closed =
        .inl (.returned []) := by
      rw [ReadRequest.first, if_neg nonempty]
    simp only [State.startRead, deviceRead_atOnce (.inr (Nat.eq_zero_of_not_pos nonempty)), exactly]
    exact .intro started started.buf started.memory trivial

/-- An operation that ends at once has this outcome. -/
theorem callRead_atOnce_outcome {request : ReadRequest} {outcome outcome' : Outcome}
    (first : request.first start.calls start.closed = .inl outcome)
    (run : callRead start fib request status actions = some final)
    (ended : final.fiber fib = .idle (some outcome')) :
    outcome' = outcome ∧ actions = [] ∧ EndsAtOnce start fib final outcome := by
  obtain ⟨none, ends⟩ := callRead_atOnce first run
  have same := ends.ended
  rw [ended] at same
  cases same
  exact ⟨rfl, none, ends⟩

/-- The end of a loop on a socket that is open when it is called. -/
theorem loop_ends_open {request : ReadRequest} {first : ReadCall} {outcome : Outcome}
    (reachable : (machine Fib).Reachable GracefulShutdown start) (sized : request.Sized)
    (isFirst : request.first start.calls start.closed = .inr first)
    (loops : first.caller.loops = true) (isOpen : start.closed = false)
    (fair : FairCall start fib request status actions)
    (run : callRead start fib request status actions = some final)
    (ended : final.fiber fib = .idle (some outcome)) :
    (start.reading = true ∧ outcome = .threw (.ioError (.text "concurrent read")) ∧
        EndsAtOnce start fib final outcome) ∨
      start.reading = false ∧ ∃ got, Obtains start first.base final got ∧
        LoopEnds start first actions final got outcome := by
  have allLoop : ∀ call, request.first start.calls start.closed = .inr call →
      call.caller.loops = true := by
    intro call isCall
    rw [isFirst] at isCall
    cases isCall
    exact loops
  rcases loop_ends reachable sized allLoop fair.1 fair.2 run ended with
    ⟨reason, _, ends⟩ | ⟨call, got, admitted, obtains, loopEnds⟩
  · rcases reason.cases fair.2.1 with atOnce | ⟨closed, _⟩ | ⟨_, reading, refused⟩
    · rw [isFirst] at atOnce
      cases atOnce
    · exact absurd (isOpen.symm.trans closed) (by decide)
    · exact .inl ⟨reading, refused, ends⟩
  · have isCall := admitted.first
    rw [isFirst] at isCall
    cases isCall
    exact .inr ⟨admitted.free, got, obtains, loopEnds⟩

/-- Both have ended. -/
theorem deviceRead_outcomes {outcome outcome' : Outcome}
    (reachable : (machine Fib).Reachable GracefulShutdown start) (bounded : size < 2 ^ 63)
    (fair : FairCall start fib (.deviceRead buf size) status actions)
    (fair' : FairCall start fib (.readExactly buf size) status actions)
    (run : callRead start fib (.deviceRead buf size) status actions = some final)
    (run' : callRead start fib (.readExactly buf size) status actions = some final')
    (chunks : chunkBytes final'.log = chunkBytes final.log)
    (ended : final.fiber fib = .idle (some outcome))
    (ended' : final'.fiber fib = .idle (some outcome')) :
    ∃ got, Obtains start buf final got ∧ Obtains start buf final' got ∧
      OutcomesAgree size got final outcome outcome' := by
  by_cases nonempty : 0 < size
  · have sized : (ReadRequest.readExactly buf size).Sized :=
      readExactly_sized bounded nonempty run'
    by_cases closed : start.closed = true
    · obtain ⟨rfl, none, ends⟩ :=
        callRead_atOnce_outcome (deviceRead_atOnce (.inl closed)) run ended
      obtain ⟨got, obtains, exactlyEnds⟩ :=
        readExactly_ends reachable bounded fair'.1 fair'.2 run' ended'
      have nothing : got = [] := by
        have same := obtains.chunks
        rw [chunks, ends.chunks] at same
        simpa using same
      subst nothing
      have finalClosed : final.closed = true := ends.closed.trans closed
      refine ⟨[], ends.obtains buf, obtains, ?_⟩
      cases exactlyEnds with
      | filled whole _ => simp at whole; omega
      | closedFirst _ _ _ _ => exact .closedFirst nonempty finalClosed
      | failedFirst _ failed => simp [none, reports] at failed
      | refused _ isOpen _ => exact absurd (isOpen.symm.trans closed) (by decide)
    · have isOpen : start.closed = false := by simpa using closed
      have deviceSized : (ReadRequest.deviceRead buf size).Sized := sized
      have ends := loop_ends_open reachable deviceSized (deviceRead_first isOpen nonempty) rfl
        isOpen fair run ended
      have ends' := loop_ends_open reachable sized (readExactly_first nonempty _ _) rfl isOpen
        fair' run' ended'
      rcases ends with ⟨reading, rfl, ends⟩ | ⟨free, got, obtains, ends⟩
      · rcases ends' with ⟨_, rfl, ends'⟩ | ⟨free, _⟩
        · exact ⟨[], ends.obtains buf, ends'.obtains buf, .failed nonempty _⟩
        · exact absurd (free.symm.trans reading) (by decide)
      · rcases ends' with ⟨reading, _⟩ | ⟨_, got', obtains', ends'⟩
        · exact absurd (free.symm.trans reading) (by decide)
        · have same : got' = got := by
            have equal := obtains'.chunks.symm.trans (chunks.trans obtains.chunks)
            exact List.append_cancel_left equal
          subst same
          exact ⟨got', obtains, obtains', ends.agree ends' rfl rfl rfl⟩
  · have zero : size = 0 := Nat.eq_zero_of_not_pos nonempty
    have exactly : (ReadRequest.readExactly buf size).first start.calls start.closed =
        .inl (.returned []) := by
      rw [ReadRequest.first, if_neg nonempty]
    obtain ⟨rfl, _, ends⟩ := callRead_atOnce_outcome (deviceRead_atOnce (.inr zero)) run ended
    obtain ⟨rfl, _, ends'⟩ := callRead_atOnce_outcome exactly run' ended'
    exact ⟨[], ends.obtains buf, ends'.obtains buf, .filled zero.symm⟩

theorem deviceRead_agrees (reachable : (machine Fib).Reachable GracefulShutdown start)
    (bounded : size < 2 ^ 63) (fair : FairCall start fib (.deviceRead buf size) status actions)
    (fair' : FairCall start fib (.readExactly buf size) status actions) :
    Option.Rel (DeviceAgrees start fib buf size)
      (callRead start fib (.deviceRead buf size) status actions)
      (callRead start fib (.readExactly buf size) status actions) := by
  apply rel_weaken (deviceRead_alike (reachable.mono fun _ _ _ => trivial) bounded)
  intro device exactly run run' alike
  have together : EndTogether start fib buf size device exactly := by
    rcases alike.outcomes with inside | ⟨outcome, outcome', ended, ended', _⟩
    · exact .inl inside
    · obtain ⟨got, obtains, obtains', agree⟩ := deviceRead_outcomes reachable bounded fair fair'
        run run' alike.chunks ended ended'
      exact .inr ⟨got, outcome, outcome', ended, ended', obtains, obtains', agree⟩
  exact ⟨alike.closed, alike.reading, alike.tcp, together, together.full⟩

/-! ## However the stream is cut -/

/-- A callback has reported the end of the stream. -/
def SawEof (actions : List (Action Fib)) : Prop := ∃ one ∈ reports actions, one.nread = uvEof

omit [DecidableEq Fib] [Fintype Fib] in
theorem SawEof.append {past : List (Action Fib)} (saw : SawEof past) (more : List (Action Fib)) :
    SawEof (past ++ more) := by
  obtain ⟨one, member, eof⟩ := saw
  rw [SawEof, reports_append]
  exact ⟨one, List.mem_append_left _ member, eof⟩

/-- The read callbacks carry `stream` before the end of the stream, none of
them reports an error, and nobody closes the socket. -/
structure Carries (actions : List (Action Fib)) (stream : List UInt8) : Prop where
  noClose : ∀ other status, Action.close other status ∉ actions
  noError : ∀ one ∈ reports actions, ¬ one.Failed
  front : received (reports actions) <+: stream
  whole : SawEof actions → received (reports actions) = stream

omit [Fintype Fib] in
/-- While the operation lasts, only its own reader closes the socket, at the
end of the stream. -/
theorem CallTrace.sawEof {state after : State Fib} {first call : ReadCall}
    {past : List (Action Fib)} {earlier : List Report} {report : Option Report}
    {action : Action Fib} (trace : CallTrace start fib first state past call earlier report)
    (sole : SoleReader state) (transition : Transition state action after)
    (noClose : ∀ other status, action ≠ .close other status)
    (before : state.closed = true → SawEof past) (closed : after.closed = true) :
    SawEof (past ++ [action]) := by
  rcases transition.closed_cases with same | ⟨other, status, closer, becomes⟩
  · exact (before (same ▸ closed)).append _
  · obtain ⟨entered, entry⟩ := becomes.entry
    cases entry with
    | user _ => exact absurd rfl (noClose _ _)
    | destructor idle =>
        have inside := trace.phase.inside
        simp [State.inside, idle fib] at inside
    | @eof _ call' woken _ atEof =>
        have active : (state.fiber other).activeRead = some call' := by
          rw [woken]
          rfl
        have same := sole.single _ _ _ _ active trace.phase.active
        subst same
        have reported := trace.reported
        cases trace.phase with
        | waiting _ _ len _ =>
            rw [len, errorEof] at atEof
            omega
        | @reported one _ _ len _ _ _ =>
            have eof : one.nread = uvEof := by
              rw [len, reportCode] at atEof
              split at atEof
              · rw [errorEof] at atEof
                omega
              · split at atEof
                · assumption
                · cases atEof
            refine SawEof.append ⟨one, ?_, eof⟩ _
            rw [reported]
            simp
        | closing _ _ closed _ _ => exact absurd (becomes.isOpen.symm.trans closed) (by decide)

/-- If the socket was open and nobody else closed it, a closed socket means
that the stream has ended. -/
theorem callRead_sawEof {request : ReadRequest}
    (reachable : (machine Fib).Reachable Machine.AnyStep start) (sized : request.Sized)
    (isOpen : start.closed = false)
    (noClose : ∀ other status, Action.close other status ∉ actions)
    (run : callRead start fib request status actions = some final)
    (closed : final.closed = true) : SawEof actions := by
  obtain ⟨began, stepped, ran⟩ := Option.bind_eq_some_iff.mp run
  induction actions using List.reverseRecOn generalizing final with
  | nil =>
      cases ran
      have transition := step_transition (reachable_owned reachable) stepped
      rcases transition.closed_cases with same | ⟨_, _, _, becomes⟩
      · rw [same, isOpen] at closed
        cases closed
      · obtain ⟨entered, entry⟩ := becomes.entry
        cases entry
  | append_singleton front action inductionHypothesis =>
      obtain ⟨last, lastRan, inside, lastStep⟩ := Machine.execWhile_concat_some ran
      have lastRun : callRead start fib request status front = some last := by
        rw [callRead, stepped]
        exact lastRan
      have reached := reachable.exec (Machine.along_anyStep _ _) (exec_of_callRead lastRun)
      have noCloseFront : ∀ other status, Action.close other status ∉ front :=
        fun other status member => noClose other status (List.mem_append_left _ member)
      cases callRead_span reachable sized (Machine.along_anyStep _ _) lastRun with
      | turnedAway _ _ ends => simp [State.inside, ends.ended, Fiber.isIdle] at inside
      | ended _ _ _ _ _ _ ends => simp [State.inside, ends.ended, Fiber.isIdle] at inside
      | lasts _ trace =>
          have transition := step_transition (reachable_owned reached) lastStep
          apply trace.sawEof (reachable_soleReader reached) transition _ _ closed
          · intro other status isClose
            exact noClose other status (by simp [isClose])
          · exact fun lastClosed => inductionHypothesis noCloseFront lastRun lastClosed lastRan

/-- What the device makes of a stream. -/
def State.deviceResult (start : State Fib) (size : Nat) (stream : List UInt8) : Outcome :=
  if start.closed || decide (size = 0) then .returned []
  else if start.reading then .threw (.ioError (.text "concurrent read"))
  else .returned (stream.take size)

/-- The pieces in which the stream arrives do not matter. -/
theorem deviceRead_result {stream : List UInt8} {outcome : Outcome}
    (reachable : (machine Fib).Reachable GracefulShutdown start) (bounded : size < 2 ^ 63)
    (fair : FairCall start fib (.deviceRead buf size) status actions)
    (carries : Carries actions stream)
    (run : callRead start fib (.deviceRead buf size) status actions = some final)
    (ended : final.fiber fib = .idle (some outcome)) :
    outcome = start.deviceResult size stream := by
  by_cases notEntered : start.closed = true ∨ size = 0
  · obtain ⟨rfl, _, _⟩ := callRead_atOnce_outcome (deviceRead_atOnce notEntered) run ended
    rw [State.deviceResult, if_pos (by simpa using notEntered)]
  · obtain ⟨notClosed, notZero⟩ := not_or.mp notEntered
    have isOpen : start.closed = false := by simpa using notClosed
    have nonempty : 0 < size := Nat.pos_of_ne_zero notZero
    have sized : (ReadRequest.deviceRead buf size).Sized := by
      have buffer := callRead_hasBuffer run
      simp only [ReadRequest.hasBuffer, decide_eq_true_eq] at buffer
      exact ⟨fun null => absurd (buffer.2 null) notZero, nonempty, bounded⟩
    rw [State.deviceResult, if_neg (by simpa using notEntered)]
    rcases loop_ends_open reachable sized (deviceRead_first isOpen nonempty) rfl isOpen fair run
      ended with ⟨reading, refused, _⟩ | ⟨free, got, obtains, loopEnds⟩
    · rw [if_pos reading, refused]
    · rw [if_neg (by simp [free])]
      cases loopEnds with
      | filled whole _ all _ =>
          have whole : got.length = size := whole
          have front := carries.front
          rw [all] at front
          rw [← whole, ← List.prefix_iff_eq_take.mp front]
      | closedFirst short _ closed atEof =>
          have short : got.length < size := short
          have saw := callRead_sawEof (reachable.mono fun _ _ _ => trivial) sized isOpen
            carries.noClose run closed
          have all : got = stream := (atEof saw).symm.trans (carries.whole saw)
          rw [← all, List.take_of_length_le (Nat.le_of_lt short)]
          rfl
      | failedFirst _ failed =>
          obtain ⟨one, member, failed⟩ := failed
          exact absurd failed (carries.noError one member)

/-- The stream device agrees with `read_exactly`: they run over the same
events, and end with the same bytes in the buffer; the device returns a count
that is too small where `read_exactly` throws `socket_closed_error`. Without a
local close and without errors, the result of the device only depends on the
bytes before the end of the stream. -/
theorem device_read_agrees_with_read_exactly
    (reachable : (machine Fib).Reachable GracefulShutdown start) (bounded : size < 2 ^ 63) :
    (∀ status actions, FairCall start fib (.deviceRead buf size) status actions →
      FairCall start fib (.readExactly buf size) status actions →
        Option.Rel (DeviceAgrees start fib buf size)
          (callRead start fib (.deviceRead buf size) status actions)
          (callRead start fib (.readExactly buf size) status actions)) ∧
    ∀ stream status status' actions actions' final final' outcome outcome',
      FairCall start fib (.deviceRead buf size) status actions →
      FairCall start fib (.deviceRead buf size) status' actions' →
      Carries actions stream → Carries actions' stream →
      callRead start fib (.deviceRead buf size) status actions = some final →
      callRead start fib (.deviceRead buf size) status' actions' = some final' →
      final.fiber fib = .idle (some outcome) → final'.fiber fib = .idle (some outcome') →
        outcome = outcome' ∧ outcome = start.deviceResult size stream := by
  constructor
  · intro status actions fair fair'
    exact deviceRead_agrees reachable bounded fair fair'
  · intro stream status status' actions actions' final final' outcome outcome' fair fair' carries
      carries' run run' ended ended'
    have result := deviceRead_result reachable bounded fair carries run ended
    have result' := deviceRead_result reachable bounded fair' carries' run' ended'
    exact ⟨result.trans result'.symm, result⟩

end Calls

/-- The stream arrives in pieces and ends, and the reader closes the socket. -/
def arrivesAndEnds (fib : Fib) (pieces : List (List UInt8)) : List (Action Fib) :=
  (pieces.flatMap fun piece => [.readCallback piece.length piece, .resume fib 0]) ++
    [.readCallback uvEof [], .resume fib 0, .complete 0 0, .resume fib 0, .onHandleClosed,
      .resume fib 0]

/-- Four bytes are asked for, and the stream ends after two, in one piece or
in three. -/
theorem device_read_of_two_bytes :
    Option.Rel (DeviceAgrees (initial fun _ => 0) (0 : Fin 1) 100 4)
        (callRead (initial fun _ => 0) 0 (.deviceRead 100 4) 0 (arrivesAndEnds 0 [[1, 2]]))
        (callRead (initial fun _ => 0) 0 (.readExactly 100 4) 0 (arrivesAndEnds 0 [[1, 2]])) ∧
      ∃ final final' exactly : State (Fin 1),
        callRead (initial fun _ => 0) 0 (.deviceRead 100 4) 0 (arrivesAndEnds 0 [[1, 2]]) =
          some final ∧
        callRead (initial fun _ => 0) 0 (.deviceRead 100 4) 0 (arrivesAndEnds 0 [[1], [], [2]]) =
          some final' ∧
        callRead (initial fun _ => 0) 0 (.readExactly 100 4) 0 (arrivesAndEnds 0 [[1, 2]]) =
          some exactly ∧
        exactly.fiber 0 = .idle (some (.threw .socketClosedError)) ∧
        final.fiber 0 = .idle (some ((initial fun _ => 0 : State (Fin 1)).deviceResult 4 [1, 2])) ∧
        final'.fiber 0 = final.fiber 0 := by
  have reachable : (machine (Fin 1)).Reachable GracefulShutdown (initial fun _ => 0) :=
    .start ⟨_, rfl⟩
  have agrees := @device_read_agrees_with_read_exactly _ _ _ _ 0 100 4 reachable (by decide)
  obtain ⟨final, run, ended⟩ : ∃ final, callRead (initial fun _ => 0) (0 : Fin 1)
      (.deviceRead 100 4) 0 (arrivesAndEnds 0 [[1, 2]]) = some final ∧
        final.fiber 0 = .idle (some (.returned [1, 2])) := ⟨_, rfl, rfl⟩
  obtain ⟨final', run', ended'⟩ : ∃ final', callRead (initial fun _ => 0) (0 : Fin 1)
      (.deviceRead 100 4) 0 (arrivesAndEnds 0 [[1], [], [2]]) = some final' ∧
        final'.fiber 0 = .idle (some (.returned [1, 2])) := ⟨_, rfl, rfl⟩
  obtain ⟨exactly, exactlyRun, threw⟩ : ∃ exactly, callRead (initial fun _ => 0) (0 : Fin 1)
      (.readExactly 100 4) 0 (arrivesAndEnds 0 [[1, 2]]) = some exactly ∧
        exactly.fiber 0 = .idle (some (.threw .socketClosedError)) := ⟨_, rfl, rfl⟩
  have carries : Carries (arrivesAndEnds (0 : Fin 1) [[1, 2]]) [1, 2] :=
    ⟨by simp [arrivesAndEnds], by decide, by decide, fun _ => rfl⟩
  have carries' : Carries (arrivesAndEnds (0 : Fin 1) [[1], [], [2]]) [1, 2] :=
    ⟨by simp [arrivesAndEnds], by decide, by decide, fun _ => rfl⟩
  have result := (agrees.2 _ _ _ _ _ _ _ _ _ (by decide +kernel) (by decide +kernel) carries
    carries' run run' ended ended').2
  refine ⟨agrees.1 0 _ (by decide +kernel) (by decide +kernel), final, final', exactly, run, run',
    exactlyRun, threw, ?_, ended'.trans ended.symm⟩
  rw [ended, result]

end Fiberio.Socket
