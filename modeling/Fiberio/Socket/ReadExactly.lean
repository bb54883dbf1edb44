import Fiberio.Socket.ReadLoop

/-!
Owns `read_exactly`: it fills its buffer with the next bytes of the stream
however they are cut into pieces, or throws and leaves what it obtained in
the front of the buffer.

Does not own the stream device.
-/

namespace Fiberio.Socket

open Fiberio.Foundation

variable {Fib : Type}

/-- How `read_exactly` of `size` bytes ends when its inner reads obtained
`got`. A close or the end of the stream counts where an inner read returns
zero for it, an error where an inner read throws for it. -/
inductive ExactlyEnds (start : State Fib) (size : Nat) (actions : List (Action Fib))
    (final : State Fib) (got : List UInt8) : Outcome → Prop where
  | filled (whole : got.length = size)
      (consumed : final.tcp.delivered = start.tcp.delivered ++ got) :
      ExactlyEnds start size actions final got (.returned got)
  | closedFirst (short : got.length < size) (noError : ∀ one ∈ reports actions, ¬ one.Failed)
      (notRefused : start.closed = true ∨ start.reading = false)
      (closed : final.closed = true) :
      ExactlyEnds start size actions final got (.threw .socketClosedError)
  | failedFirst (short : got.length < size) (failed : ∃ one ∈ reports actions, one.Failed) :
      ExactlyEnds start size actions final got (.threw (.ioError (.text "read failed")))
  | refused (short : got.length < size) (isOpen : start.closed = false)
      (reading : start.reading = true) :
      ExactlyEnds start size actions final got (.threw (.ioError (.text "concurrent read")))

section Calls

variable [DecidableEq Fib] [Fintype Fib] {start final : State Fib} {fib : Fib} {buf size : Nat}
  {status : Int} {actions : List (Action Fib)}

omit [DecidableEq Fib] [Fintype Fib] in
/-- An operation that has ended at once has obtained nothing. -/
theorem EndsAtOnce.obtains {outcome : Outcome} (ends : EndsAtOnce start fib final outcome)
    (base : Nat) : Obtains start base final [] := by
  refine ⟨?_, rfl, ?_⟩
  · rw [ends.chunks, List.append_nil]
  · rw [ends.delivered, List.append_nil]

/-- The buffer of the call exists. -/
theorem callRead_hasBuffer {request : ReadRequest}
    (run : callRead start fib request status actions = some final) :
    request.hasBuffer = true := by
  obtain ⟨began, stepped, _⟩ := Option.bind_eq_some_iff.mp run
  obtain ⟨_, stepped⟩ := Option.ite_none_left_eq_some.mp stepped
  obtain ⟨enabled, _⟩ := Option.ite_none_right_eq_some.mp stepped
  exact (Bool.and_eq_true_iff.mp enabled).2

theorem readExactly_sized (bounded : size < 2 ^ 63) (nonempty : 0 < size)
    (run : callRead start fib (.readExactly buf size) status actions = some final) :
    (ReadRequest.readExactly buf size).Sized := by
  have buffer := callRead_hasBuffer run
  simp only [ReadRequest.hasBuffer, decide_eq_true_eq] at buffer
  exact ⟨fun null => absurd (buffer.2 null) (by omega), nonempty, bounded⟩

theorem readExactly_first (nonempty : 0 < size) (id : Nat) (closed : Bool) :
    (ReadRequest.readExactly buf size).first id closed =
      .inr ⟨id, buf, size, .readExactly buf size⟩ := by
  rw [ReadRequest.first, if_pos nonempty]

/-- The end of a call of `read_exactly`. -/
theorem readExactly_ends {outcome : Outcome}
    (reachable : (machine Fib).Reachable GracefulShutdown start) (bounded : size < 2 ^ 63)
    (graceful : (machine Fib).Along GracefulShutdown start
      (.read fib (.readExactly buf size) status :: actions))
    (starts : (machine Fib).Along ReadStarts start
      (.read fib (.readExactly buf size) status :: actions))
    (run : callRead start fib (.readExactly buf size) status actions = some final)
    (ended : final.fiber fib = .idle (some outcome)) :
    ∃ got, Obtains start buf final got ∧ ExactlyEnds start size actions final got outcome := by
  by_cases nonempty : 0 < size
  · have first : (ReadRequest.readExactly buf size).first start.calls start.closed =
        .inr ⟨start.calls, buf, size, .readExactly buf size⟩ := readExactly_first nonempty _ _
    have loops : ∀ call, (ReadRequest.readExactly buf size).first start.calls start.closed =
        .inr call → call.caller.loops = true := by
      intro call isFirst
      rw [first] at isFirst
      cases isFirst
      rfl
    rcases loop_ends reachable (readExactly_sized bounded nonempty run) loops graceful starts run
      ended with ⟨reason, none, ends⟩ | ⟨call, got, admitted, obtains, loopEnds⟩
    · refine ⟨[], ends.obtains buf, ?_⟩
      rcases reason.cases starts.1 with atOnce | ⟨closed, rfl⟩ | ⟨isOpen, reading, rfl⟩
      · rw [first] at atOnce
        cases atOnce
      · exact .closedFirst nonempty (by simp [none, reports]) (.inl closed)
          (ends.closed.trans closed)
      · exact .refused nonempty isOpen reading
    · have isCall := admitted.first
      rw [first] at isCall
      cases isCall
      refine ⟨got, obtains, ?_⟩
      cases loopEnds with
      | filled whole consumed _ _ => exact .filled whole consumed
      | closedFirst short noError closed _ =>
          exact .closedFirst short noError (.inr admitted.free) closed
      | failedFirst short failed => exact .failedFirst short failed
  · have first : (ReadRequest.readExactly buf size).first start.calls start.closed =
        .inl (.returned []) := by
      rw [ReadRequest.first, if_neg nonempty]
    obtain ⟨_, ends⟩ := callRead_atOnce first run
    have same := ends.ended
    rw [ended] at same
    cases same
    refine ⟨[], ends.obtains buf, .filled (by simp; omega) ?_⟩
    rw [ends.delivered, List.append_nil]

/-- `read_exactly` fills the buffer for every chunking, or fails. While it
waits, its inner read is offered exactly the part of the buffer behind the
bytes it has counted. It returns normally exactly when these are `size` bytes,
and then they are the next bytes of the stream and the last ones consumed; in
every case they are the front of what the stream has delivered, and stand in
the front of the buffer. -/
theorem read_exactly_fills_or_fails
    (reachable : (machine Fib).Reachable GracefulShutdown start) (bounded : size < 2 ^ 63)
    (graceful : (machine Fib).Along GracefulShutdown start
      (.read fib (.readExactly buf size) status :: actions))
    (starts : (machine Fib).Along ReadStarts start
      (.read fib (.readExactly buf size) status :: actions))
    (run : callRead start fib (.readExactly buf size) status actions = some final) :
    (∀ notified call, final.fiber fib = .waitRead notified call →
      ∃ got, Obtains start buf final got ∧ got.length < size ∧ call.buf = buf + got.length ∧
        call.size = size - got.length ∧
        (final.buf ≠ 0 → final.allocCallback = (buf + got.length, size - got.length))) ∧
    ∀ outcome, final.fiber fib = .idle (some outcome) →
      ∃ got, Obtains start buf final got ∧
        ((∃ bytes, outcome = .returned bytes) ↔ size = 0 ∨ got.length = size) ∧
        ExactlyEnds start size actions final got outcome := by
  constructor
  · intro notified call waits
    by_cases nonempty : 0 < size
    · obtain ⟨first, got, admitted, obtains, short, place, left, offered⟩ :=
        loop_offers (reachable.mono fun _ _ _ => trivial) (readExactly_sized bounded nonempty run)
          run waits
      have isFirst := admitted.first
      rw [readExactly_first nonempty] at isFirst
      cases isFirst
      refine ⟨got, obtains, short, place, left, ?_⟩
      intro pending
      rw [offered pending, place, left]
      rfl
    · have first : (ReadRequest.readExactly buf size).first start.calls start.closed =
          .inl (.returned []) := by
        rw [ReadRequest.first, if_neg nonempty]
      rw [(callRead_atOnce first run).2.ended] at waits
      cases waits
  · intro outcome ended
    obtain ⟨got, obtains, ends⟩ := readExactly_ends reachable bounded graceful starts run ended
    refine ⟨got, obtains, ?_, ends⟩
    cases ends with
    | filled whole _ => exact ⟨fun _ => .inr whole, fun _ => ⟨got, rfl⟩⟩
    | closedFirst short _ _ _ =>
        exact ⟨fun returned => by simp at returned, fun full => by omega⟩
    | failedFirst short _ => exact ⟨fun returned => by simp at returned, fun full => by omega⟩
    | refused short _ _ => exact ⟨fun returned => by simp at returned, fun full => by omega⟩

end Calls

/-- Four bytes that arrive in three pieces, one of them empty. -/
theorem read_exactly_fills_from_pieces :
    ∃ final : State (Fin 1),
      callRead (initial fun _ => 0) 0 (.readExactly 100 4) 0
        [.readCallback 3 [1, 2, 3], .resume 0 0, .readCallback 0 [], .resume 0 0,
          .readCallback 1 [4], .resume 0 0] = some final ∧
      final.fiber 0 = .idle (some (.returned [1, 2, 3, 4])) ∧
      Obtains (initial fun _ => 0) 100 final [1, 2, 3, 4] := by
  have reachable : (machine (Fin 1)).Reachable GracefulShutdown (initial fun _ => 0) :=
    .start ⟨_, rfl⟩
  have run : callRead (initial fun _ => 0) (0 : Fin 1) (.readExactly 100 4) 0
      [.readCallback 3 [1, 2, 3], .resume 0 0, .readCallback 0 [], .resume 0 0,
        .readCallback 1 [4], .resume 0 0] = some _ := rfl
  have ends := (read_exactly_fills_or_fails reachable (by decide) (by decide +kernel)
    (by decide +kernel) run).2 _ rfl
  obtain ⟨got, obtains, _, ends⟩ := ends
  cases ends
  exact ⟨_, run, rfl, obtains⟩

end Fiberio.Socket
