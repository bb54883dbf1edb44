import Fiberio.Socket.Admission
import Fiberio.Socket.HandleUse
import Fiberio.Socket.Results

/-!
Owns the end of the stream of a socket that only `read_string` calls read
from: the socket closes itself because libuv reported the end of the stream,
and by then every byte that was delivered has been returned.

Does not own what the peer sent.
-/

namespace Fiberio.Socket

open Fiberio.Foundation

variable {Fib : Type}

/-! ## The code of the end -/

section Code

variable [DecidableEq Fib] {state after : State Fib} {action : Action Fib}

/-- `len_` stands for the end of the stream only after libuv reported it. -/
theorem Transition.len_eof (transition : Transition state action after) (owns : ReaderOwns state)
    (requests : SizedReads state action) (atEof : after.len = errorEof) :
    state.len = errorEof ∨ .readCallback uvEof ∈ after.log := by
  have notSize : ∀ call : ReadCall, call.Sized → toInt64 call.size ≠ errorEof := by
    intro call sized
    rw [toInt64_eq sized.size_lt]
    unfold errorEof
    omega
  have notZero : (0 : Int) ≠ errorEof := by decide
  cases transition with
  | @admits _ _ _ call _ entry _ _ _ =>
      have isSize : toInt64 call.size = errorEof := by simpa using atEof
      exact absurd isSize (notSize _ (entry.sized owns requests))
  | @rejects _ _ _ call _ _ entry _ _ _ =>
      have isSize : toInt64 call.size = errorEof := by simpa using atEof
      exact absurd isSize (notSize _ (entry.sized owns requests))
  | readsNull entry _ _ null => exact absurd null (entry.sized owns requests).buffer
  | readReturns ends _ =>
      have value : (if state.closed then 0 else state.len) = errorEof := by
        rw [← ends.len_eq]
        simpa using atEof
      split at value
      · exact absurd value notZero
      · exact .inl value
  | readStops ends closed =>
      have value : (if state.closed then 0 else state.len) = errorEof := by
        rw [← ends.len_eq]
        simpa using atEof
      rw [if_pos closed] at value
      exact absurd value notZero
  | shutsDown entry _ _ => cases entry <;> exact .inl (by simpa using atEof)
  | closesAtOnce entry _ _ => cases entry <;> exact .inl (by simpa using atEof)
  | closeFails entry _ _ _ => cases entry <;> exact .inl (by simpa [State.closeThrew] using atEof)
  | @shutdownFails _ closer _ _ _ _ _ =>
      cases closer <;> exact .inl (by simpa [State.closeThrew] using atEof)
  | closeReturnsToRead _ _ _ => exact absurd (by simpa using atEof) notZero
  | closeStopsRead _ _ => exact absurd (by simpa using atEof) notZero
  | @delivers _ _ len _ _ code =>
      have value : len = errorEof := by simpa using atEof
      rcases code with ⟨nonnegative, rfl⟩ | ⟨rfl, _⟩ | ⟨_, _, rfl⟩
      · rw [value] at nonnegative
        exact absurd nonnegative (by decide)
      · exact .inr (by simp)
      · exact absurd value (by decide)
  | _ => exact .inl (by simpa using atEof)

end Code

/-! ## The end of the stream -/

/-- Readers that only call `read_string`. -/
def StringReaders (state : State Fib) (action : Action Fib) : Prop :=
  ReadersOnly state action ∧ ∀ fib request status, action = .read fib request status →
    ∃ std count buf, request = .readString std count buf

structure Ending (state : State Fib) : Prop where
  strings : ∀ fib call, (state.fiber fib).activeRead = some call →
    ∃ std count, call.caller = .readString std count
  seen : state.len = errorEof → .readCallback uvEof ∈ state.log
  /-- The socket is closed because the stream is over and everything that was
  delivered has been returned. -/
  finished : state.closed = true →
    .readCallback uvEof ∈ state.log ∧ state.tcp.delivered = obtained state.log

theorem Ending.initial (memory : Memory UInt8) : Ending (initial memory : State Fib) := by
  constructor
  · intro fib call active
    cases active
  · intro atEof
    exact absurd atEof (show (0 : Int) ≠ errorEof by decide)
  · intro closed
    cases closed

section Preservation

variable [DecidableEq Fib] {state after : State Fib} {fib : Fib} {action : Action Fib}

omit [DecidableEq Fib] in
theorem Moves.pursues {call : ReadCall} (moves : Moves state action after)
    (active : (after.fiber fib).activeRead = some call) : Pursues state action fib call := by
  cases moves with
  | nobody _ others _ =>
      rw [(others fib).activeRead] at active
      exact .inl active
  | reader mover _ stays others _ =>
      by_cases same : fib = mover
      · subst same
        rcases stays with idle | ⟨call', active', pursues⟩
        · rw [Fiber.Unbound.notActive (.inl idle)] at active
          cases active
        · rw [active] at active'
          cases active'
          exact pursues
      · rw [(others fib same).activeRead] at active
        exact .inl active
  | other mover _ _ _ stays others _ =>
      by_cases same : fib = mover
      · subst same
        rw [stays] at active
        cases active
      · rw [(others fib same).activeRead] at active
        exact .inl active

omit [DecidableEq Fib] in
theorem Ending.pursued {call : ReadCall} (ending : Ending state)
    (readers : StringReaders state action) (pursues : Pursues state action fib call) :
    ∃ std count, call.caller = .readString std count := by
  rcases pursues with active | ⟨status, entered, entry⟩
  · exact ending.strings fib call active
  · cases entry with
    | start _ _ first =>
        obtain ⟨std, count, buf, rfl⟩ := readers.2 _ _ _ rfl
        simp only [ReadRequest.first] at first
        split at first
        · cases first
        · cases first
          exact ⟨std, count, rfl⟩
    | @again call _ woken _ _ _ _ continues =>
        -- A `read_string` does not read again.
        obtain ⟨std, count, isString⟩ := ending.strings fib call (by rw [woken]; rfl)
        simp [ReadCall.continues, isString] at continues

theorem Transition.ending (transition : Transition state action after) (owned : Owned state)
    (owns : ReaderOwns state) (partition : Partition state) (ending : Ending state)
    (readers : StringReaders state action) : Ending after := by
  have partitionAfter := transition.partition owned owns partition readers.1
  obtain ⟨events, appends⟩ := transition.appends owned
  have kept : ∀ event ∈ state.log, event ∈ after.log := by
    intro event member
    rw [appends.log]
    exact List.mem_append_left _ member
  have strings : ∀ fib call, (after.fiber fib).activeRead = some call →
      ∃ std count, call.caller = .readString std count :=
    fun fib call active => ending.pursued readers (transition.moves.pursues active)
  -- A closed socket has no reader, so what was delivered is handed out.
  have handedOut : after.closed = true → after.tcp.delivered = chunkBytes after.log := by
    intro closed
    apply partitionAfter.handedOut
    intro fib call woken
    exact absurd ((partitionAfter.isOpen _ _ _ woken).symm.trans closed) (by decide)
  refine ⟨strings, ?_, ?_⟩
  · intro atEof
    rcases transition.len_eof owns readers.1.sized atEof with earlier | now
    · exact kept _ (ending.seen earlier)
    · exact now
  · intro closed
    rcases transition.closed_cases with same | ⟨fib, status, closer, becomes⟩
    · obtain ⟨seen, returned⟩ := ending.finished (same ▸ closed)
      refine ⟨kept _ seen, ?_⟩
      have unchanged : after.tcp.delivered = state.tcp.delivered := by
        rcases transition.delivered with unchanged | ⟨_, _, _, watching, _, _⟩
        · exact unchanged
        · obtain ⟨reader, call, waits⟩ := owns.watching watching
          have isOpen := partition.isOpen _ _ _ waits
          exact absurd (isOpen.symm.trans (same ▸ closed)) (by decide)
      -- The results can only grow, up to the bytes that were delivered.
      have grows : obtained state.log <+: obtained after.log := by
        rw [appends.log, obtained_append]
        exact List.prefix_append _ _
      have bounded : obtained after.log <+: after.tcp.delivered := by
        rw [handedOut closed]
        exact partitionAfter.kept
      rw [← returned, ← unchanged] at grows
      exact grows.eq_of_length (Nat.le_antisymm grows.length_le bounded.length_le)
    · obtain ⟨entered, entry⟩ := becomes.entry
      cases entry with
      | user _ => exact readers.1.elim
      | destructor _ => exact readers.1.elim
      | @eof _ call woken _ atEof =>
          obtain ⟨serial, waits⟩ := becomes.suspends readers.1
          have active : (after.fiber fib).activeRead = some call := by
            rw [waits]
            rfl
          obtain ⟨std, count, isString⟩ := strings _ _ active
          refine ⟨kept _ (ending.seen atEof), ?_⟩
          rw [handedOut closed, partitionAfter.active _ _ active]
          simp [ReadCall.filled, isString]

end Preservation

variable [DecidableEq Fib] [Fintype Fib] {state : State Fib}

theorem reachable_ending (reachable : (machine Fib).Reachable StringReaders state) :
    ReaderOwns state ∧ Partition state ∧ Ending state := by
  apply reachable_invariant reachable
  · exact fun memory =>
      ⟨ReaderOwns.initial memory, Partition.initial memory, Ending.initial memory⟩
  · intro before action after owned holds readers transition
    obtain ⟨owns, partition, ending⟩ := holds
    exact ⟨transition.readerOwns owned owns readers.1.sized,
      transition.partition owned owns partition readers.1,
      transition.ending owned owns partition ending readers⟩

end Fiberio.Socket
