import Fiberio.Foundation.Pipe
import Fiberio.Socket.EndOfStream
import Fiberio.Socket.GracefulClose

/-!
Owns one direction of a connection between two sockets, whatever their fibers
do: what libuv may answer to the sender and report to the receiver, and what
the pipe between them carries in every run. The bytes that were received are a
prefix of those that were queued; in a run without errors at the sender the
pipe ends only when it has sent everything.

Does not own who uses the sockets.
-/

namespace Fiberio.Connection.Direction

open Fiberio.Foundation

/-! ## What the connection allows -/

section Rules

variable {Fib : Type}

/-- The bytes that a socket has queued, in the order of the write calls. -/
def queuedBy (sender : Socket.State Fib) : List UInt8 := sender.tcp.writes.flatten

/-- When libuv may answer a request of the sender: a write or a shutdown is
answered without an error only when everything before it was sent. -/
def mayAnswer (pipe : Pipe) (sender : Socket.State Fib) : Socket.Action Fib → Bool
  | .complete id status =>
      match sender.requests.find? (fun request => request.id == id) with
      | none => true
      | some request =>
          match request.kind with
          | .write upto =>
              decide (status < 0 ∨ (sender.tcp.writes.take upto).flatten.length ≤ pipe.sent)
          | .shutdown => decide (status < 0) || pipe.ended
          | .getaddrinfo | .connect => true
  | _ => true

/-- What libuv may report to the receiver: what was sent, in order, and the end
of the stream after it. -/
def mayReport (pipe : Pipe) (queued : List UInt8) (receiver : Socket.State Fib) :
    Socket.Action Fib → Bool
  | .readCallback nread bytes =>
      if nread = uvEof then pipe.canEnd queued receiver.tcp.delivered
      else pipe.canDeliver queued receiver.tcp.delivered bytes
  | _ => true

/-- Bytes are sent in the order in which they were queued, until the sender
closes its handle. -/
def maySend (pipe : Pipe) (sender : Socket.State Fib) (count : Nat) : Bool :=
  !pipe.ended && !sender.tcp.closing && decide (pipe.sent + count ≤ (queuedBy sender).length)

/-- Nothing more is sent: the shutdown request has come to the head of the
queue, or the handle is closed. -/
def mayFinish (pipe : Pipe) (sender : Socket.State Fib) : Bool :=
  (sender.requests.any (fun request => request.kind == Socket.RequestKind.shutdown) &&
      decide (pipe.sent = (queuedBy sender).length)) ||
    sender.tcp.closing

end Rules

/-! ## What the pipe carries -/

/-- The state of one direction in any run. In a run that is `calm`, without an
error at the sender, the pipe drains before it ends. -/
structure Carries {FibS FibR : Type} (calm : Prop) (pipe : Pipe) (sender : Socket.State FibS)
    (receiver : Socket.State FibR) : Prop where
  within : pipe.sent ≤ (queuedBy sender).length
  inOrder : receiver.tcp.delivered <+: (queuedBy sender).take pipe.sent
  shut : sender.tcp.shut = true → pipe.ended = true
  ended : pipe.ended = true → sender.closed = true
  drained : calm → pipe.ended = true → pipe.sent = (queuedBy sender).length
  finished : .readCallback uvEof ∈ receiver.log →
    pipe.ended = true ∧ receiver.tcp.delivered = (queuedBy sender).take pipe.sent

namespace Carries

variable {FibS FibR : Type} {calm : Prop} {pipe : Pipe} {sender : Socket.State FibS}
  {receiver : Socket.State FibR}

theorem initial (memoryS memoryR : Memory UInt8) :
    Carries calm .initial (Socket.initial memoryS : Socket.State FibS)
      (Socket.initial memoryR : Socket.State FibR) := by
  constructor
  · exact Nat.le_refl _
  · exact List.prefix_rfl
  · exact fun shut => by cases shut
  · exact fun ended => by cases ended
  · exact fun _ ended => by cases ended
  · exact fun seen => by cases seen

theorem received_prefix (carries : Carries calm pipe sender receiver) :
    receiver.tcp.delivered <+: queuedBy sender :=
  carries.inOrder.trans (List.take_prefix _ _)

/-- A receiver that was told of the end has received everything. -/
theorem received_all (carries : Carries calm pipe sender receiver) (isCalm : calm)
    (seen : .readCallback uvEof ∈ receiver.log) : receiver.tcp.delivered = queuedBy sender := by
  obtain ⟨ended, delivered⟩ := carries.finished seen
  rw [delivered, carries.drained isCalm ended, List.take_length]

theorem send {count : Nat} (carries : Carries calm pipe sender receiver)
    (allowed : maySend pipe sender count = true) :
    Carries calm (pipe.send count) sender receiver := by
  simp only [maySend, Bool.and_eq_true, Bool.not_eq_true', decide_eq_true_eq] at allowed
  obtain ⟨⟨live, _⟩, within⟩ := allowed
  have further : (queuedBy sender).take pipe.sent <+:
      (queuedBy sender).take (pipe.sent + count) :=
    List.take_prefix_take_left (Nat.le_add_right _ _)
  constructor
  · exact within
  · exact carries.inOrder.trans further
  · exact carries.shut
  · exact carries.ended
  · exact fun _ ended => absurd (live.symm.trans ended) (by decide)
  · exact fun seen => absurd (live.symm.trans (carries.finished seen).1) (by decide)

/-- The pipe ends: a shutdown comes before `uv_close` in a run without errors. -/
theorem finish (carries : Carries calm pipe sender receiver) (owned : Socket.Owned sender)
    (shutFirst : calm → Socket.ShutFirst sender) (allowed : mayFinish pipe sender = true) :
    Carries calm pipe.finish sender receiver := by
  have closed : sender.closed = true := by
    rw [mayFinish, Bool.or_eq_true, Bool.and_eq_true] at allowed
    rcases allowed with ⟨pending, _⟩ | closing
    · obtain ⟨request, listed, isShutdown⟩ := List.any_eq_true.mp pending
      obtain ⟨_, waiting, issued, awaits⟩ := owned.pending request listed
      rw [eq_of_beq isShutdown] at issued
      cases waiting with
      | shutdown closer => exact owned.closers _ ⟨closer, _, _, .inl awaits⟩
      | _ => cases issued
    · exact (owned.closing closing).1
  have drained : calm → pipe.sent = (queuedBy sender).length := by
    intro isCalm
    rw [mayFinish, Bool.or_eq_true, Bool.and_eq_true] at allowed
    rcases allowed with ⟨_, drained⟩ | closing
    · exact of_decide_eq_true drained
    · exact carries.drained isCalm (carries.shut ((shutFirst isCalm).closing closing))
  constructor
  · exact carries.within
  · exact carries.inOrder
  · exact fun _ => rfl
  · exact fun _ => closed
  · exact fun isCalm _ => drained isCalm
  · exact fun seen => ⟨rfl, (carries.finished seen).2⟩

/-- A step at the sender queues what it writes, and is told of the shutdown
only when the pipe has ended. -/
theorem atSender [DecidableEq FibS] {action : Socket.Action FibS} {after : Socket.State FibS}
    (carries : Carries calm pipe sender receiver)
    (transition : Socket.Transition sender action after)
    (allowed : mayAnswer pipe sender action = true) : Carries calm pipe after receiver := by
  have closed : sender.closed = true → after.closed = true := by
    intro closed
    rcases transition.closed_cases with same | ⟨_, _, _, becomes⟩
    · rw [same, closed]
    · exact absurd (becomes.isOpen.symm.trans closed) (by decide)
  have shut : after.tcp.shut = true → pipe.ended = true := by
    intro shut
    rw [transition.shut_eq, Bool.or_eq_true] at shut
    rcases shut with earlier | now
    · exact carries.shut earlier
    · cases action with
      | complete id status =>
          simp only [Socket.State.shuts] at now
          split at now
          · rename_i request registered
            simp only [Bool.and_eq_true, beq_iff_eq, decide_eq_true_eq] at now
            have accepted : ¬ status < 0 := by omega
            simpa [mayAnswer, registered, now.1, accepted] using allowed
          · cases now
      | _ => cases now
  have ended : pipe.ended = true → after.closed = true :=
    fun isEnded => closed (carries.ended isEnded)
  rcases transition.writes_cases with same | ⟨_, data, _, _, isOpen, more⟩
  · have queue : queuedBy after = queuedBy sender := by rw [queuedBy, same, queuedBy]
    constructor
    · rw [queue]
      exact carries.within
    · rw [queue]
      exact carries.inOrder
    · exact shut
    · exact ended
    · rw [queue]
      exact carries.drained
    · rw [queue]
      exact carries.finished
  · -- A write is accepted by an open socket, and the pipe of such a socket has
    -- not ended.
    have live : ¬ pipe.ended = true :=
      fun isEnded => absurd (isOpen.symm.trans (carries.ended isEnded)) (by decide)
    have queue : queuedBy after = queuedBy sender ++ data := by
      rw [queuedBy, more, List.flatten_append, queuedBy]
      simp
    have within : pipe.sent ≤ (queuedBy after).length := by
      rw [queue, List.length_append]
      have := carries.within
      omega
    constructor
    · exact within
    · rw [queue, List.take_append_of_le_length carries.within]
      exact carries.inOrder
    · exact shut
    · exact ended
    · exact fun _ isEnded => absurd isEnded live
    · exact fun seen => absurd (carries.finished seen).1 live

/-- What the receiver gets was sent, and the end comes last. -/
theorem atReceiver [DecidableEq FibR] {action : Socket.Action FibR} {after : Socket.State FibR}
    (carries : Carries calm pipe sender receiver)
    (transition : Socket.Transition receiver action after)
    (allowed : mayReport pipe (queuedBy sender) receiver action = true) :
    Carries calm pipe sender after := by
  have eofNegative : uvEof < 0 := by decide
  have inOrder : after.tcp.delivered <+: (queuedBy sender).take pipe.sent := by
    rcases transition.delivered with same | ⟨nread, bytes, rfl, _, noBytes, grows⟩
    · rw [same]
      exact carries.inOrder
    · simp only [mayReport] at allowed
      rw [grows]
      split at allowed
      · rename_i atEnd
        rw [noBytes (by omega), List.append_nil]
        exact carries.inOrder
      · exact of_decide_eq_true allowed
  refine ⟨carries.within, inOrder, carries.shut, carries.ended, carries.drained, fun seen => ?_⟩
  -- The bytes that arrived are all that was sent, and none can follow.
  have whole : pipe.ended = true ∧
      receiver.tcp.delivered = (queuedBy sender).take pipe.sent := by
    rcases transition.readCallback_logged seen with earlier | ⟨bytes, rfl⟩
    · exact carries.finished earlier
    · simp only [mayReport, if_true, Pipe.canEnd, Bool.and_eq_true, decide_eq_true_eq] at allowed
      exact allowed
  refine ⟨whole.1, ?_⟩
  rcases transition.delivered with same | ⟨_, bytes, _, _, _, grows⟩
  · exact same.trans whole.2
  · have bounded := inOrder.length_le
    rw [grows, whole.2, List.length_append] at bounded
    have none : bytes = [] := List.eq_nil_of_length_eq_zero (by omega)
    rw [none, List.append_nil] at grows
    exact grows.trans whole.2

end Carries

end Fiberio.Connection.Direction
