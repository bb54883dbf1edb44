import Mathlib.Data.List.Basic

/-!
Owns one direction of a reliable connection. The sender queues items, the
pipe sends them in the order in which they were queued, the receiver gets what
was sent in the same order, and the end of the stream is reported after
everything that was sent.

Does not own either end: the queue and the received items belong to them.
-/

namespace Fiberio.Foundation

universe u

/-- How far a pipe has come with its sender's queue. -/
structure Pipe where
  /-- How many of the queued items were sent. -/
  sent : Nat
  /-- Nothing more is sent; the receiver may see the end of the stream. -/
  ended : Bool

namespace Pipe

variable {Item : Type u} {pipe : Pipe} {queued received : List Item}

def initial : Pipe where
  sent := 0
  ended := false

def send (pipe : Pipe) (count : Nat) : Pipe := { pipe with sent := pipe.sent + count }

def finish (pipe : Pipe) : Pipe := { pipe with ended := true }

/-- The receiver gets the next items out of those that were sent. -/
def canDeliver [DecidableEq Item] (pipe : Pipe) (queued received items : List Item) : Bool :=
  decide (received ++ items <+: queued.take pipe.sent)

/-- The receiver is told that the stream is over. -/
def canEnd [DecidableEq Item] (pipe : Pipe) (queued received : List Item) : Bool :=
  pipe.ended && decide (received = queued.take pipe.sent)

/-! ## A pipe that ends gracefully -/

/-- The pipe delivers in order, and ends only when its whole queue was sent. -/
structure Graceful (pipe : Pipe) (queued received : List Item) : Prop where
  within : pipe.sent ≤ queued.length
  inOrder : received <+: queued.take pipe.sent
  drained : pipe.ended = true → pipe.sent = queued.length

namespace Graceful

theorem initial : Graceful .initial ([] : List Item) [] where
  within := Nat.le_refl _
  inOrder := List.prefix_rfl
  drained := fun _ => rfl

/-- The sender queues more before the pipe has ended. -/
theorem queue (graceful : Graceful pipe queued received) (items : List Item)
    (live : pipe.ended = false) : Graceful pipe (queued ++ items) received where
  within := by
    rw [List.length_append]
    have within := graceful.within
    omega
  inOrder := by
    rw [List.take_append_of_le_length graceful.within]
    exact graceful.inOrder
  drained := fun ended => absurd (live.symm.trans ended) (by decide)

theorem send (graceful : Graceful pipe queued received) {count : Nat}
    (within : pipe.sent + count ≤ queued.length) (live : pipe.ended = false) :
    Graceful (pipe.send count) queued received where
  within := within
  inOrder := by
    have earlier : queued.take pipe.sent <+: queued.take (pipe.sent + count) :=
      List.take_prefix_take_left (Nat.le_add_right _ _)
    exact graceful.inOrder.trans earlier
  drained := fun ended => absurd (live.symm.trans ended) (by decide)

theorem finish (graceful : Graceful pipe queued received)
    (drained : pipe.sent = queued.length) : Graceful pipe.finish queued received where
  within := graceful.within
  inOrder := graceful.inOrder
  drained := fun _ => drained

theorem deliver [DecidableEq Item] (graceful : Graceful pipe queued received)
    {items : List Item} (enabled : pipe.canDeliver queued received items = true) :
    Graceful pipe queued (received ++ items) where
  within := graceful.within
  inOrder := of_decide_eq_true enabled
  drained := graceful.drained

theorem received_prefix (graceful : Graceful pipe queued received) : received <+: queued :=
  graceful.inOrder.trans (List.take_prefix _ _)

/-- A receiver that is told of the end has received everything. -/
theorem received_all [DecidableEq Item] (graceful : Graceful pipe queued received)
    (enabled : pipe.canEnd queued received = true) : received = queued := by
  rw [canEnd, Bool.and_eq_true, decide_eq_true_eq] at enabled
  rw [enabled.2, graceful.drained enabled.1, List.take_length]

end Graceful

end Pipe

end Fiberio.Foundation
