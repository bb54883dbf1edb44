import Fiberio.Echo.Delivery
import Fiberio.Socket.Admission

/-!
Owns the round trip of a client of the echo server, such as the lambda of
`examples/fiber_echo_client.cpp`: what the client's reads return, through
`read_exactly` or any other public operation, is what the client has written,
in order. The two programs meet only through the connection, and each through
its own socket.

Does not own a client that closes its socket while it still reads.
-/

namespace Fiberio.Echo

open Fiberio.Foundation
open Fiberio.Connection.Direction

variable {Fib : Type} [DecidableEq Fib] [Fintype Fib] {buf : Nat} {state : State Fib}

/-- The client writes and reads and does not close; its reads meet no error. -/
def ClientReads (state : State Fib) (action : Action Fib) : Prop :=
  ∀ move, action = .atClient move → Socket.ReadersOnly state.client move

/-- A run of the connection, seen from the client's socket. -/
theorem client_readers (reachable : (machine Fib buf).Reachable ClientReads state) :
    (Socket.machine Fib).Reachable Socket.ReadersOnly state.client := by
  apply reachable.project
  · intro first initial
    obtain ⟨memoryC, memoryS, rfl⟩ := initial
    exact ⟨memoryC, rfl⟩
  · intro before action after admitted stepped
    cases step_transition stepped with
    | atClient _ _ step => exact .inr ⟨_, admitted _ rfl, step⟩
    | _ => exact .inl rfl

/-- The client reads back what it wrote. Whatever its fibers write and read, in
whatever pieces libuv takes and delivers the bytes, and whatever happens to the
server's fiber: what the client's reads have returned, in the order in which
they returned, is a prefix of what its writes have passed to libuv; once they
have returned as many bytes, it is the same. -/
theorem echo_client_reads_back_what_it_wrote
    (reachable : (machine Fib buf).Reachable ClientReads state) :
    Socket.obtained state.client.log <+: queuedBy state.client ∧
      ((Socket.obtained state.client.log).length = (queuedBy state.client).length →
        Socket.obtained state.client.log = queuedBy state.client) := by
  have sound := reachable_sound
    (reachable_admits (reachable.mono fun _ _ _ => trivial))
  have partition := Socket.reachable_partition (client_readers reachable)
  have returned : Socket.obtained state.client.log <+: state.client.tcp.delivered :=
    partition.kept.trans partition.chunks_prefix
  have echoed : state.client.tcp.delivered <+: state.server.socket.tcp.delivered :=
    sound.down.received_prefix.trans sound.phase.echoes
  have written := (returned.trans echoed).trans sound.up.received_prefix
  exact ⟨written, written.eq_of_length⟩

/-- The client writes two bytes and calls `read_exactly`; they come back one by
one. -/
theorem echo_client_reads_back_two_bytes :
    ∃ state : State (Fin 1), (machine (Fin 1) 100).Reachable ClientReads state ∧
      queuedBy state.client = [1, 2] ∧
      Socket.obtained state.client.log = queuedBy state.client := by
  have first : (machine (Fin 1) 100).Reachable ClientReads
      (initial (fun _ => 0) (fun _ => 0)) := .start ⟨_, _, rfl⟩
  have reachable := first.exec
    (Machine.along_of_forall
      (by simp [ClientReads, Socket.ReadersOnly, Socket.ReadRequest.Sized]) _)
    (rfl : (machine (Fin 1) 100).exec (initial (fun _ => 0) (fun _ => 0))
      [.turn 0, .atClient (.write 0 [1, 2] 0), .sendUp 2, .atClient (.complete 0 0),
        .atClient (.resume 0 0), .atClient (.read 0 (.readExactly 50 2) 0),
        .atServer (.readCallback 2 [1, 2]), .atServer (.resume () 0), .turn 0, .sendDown 1,
        .atClient (.readCallback 1 [1]), .atClient (.resume 0 0), .sendDown 1,
        .atClient (.readCallback 1 [2]), .atClient (.resume 0 0)] = some _)
  refine ⟨_, reachable, rfl, (echo_client_reads_back_what_it_wrote reachable).2 ?_⟩
  decide +kernel

end Fiberio.Echo
