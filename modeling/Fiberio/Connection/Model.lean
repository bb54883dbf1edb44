import Fiberio.Foundation.Pipe
import Fiberio.Socket.Model

/-!
Owns two sockets that are the ends of one connection, the direction of it in
which `A` writes and `B` reads, and the loop
`while (B.is_open()) data += B.read_string(count)` that some fiber of `B`
runs. Any number of fibers use `A`; those of `B` other than the loop's do
anything but read.

libuv and TCP decide when queued bytes are sent, in which pieces they arrive
and when a request is answered, within these bounds: a write or a shutdown is
answered without an error only when everything queued before it was sent, what
was sent arrives in order, and the end of the stream is reported after it.
What has not been sent when a handle is closed is never sent.

Does not own what a socket does in a step, nor the direction from `B` to `A`:
whatever `A` reads is left open.
-/

namespace Fiberio.Connection

open Fiberio.Foundation

/-! ## The two ends -/

/-- The fiber that runs the loop, and how it calls `read_string`. -/
structure Reader (FibB : Type) where
  fiber : FibB
  std : Socket.CppStd
  count : Nat
  nonzero : 0 < count

/-- Where the loop is: before `is_open()`, inside `read_string`, behind the
loop, or left through an exception. -/
inductive Loop where
  | testing
  | reading
  | exited
  | threw (exc : Exc)
deriving DecidableEq, Repr

structure State (FibA FibB : Type) where
  a : Socket.State FibA
  b : Socket.State FibB
  pipe : Pipe
  /-- The buffers of the write calls that were issued while `A` was open. -/
  issued : List (List UInt8)
  loop : Loop
  /-- What the loop has accumulated. -/
  data : List UInt8

def initial {FibA FibB : Type} (memoryA memoryB : Memory UInt8) : State FibA FibB where
  a := Socket.initial memoryA
  b := Socket.initial memoryB
  pipe := .initial
  issued := []
  loop := .testing
  data := []

/-- Something happens at one end, the loop takes its next step, or the
connection sends. -/
inductive Action (FibA FibB : Type) where
  | atA (action : Socket.Action FibA)
  | atB (action : Socket.Action FibB)
  | turn (buf : Nat) (status : Int)
  | send (count : Nat)
  | finish

namespace State

variable {FibA FibB : Type}

/-- The bytes that `A` has queued, in the order of the write calls. -/
def queued (state : State FibA FibB) : List UInt8 := state.a.tcp.writes.flatten

/-! ## What the connection allows -/

/-- When libuv may answer a request of `A`. -/
def allowsA (state : State FibA FibB) : Socket.Action FibA → Bool
  | .complete id status =>
      match state.a.requests.find? (fun request => request.id == id) with
      | none => true
      | some request =>
          match request.kind with
          | .write upto =>
              decide (status < 0 ∨ (state.a.tcp.writes.take upto).flatten.length ≤ state.pipe.sent)
          | .shutdown => decide (status < 0) || state.pipe.ended
          | .getaddrinfo | .connect => true
  | _ => true

/-- What the other fibers of `B` may do, and what libuv may report to `B`. -/
def allowsB [DecidableEq FibB] (reader : Reader FibB) (state : State FibA FibB)
    (action : Socket.Action FibB) : Bool :=
  decide (action.caller ≠ some reader.fiber) &&
    match action with
    | .read _ _ _ => false
    | .readCallback nread bytes =>
        if nread = uvEof then state.pipe.canEnd state.queued state.b.tcp.delivered
        else state.pipe.canDeliver state.queued state.b.tcp.delivered bytes
    | _ => true

/-- Bytes are sent in the order in which they were queued, until `A` closes
its handle. -/
def canSend (state : State FibA FibB) (count : Nat) : Bool :=
  !state.pipe.ended && !state.a.tcp.closing &&
    decide (state.pipe.sent + count ≤ state.queued.length)

/-- `A` will send no more: its shutdown request has come to the head of the
queue, or its handle is closed. -/
def canFinish (state : State FibA FibB) : Bool :=
  (state.a.requests.any (fun request => request.kind == Socket.RequestKind.shutdown) &&
      decide (state.pipe.sent = state.queued.length)) ||
    state.a.tcp.closing

/-! ## Steps -/

/-- The write calls after the action. -/
def issuedAfter (state : State FibA FibB) : Socket.Action FibA → List (List UInt8)
  | .write _ data _ => if state.a.closed then state.issued else state.issued ++ [data]
  | _ => state.issued

variable [DecidableEq FibA] [Fintype FibA] [DecidableEq FibB] [Fintype FibB]

/-- One step of the loop: test `is_open()` and call `read_string`, or append
what it returned. -/
def turn (reader : Reader FibB) (state : State FibA FibB) (buf : Nat) (status : Int) :
    Option (State FibA FibB) :=
  match state.loop with
  | .testing =>
      if state.b.closed then
        some { state with loop := .exited }
      else
        (state.b.step (.read reader.fiber (.readString reader.std reader.count buf) status)).map
          fun b => { state with b := b, loop := .reading }
  | .reading =>
      match state.b.fiber reader.fiber with
      | .idle (some (.returned bytes)) =>
          some { state with data := state.data ++ bytes, loop := .testing }
      | .idle (some (.threw exc)) => some { state with loop := .threw exc }
      | _ => none
  | .exited | .threw _ => none

def step (reader : Reader FibB) (state : State FibA FibB) :
    Action FibA FibB → Option (State FibA FibB)
  | .atA action =>
      if state.allowsA action then
        (state.a.step action).map fun a =>
          { state with a := a, issued := state.issuedAfter action }
      else none
  | .atB action =>
      if state.allowsB reader action then
        (state.b.step action).map fun b => { state with b := b }
      else none
  | .turn buf status => state.turn reader buf status
  | .send count =>
      if state.canSend count then some { state with pipe := state.pipe.send count } else none
  | .finish => if state.canFinish then some { state with pipe := state.pipe.finish } else none

end State

/-- The connection, with the loop at its reading end. -/
def machine {FibB : Type} (FibA : Type) [DecidableEq FibA] [Fintype FibA] [DecidableEq FibB]
    [Fintype FibB] (reader : Reader FibB) :
    Machine (State FibA FibB) (Action FibA FibB) where
  Init := fun state => ∃ memoryA memoryB, state = initial memoryA memoryB
  step := State.step reader

end Fiberio.Connection
