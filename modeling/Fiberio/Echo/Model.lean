import Fiberio.Connection.Direction

/-!
Owns the echo server of `examples/fiber_echo_server.cpp`: the fiber that it
starts for an accepted connection, the socket that this fiber alone holds, the
client's socket with any number of fibers that do anything, and both directions
of the connection between them.

The lambda's local `buf` is a fixed address with room for `sizeof(buf)` bytes.
The fiber's exception ends in a future that nobody keeps; `client` is destroyed
on the way out.

Does not own the accept loop, nor how a socket comes to be connected.
-/

namespace Fiberio.Echo

open Fiberio.Foundation
open Fiberio.Connection.Direction

/-! ## The fiber of one connection -/

/-- Where the lambda is: before `client.is_open()`, inside `client.read`, inside
`client.write`, out of the loop, or at its end. `exc` is the exception it
leaves with, if any. -/
inductive Pc where
  | testing
  | reading
  | writing
  | leaving (exc : Option Exc)
  | finished (exc : Option Exc)
deriving DecidableEq, Repr

/-- The fiber and the socket that it holds. -/
structure Server where
  socket : Socket.State Unit
  pc : Pc

/-- `sizeof(buf)` -/
def bufSize : Nat := 4096

namespace Server

def initial (memory : Memory UInt8) : Server where
  socket := Socket.initial memory
  pc := .testing

/-- The lambda goes on to its next call. `status` is what libuv answers on the
way. -/
def turn (server : Server) (buf : Nat) (status : Int) : Option Server :=
  match server.pc with
  | .testing =>
      if server.socket.closed then
        some { server with pc := .leaving none }
      else
        (server.socket.step (.read () (.read buf bufSize) status)).map fun socket =>
          { socket := socket, pc := .reading }
  | .reading =>
      match server.socket.fiber () with
      | .idle (some (.returned bytes)) =>
          let data := server.socket.memory.load buf bytes.length
          (server.socket.step (.write () data status)).map fun socket =>
            { socket := socket, pc := .writing }
      | .idle (some (.threw exc)) => some { server with pc := .leaving (some exc) }
      | _ => none
  | .writing =>
      match server.socket.fiber () with
      | .idle (some (.returned _)) => some { server with pc := .testing }
      | .idle (some (.threw exc)) => some { server with pc := .leaving (some exc) }
      | _ => none
  | .leaving exc =>
      (server.socket.step (.destroy () status)).map fun socket =>
        { socket := socket, pc := .finished exc }
  | .finished _ => none

end Server

/-! ## The connection -/

structure State (Fib : Type) where
  client : Socket.State Fib
  server : Server
  /-- From the client to the server. -/
  up : Pipe
  /-- From the server to the client. -/
  down : Pipe

def initial {Fib : Type} (memoryC memoryS : Memory UInt8) : State Fib where
  client := Socket.initial memoryC
  server := .initial memoryS
  up := .initial
  down := .initial

/-- Something happens at the client; libuv runs a callback of the server's
socket or a resumed fiber goes on inside it; the lambda takes its next turn; or
the connection sends. -/
inductive Action (Fib : Type) where
  | atClient (action : Socket.Action Fib)
  | atServer (action : Socket.Action Unit)
  | turn (status : Int)
  | sendUp (count : Nat)
  | finishUp
  | sendDown (count : Nat)
  | finishDown

variable {Fib : Type} [DecidableEq Fib] [Fintype Fib]

def State.step (buf : Nat) (state : State Fib) : Action Fib → Option (State Fib)
  | .atClient action =>
      if mayAnswer state.up state.client action &&
          mayReport state.down (queuedBy state.server.socket) state.client action then
        (state.client.step action).map fun client => { state with client := client }
      else none
  | .atServer action =>
      -- Only the lambda calls its socket.
      if action.caller = none ∧ mayAnswer state.down state.server.socket action ∧
          mayReport state.up (queuedBy state.client) state.server.socket action then
        (state.server.socket.step action).map fun socket =>
          { state with server := { state.server with socket := socket } }
      else none
  | .turn status =>
      (state.server.turn buf status).map fun server => { state with server := server }
  | .sendUp count =>
      if maySend state.up state.client count then
        some { state with up := state.up.send count }
      else none
  | .finishUp =>
      if mayFinish state.up state.client then some { state with up := state.up.finish } else none
  | .sendDown count =>
      if maySend state.down state.server.socket count then
        some { state with down := state.down.send count }
      else none
  | .finishDown =>
      if mayFinish state.down state.server.socket then
        some { state with down := state.down.finish }
      else none

/-- A client, and the echo server's fiber for it with its buffer at `buf`. -/
def machine (Fib : Type) [DecidableEq Fib] [Fintype Fib] (buf : Nat) :
    Machine (State Fib) (Action Fib) where
  Init := fun state => ∃ memoryC memoryS, state = initial memoryC memoryS
  step := State.step buf

end Fiberio.Echo
