import Fiberio.Server.Model

/-!
Owns the whole library as one system: any number of sockets and server
sockets that share their fibers. A fiber is inside one call at a time, except
that an `accept` that is throwing destroys the socket it had made; that socket
belongs to nobody else. An exception that leaves a destructor ends the
program.

Does not own what a socket or a server socket does in a step.
-/

namespace Fiberio.World

open Fiberio.Foundation

variable {Fib Sock Serv : Type}

/-! ## Objects and their states -/

inductive Object (Sock Serv : Type) where
  | socket (name : Sock)
  | server (name : Serv)
deriving DecidableEq

def Object.State (Fib : Type) : Object Sock Serv → Type
  | .socket _ => Socket.State Fib
  | .server _ => Server.State Fib Sock

def Object.Action (Fib : Type) : Object Sock Serv → Type
  | .socket _ => Socket.Action Fib
  | .server _ => Server.Action Fib Sock

def Object.machine (Fib : Type) [DecidableEq Fib] [Fintype Fib] :
    (object : Object Sock Serv) → Machine (object.State Fib) (object.Action Fib)
  | .socket _ => Socket.machine Fib
  | .server _ => Server.machine Fib Sock

/-- A state of every object. A socket that nobody has used yet stands for one
that is not constructed. -/
abbrev State (Fib Sock Serv : Type) := (object : Object Sock Serv) → object.State Fib

def socketOf (states : State Fib Sock Serv) (name : Sock) : Socket.State Fib :=
  states (.socket name)

def serverOf (states : State Fib Sock Serv) (name : Serv) : Server.State Fib Sock :=
  states (.server name)

/-- Every object as it is constructed. -/
def initially (memory : Memory UInt8) (port : UInt16) : State Fib Sock Serv
  | .socket _ => Socket.initial memory
  | .server _ => Server.initial port

/-! ## Where a fiber may call from -/

end Fiberio.World

namespace Fiberio

def Socket.Action.isDestroy {Fib : Type} : Socket.Action Fib → Bool
  | .destroy _ _ => true
  | _ => false

/-- The fiber that enters the library with the action. -/
def Server.Action.caller {Fib Sock : Type} : Server.Action Fib Sock → Option Fib
  | .bind fib _ _ _ | .listen fib _ | .accept fib _ _ | .close fib | .destroy fib => some fib
  | .resume _ _ | .unwound _ | .complete _ _ | .connectionCallback _ | .onHandleClosed => none

/-- The fiber carries an exception out of `accept` and destroys the socket. -/
def Server.Fiber.unwinds {Sock : Type} [DecidableEq Sock] (socket : Sock) :
    Server.Fiber Sock → Bool
  | .unwinding other _ => decide (other = socket)
  | _ => false

/-- The socket a `uv_accept` was called for. -/
def Server.Event.newSocket {Fib Sock : Type} : Server.Event Fib Sock → Option Sock
  | .uvAccept _ _ socket _ => some socket
  | _ => none

/-- The socket that the action makes, if it runs into `uv_accept`. -/
def Server.State.newSocket {Fib Sock : Type} (state : Server.State Fib Sock) :
    Server.Action Fib Sock → Option Sock
  | .accept _ _ socket => some socket
  | .resume fib answers =>
      match state.fiber fib with
      | .waitAccept _ => some answers.socket
      | _ => none
  | _ => none

end Fiberio

namespace Fiberio.World

open Fiberio.Foundation

variable {Fib Sock Serv : Type} [DecidableEq Fib] [Fintype Fib] [DecidableEq Sock]
  [Fintype Sock] [DecidableEq Serv] [Fintype Serv]

/-- No exception has left a destructor. -/
def running (states : State Fib Sock Serv) : Bool :=
  decide (∀ name, (socketOf states name).life ≠ .terminated)

/-- The fiber is in none of the sockets, `except` apart. -/
def outsideSockets (states : State Fib Sock Serv) (fib : Fib) (except : Option Sock) : Bool :=
  decide (∀ name, except ≠ some name → ((socketOf states name).fiber fib).isIdle = true)

/-- The fiber is in none of the server sockets, `except` apart. -/
def outsideServers (states : State Fib Sock Serv) (fib : Fib) (except : Option Serv) : Bool :=
  decide (∀ name, except ≠ some name → ((serverOf states name).fiber fib).isIdle = true)

/-- The socket belongs to an `accept` that is throwing. -/
def unwound (states : State Fib Sock Serv) (socket : Sock) : Bool :=
  decide (∃ name fib, ((serverOf states name).fiber fib).unwinds socket = true)

/-- The socket was never used and no `accept` has made it. -/
def fresh (states : State Fib Sock Serv) (socket : Sock) : Bool :=
  (socketOf states socket).log.isEmpty &&
    decide (∀ name, ∀ event ∈ (serverOf states name).log, event.newSocket ≠ some socket)

def socketEnabled (states : State Fib Sock Serv) (name : Sock) (action : Socket.Action Fib) :
    Bool :=
  match action.caller with
  | none => true
  | some fib =>
      outsideSockets states fib (some name) &&
        ((outsideServers states fib none && !unwound states name) ||
          (action.isDestroy &&
            decide (∃ server, ((serverOf states server).fiber fib).unwinds name = true)))

def serverEnabled (states : State Fib Sock Serv) (name : Serv)
    (action : Server.Action Fib Sock) : Bool :=
  (match action.caller with
    | none => true
    | some fib => outsideSockets states fib none && outsideServers states fib (some name)) &&
  (match (serverOf states name).newSocket action with
    | none => true
    | some socket => fresh states socket) &&
  -- `accept` throws on when the destructor of the socket it had made is over.
  match action with
  | .unwound fib =>
      match (serverOf states name).fiber fib with
      | .unwinding socket _ => decide ((socketOf states socket).life = .destroyed)
      | _ => true
  | _ => true

def enabled (states : State Fib Sock Serv) :
    (object : Object Sock Serv) → object.Action Fib → Bool
  | .socket name, action => running states && socketEnabled states name action
  | .server name, action => running states && serverEnabled states name action

/-! ## The system -/

/-- All sockets and server sockets, with the fibers they share. -/
def machine (Fib Sock Serv : Type) [DecidableEq Fib] [Fintype Fib] [DecidableEq Sock]
    [Fintype Sock] [DecidableEq Serv] [Fintype Serv] :
    Machine (State Fib Sock Serv) ((object : Object Sock Serv) × object.Action Fib) :=
  Machine.interleave (Object.machine Fib) enabled

theorem initially_init (memory : Memory UInt8) (port : UInt16) :
    (machine Fib Sock Serv).Init (initially memory port) := by
  intro object
  cases object with
  | socket name => exact ⟨memory, rfl⟩
  | server name => exact ⟨port, rfl⟩

/-! ## What one object sees -/

section Projection

variable {states : State Fib Sock Serv}
  {admitted : State Fib Sock Serv → ((object : Object Sock Serv) × object.Action Fib) → Prop}
  {socketAllowed : Socket.State Fib → Socket.Action Fib → Prop}
  {serverAllowed : Server.State Fib Sock → Server.Action Fib Sock → Prop}

/-- Steps allowed by what they are on a socket and on a server socket. -/
def Each (socketAllowed : Socket.State Fib → Socket.Action Fib → Prop)
    (serverAllowed : Server.State Fib Sock → Server.Action Fib Sock → Prop) :
    (object : Object Sock Serv) → object.State Fib → object.Action Fib → Prop
  | .socket _, state, action => socketAllowed state action
  | .server _, state, action => serverAllowed state action

/-- A run of the library, seen from one of its sockets. -/
theorem socket_reachable (reachable : (machine Fib Sock Serv).Reachable admitted states)
    (admits : ∀ states object action, admitted states ⟨object, action⟩ →
      Each socketAllowed serverAllowed object (states object) action) (name : Sock) :
    (Socket.machine Fib).Reachable socketAllowed (socketOf states name) :=
  Machine.Reachable.component reachable admits (.socket name)

/-- A run of the library, seen from one of its server sockets. -/
theorem server_reachable (reachable : (machine Fib Sock Serv).Reachable admitted states)
    (admits : ∀ states object action, admitted states ⟨object, action⟩ →
      Each socketAllowed serverAllowed object (states object) action) (name : Serv) :
    (Server.machine Fib Sock).Reachable serverAllowed (serverOf states name) :=
  Machine.Reachable.component reachable admits (.server name)

end Projection

end Fiberio.World
