import Fiberio.Socket.Model

/-!
Owns the embedding of `fiberio::server_socket_impl`
(`src/server_socket_impl.cpp`), of `socket_impl::do_accept` and of
`getaddrinfo` as far as `bind` uses it, for any number of fibers that share
one server socket.

The conventions are those of the socket: one action runs a fiber from one
suspension point to the next or runs one libuv callback, and whatever libuv
decides is an argument of the action. The connections that libuv has accepted
from the kernel and not yet handed over are numbered in the order of their
arrival.

An `accept` whose `uv_accept` fails destroys the socket it had made while the
exception is on its way out; that destructor suspends, and belongs to the
socket. The fiber is `unwinding` until it is over.

Does not own the sockets that `accept` returns, the backlog, or the texts of
libuv's messages. The handler in `on_connection` is not reached: counting up
and `notify_all` do not throw. The counter is an `int`, and cannot overflow
before the descriptors behind the counted connections run out.
-/

namespace Fiberio.Server

open Fiberio.Foundation
open Fiberio.Socket (PromiseState PromiseRef Life)

/-! ## Calls -/

inductive Operation where
  | bind
  | listen
  | accept
  | close
  | destroy
deriving DecidableEq, Repr

/-- How a public operation ended. -/
inductive Outcome (Sock : Type) where
  | returned
  | accepted (socket : Sock)
  | threw (exc : Exc)
deriving DecidableEq, Repr

/-- Who called `server_socket_impl::close`. -/
inductive Closer where
  | user
  | destructor
deriving DecidableEq, Repr

/-- What a suspended call waits for through a promise. -/
inductive Waiting where
  | getaddrinfo
  | closeHandle (closer : Closer)
deriving DecidableEq, Repr

/-- A fiber as the server socket sees it. -/
inductive Fiber (Sock : Type) where
  | idle (last : Option (Outcome Sock))
  | waitAccept (notified : Bool)
  | unwinding (socket : Sock) (exc : Exc)
  | wait (waiting : Waiting) (serial : Nat) (promise : PromiseState)
deriving DecidableEq

def Fiber.isIdle {Sock : Type} : Fiber Sock → Bool
  | .idle _ => true
  | _ => false

/-- `notify_all` on the fibers blocked in `cond_.wait`. -/
def Fiber.notify {Sock : Type} : Fiber Sock → Fiber Sock
  | .waitAccept _ => .waitAccept true
  | fiber => fiber

/-- What `uv_tcp_getsockname` stores: the family, the address as
`addr_to_string` prints it and the port in host order. -/
inductive SockName where
  | inet (host : String) (port : UInt16)
  | inet6 (host : String) (port : UInt16)
  | other
deriving DecidableEq, Repr

/-! ## libuv -/

/-- A `getaddrinfo` request registered with libuv, with its data pointer. -/
structure Request (Fib : Type) where
  id : Nat
  data : PromiseRef Fib
deriving DecidableEq

/-- What the data pointer of the TCP handle points to. -/
inductive HandleData (Fib : Type) where
  | server
  | promise (ref : PromiseRef Fib)
deriving DecidableEq

structure Tcp (Fib : Type) where
  data : HandleData Fib
  /-- `uv_listen` succeeded. -/
  listening : Bool
  /-- `uv_close` was issued. -/
  closing : Bool
  /-- The close callback has run. -/
  closed : Bool
  /-- The connections that `uv_accept` can take, oldest first. -/
  held : List Nat

/-- What happened on the server socket, oldest first. `uvAccept` tells for
which fiber it was called, which connection libuv had for it, the socket that
was to receive it and the status. -/
inductive Event (Fib Sock : Type) where
  | uvGetaddrinfo
  | uvTcpBind
  | uvTcpGetsockname
  | uvListen
  | uvAccept (fiber : Fib) (connection : Option Nat) (socket : Sock) (status : Int)
  | uvClose
  | callback (id : Nat) (status : Int)
  | connectionCallback (status : Int)
  | onHandleClosed
  | notifyAll
  | closeReturned
  | finished (fiber : Fib) (operation : Operation) (outcome : Outcome Sock)
deriving DecidableEq

structure State (Fib Sock : Type) where
  /-- `pending_connections_` -/
  pending : Int
  /-- `closed_` -/
  closed : Bool
  /-- `host_` -/
  host : String
  /-- `port_` -/
  port : UInt16
  tcp : Tcp Fib
  requests : List (Request Fib)
  fiber : Fib → Fiber Sock
  serials : Nat
  /-- How many connections have arrived. -/
  arrived : Nat
  life : Life
  log : List (Event Fib Sock)
  fault : Bool

/-- `server_socket_impl::server_socket_impl()`, which leaves `port_`
uninitialised. -/
def initial {Fib Sock : Type} (port : UInt16) : State Fib Sock where
  pending := 0
  closed := false
  host := ""
  port := port
  tcp := { data := .server, listening := false, closing := false, closed := false, held := [] }
  requests := []
  fiber := fun _ => .idle none
  serials := 0
  arrived := 0
  life := .alive
  log := []
  fault := false

namespace State

variable {Fib Sock : Type}

@[simps]
def emit (state : State Fib Sock) (event : Event Fib Sock) : State Fib Sock :=
  { state with log := state.log ++ [event] }

/-- `cond_.notify_all()`. -/
@[simps]
def notifyAll (state : State Fib Sock) : State Fib Sock :=
  { state.emit .notifyAll with fiber := fun fib => (state.fiber fib).notify }

/-- `get_host` -/
def getHost (state : State Fib Sock) : String := state.host

/-- `get_port` -/
def getPort (state : State Fib Sock) : UInt16 := state.port

variable [DecidableEq Fib]

@[simps]
def setFiber (state : State Fib Sock) (fib : Fib) (value : Fiber Sock) : State Fib Sock :=
  { state with fiber := Function.update state.fiber fib value }

/-- A public operation ends and control is back with its caller. -/
@[simps!]
def finish (state : State Fib Sock) (fib : Fib) (operation : Operation)
    (outcome : Outcome Sock) : State Fib Sock :=
  (state.setFiber fib (.idle (some outcome))).emit (.finished fib operation outcome)

/-! ## `bind` -/

/-- The request for `getaddrinfo` was accepted by libuv; the call suspends on
its own promise. -/
@[simps]
def register (state : State Fib Sock) (fib : Fib) : State Fib Sock :=
  { state.setFiber fib (.wait .getaddrinfo state.serials .unset) with
    requests := state.requests ++ [⟨state.serials, ⟨fib, state.serials⟩⟩]
    serials := state.serials + 1 }

/-- `server_socket_impl::bind` up to the suspension in `getaddrinfo`. -/
def bind (state : State Fib Sock) (fib : Fib) (host : String) (port : UInt16)
    (status : Int) : State Fib Sock :=
  let noted := { state.emit .uvGetaddrinfo with host := host, port := port }
  match checkUvStatus status with
  | .error exc => noted.finish fib .bind (.threw exc)
  | .ok _ => noted.register fib

/-- `update_address`, the end of `bind`. -/
def updateAddress (state : State Fib Sock) (fib : Fib) (status : Int) (name : SockName) :
    State Fib Sock :=
  let asked := state.emit .uvTcpGetsockname
  match checkUvStatus status with
  | .error exc => asked.finish fib .bind (.threw exc)
  | .ok _ =>
      match name with
      | .inet host port | .inet6 host port =>
          { asked with host := host, port := port }.finish fib .bind .returned
      | .other => asked.finish fib .bind .returned

/-- After `getaddrinfo`: `uv_tcp_bind` and `update_address`. -/
def bindResolved (state : State Fib Sock) (fib : Fib) (result : Except Exc Unit)
    (status nameStatus : Int) (name : SockName) : State Fib Sock :=
  match result with
  | .error exc => state.finish fib .bind (.threw exc)
  | .ok _ =>
      match checkUvStatus status with
      | .error exc => (state.emit .uvTcpBind).finish fib .bind (.threw exc)
      | .ok _ => (state.emit .uvTcpBind).updateAddress fib nameStatus name

/-! ## `listen` and `accept` -/

def listen (state : State Fib Sock) (fib : Fib) (status : Int) : State Fib Sock :=
  match checkUvStatus status with
  | .error exc => (state.emit .uvListen).finish fib .listen (.threw exc)
  | .ok _ =>
      { state.emit .uvListen with tcp := { state.tcp with listening := true } }.finish fib
        .listen .returned

/-- `uv_accept` is called for the fiber: it takes the oldest connection out of
libuv's queue, if there is one. -/
@[simps]
def take (state : State Fib Sock) (fib : Fib) (socket : Sock) (status : Int) :
    State Fib Sock :=
  { state.emit (.uvAccept fib state.tcp.held.head? socket status) with
    pending := state.pending - 1
    tcp := { state.tcp with held := state.tcp.held.tail } }

/-- The end of `accept`: the count is decremented and a new socket is passed
to `do_accept`. Without a connection to take, `uv_accept` fails. -/
def doAccept (state : State Fib Sock) (fib : Fib) (status : Int) (socket : Sock) :
    Option (State Fib Sock) :=
  if state.tcp.held = [] ∧ 0 ≤ status then none else
  match checkUvStatus status with
  | .error exc => some ((state.take fib socket status).setFiber fib (.unwinding socket exc))
  | .ok _ => some ((state.take fib socket status).finish fib .accept (.accepted socket))

/-- `accept` from the test of its loop on, which is where a woken fiber
resumes. -/
def accept (state : State Fib Sock) (fib : Fib) (status : Int) (socket : Sock) :
    Option (State Fib Sock) :=
  if state.pending = 0 && !state.closed then
    some (state.setFiber fib (.waitAccept false))
  else if state.closed then
    some (state.finish fib .accept (.threw (.runtimeError "connection closed")))
  else
    state.doAccept fib status socket

/-- The socket that `accept` had made is destroyed and the exception goes
on. -/
def unwound (state : State Fib Sock) (fib : Fib) : Option (State Fib Sock) :=
  match state.fiber fib with
  | .unwinding _ exc => some (state.finish fib .accept (.threw exc))
  | _ => none

/-! ## `close` -/

/-- `close_handle`: the handle's data pointer is redirected to a promise of
the closing call, which then suspends. libuv drops the connections it holds. -/
@[simps]
def closeHandle (state : State Fib Sock) (fib : Fib) (closer : Closer) : State Fib Sock :=
  { (state.emit .uvClose).setFiber fib (.wait (.closeHandle closer) state.serials .unset) with
    tcp := { state.tcp with
      data := .promise ⟨fib, state.serials⟩, closing := true, held := [] }
    serials := state.serials + 1 }

/-- The close callback has run: `notify_all`, and back to the caller of
`close`. -/
def closeHandleDone (state : State Fib Sock) (fib : Fib) (closer : Closer) :
    State Fib Sock :=
  let returned := state.notifyAll.emit .closeReturned
  match closer with
  | .user => returned.finish fib .close .returned
  | .destructor => { returned with life := .destroyed }.finish fib .destroy .returned

/-- `server_socket::close`. -/
def userClose (state : State Fib Sock) (fib : Fib) : State Fib Sock :=
  if state.closed then
    state.finish fib .close .returned
  else
    { state with closed := true }.closeHandle fib .user

/-- `~server_socket_impl`. -/
def destroy (state : State Fib Sock) (fib : Fib) : State Fib Sock :=
  if state.closed then
    { state with life := .destroyed }.finish fib .destroy .returned
  else
    { state with closed := true, life := .destroying }.closeHandle fib .destructor

/-! ## Callbacks -/

/-- `promise->set_value()` or `promise->set_exception(...)` through a pointer.
The promise must still be on the stack it points into, and unset. -/
def resolve (state : State Fib Sock) (ref : PromiseRef Fib) (result : Except Exc Unit) :
    State Fib Sock :=
  match state.fiber ref.fiber with
  | .wait waiting serial .unset =>
      if serial = ref.serial then
        state.setFiber ref.fiber (.wait waiting serial (.set result))
      else
        { state with fault := true }
  | _ => { state with fault := true }

/-- `addrinfo_callback`. -/
def complete (state : State Fib Sock) (id : Nat) (status : Int) : Option (State Fib Sock) :=
  match state.requests.find? (fun request => request.id == id) with
  | none => none
  | some request =>
      let answered :=
        { state.emit (.callback id status) with requests := state.requests.erase request }
      some (answered.resolve request.data (checkUvStatus status))

omit [DecidableEq Fib] in
/-- libuv reports a connection: with status zero it holds one more, with a
negative status it does not. -/
@[simps]
def arrive (state : State Fib Sock) (status : Int) : State Fib Sock :=
  { state with
    tcp := { state.tcp with
      held := if status < 0 then state.tcp.held else state.tcp.held ++ [state.arrived] }
    arrived := if status < 0 then state.arrived else state.arrived + 1 }

omit [DecidableEq Fib] in
/-- `on_connection`, which does not look at its argument. -/
@[simps!]
def onConnection (state : State Fib Sock) (_status : Int) : State Fib Sock :=
  { state with pending := state.pending + 1 }.notifyAll

/-- `connection_callback`. libuv calls it while the handle listens, up to
`uv_close`. -/
def connectionCallback (state : State Fib Sock) (status : Int) :
    Option (State Fib Sock) :=
  if state.tcp.listening && !state.tcp.closing && decide (status ≤ 0) then
    let called := (state.emit (.connectionCallback status)).arrive status
    some ({ called with
      fault := state.fault || state.tcp.data != HandleData.server }.onConnection status)
  else
    none

/-- `on_handle_closed`. -/
def onHandleClosed (state : State Fib Sock) : Option (State Fib Sock) :=
  if state.tcp.closing && !state.tcp.closed then
    let ran := { state.emit .onHandleClosed with tcp := { state.tcp with closed := true } }
    match state.tcp.data with
    | .promise ref => some (ran.resolve ref (.ok ()))
    | .server => some { ran with fault := true }
  else
    none

end State

/-! ## The system -/

/-- What libuv answers to a fiber on its way to the next suspension point:
the status of `uv_tcp_bind` or `uv_accept`, the status and the result of
`uv_tcp_getsockname`, and the socket that `accept` makes. -/
structure Answers (Sock : Type) where
  status : Int
  nameStatus : Int
  name : SockName
  socket : Sock
deriving DecidableEq, Repr

inductive Action (Fib Sock : Type) where
  | bind (fib : Fib) (host : String) (port : UInt16) (status : Int)
  | listen (fib : Fib) (status : Int)
  | accept (fib : Fib) (status : Int) (socket : Sock)
  | close (fib : Fib)
  | destroy (fib : Fib)
  | resume (fib : Fib) (answers : Answers Sock)
  | unwound (fib : Fib)
  | complete (id : Nat) (status : Int)
  | connectionCallback (status : Int)
  | onHandleClosed

namespace State

variable {Fib Sock : Type} [DecidableEq Fib]

/-- A woken fiber, up to its next suspension. -/
def resume (state : State Fib Sock) (fib : Fib) (answers : Answers Sock) :
    Option (State Fib Sock) :=
  match state.fiber fib with
  | .waitAccept true => state.accept fib answers.status answers.socket
  | .wait .getaddrinfo _ (.set result) =>
      some (state.bindResolved fib result answers.status answers.nameStatus answers.name)
  | .wait (.closeHandle closer) _ (.set _) => some (state.closeHandleDone fib closer)
  | _ => none

variable [Fintype Fib]

/-- The fiber is outside the library and the object exists. -/
def canCall (state : State Fib Sock) (fib : Fib) : Bool :=
  decide (state.life = .alive) && (state.fiber fib).isIdle

def step (state : State Fib Sock) : Action Fib Sock → Option (State Fib Sock)
  | .bind fib host port status =>
      if state.canCall fib then some (state.bind fib host port status) else none
  | .listen fib status => if state.canCall fib then some (state.listen fib status) else none
  | .accept fib status socket =>
      if state.canCall fib then state.accept fib status socket else none
  | .close fib => if state.canCall fib then some (state.userClose fib) else none
  -- The owner is gone, so no fiber is inside a member function.
  | .destroy fib =>
      if state.life = .alive ∧ ∀ other, (state.fiber other).isIdle then
        some (state.destroy fib)
      else none
  | .resume fib answers => state.resume fib answers
  | .unwound fib => state.unwound fib
  | .complete id status => state.complete id status
  | .connectionCallback status => state.connectionCallback status
  | .onHandleClosed => state.onHandleClosed

end State

/-- One `server_socket_impl` with its fibers and its part of libuv. -/
def machine (Fib Sock : Type) [DecidableEq Fib] [Fintype Fib] :
    Machine (State Fib Sock) (Action Fib Sock) where
  Init := fun state => ∃ port, state = initial port
  step := State.step

end Fiberio.Server
