import Mathlib.Algebra.Ring.Int.Defs
import Mathlib.Algebra.Ring.Nat
import Mathlib.Data.Fintype.Basic
import Mathlib.Tactic.Simps.Basic
import Fiberio.Errors
import Fiberio.Foundation.Machine
import Fiberio.Foundation.Memory

/-!
Owns the embedding of `fiberio::socket_impl` (`src/socket_impl.cpp`), of the
wrappers over its `read` (`src/socket.cpp`, `detail::socket_device` in
`include/fiberio/iostream.hpp`), of `getaddrinfo` (`src/addrinfo.cpp`) as far
as `connect` uses it, and of `close_handle` (`src/utils.cpp`), for any number
of fibers that share one socket.

Fibers switch only where the source suspends: in `promise.get_future().get()`
and in `cond_.wait(lock)`. One action runs a fiber from one suspension point
to the next, or runs one libuv callback. Whatever libuv decides (a status, the
bytes of a read, which callback runs next) is an argument of the action.

Requests and promises are locals of the call that issues them, so a promise
is named by the fiber whose stack it lives on and a serial number. A callback
that follows a pointer to something that is not there sets `fault`.

Does not own the addresses that name resolution returns, the texts of libuv's
messages, or the debug output.
-/

namespace Fiberio.Socket

open Fiberio.Foundation

/-! ## Machine integers -/

/-- Implicit conversion of a `std::size_t` to `int64_t`. -/
def toInt64 (size : Nat) : Int := (size : Int).bmod (2 ^ 64)

/-- Implicit conversion of an `int64_t` to `std::size_t`. -/
def toSize (value : Int) : Nat := (value % 2 ^ 64).toNat

/-- Subtraction of `std::size_t` values. -/
def subSize (left right : Nat) : Nat := (left + 2 ^ 64 - right) % 2 ^ 64

/-- `ERROR_EOF` -/
def errorEof : Int := -1

/-- `ERROR_READ_FAILED` -/
def errorReadFailed : Int := -2

/-- libstdc++'s `std::string::max_size()`. -/
def maxStringSize : Nat := 2 ^ 62 - 1

/-- libstdc++'s `std::vector<char>::max_size()`. -/
def maxVectorSize : Nat := 2 ^ 63 - 1

/-! ## Calls -/

/-- The two compiled forms of `read_string` and `read_string_exactly`. -/
inductive CppStd where
  | cpp14
  | cpp17
deriving DecidableEq, Repr

/-- What the constructor of the local `buf` throws: `std::vector<char>` before
C++17, `std::string` since. Each refuses a length above its own `max_size()`;
a vector that is longer than any string passes its check, and then no allocator
has the memory. -/
def CppStd.refuses (std : CppStd) (count : Nat) : Option Exc :=
  match std with
  | .cpp14 =>
      if maxVectorSize < count then some .lengthError
      else if maxStringSize < count then some .badAlloc
      else none
  | .cpp17 => if maxStringSize < count then some .lengthError else none

theorem CppStd.refuses_eq_none_iff {std : CppStd} {count : Nat} :
    std.refuses count = none ↔ count ≤ maxStringSize := by
  cases std with
  | cpp14 =>
      unfold CppStd.refuses maxVectorSize maxStringSize
      split_ifs <;> simp <;> omega
  | cpp17 =>
      unfold CppStd.refuses
      split_ifs <;> simp <;> omega

/-- The length of a buffer that is built fits an `int64_t`. -/
theorem CppStd.count_lt {std : CppStd} {count : Nat} (accepted : std.refuses count = none) :
    count < 2 ^ 63 := by
  have fits := CppStd.refuses_eq_none_iff.mp accepted
  unfold maxStringSize at fits
  omega

theorem CppStd.refuses_isContainerError {std : CppStd} {count : Nat} {exc : Exc}
    (refused : std.refuses count = some exc) : exc.isContainerError = true := by
  unfold CppStd.refuses at refused
  split at refused <;> split_ifs at refused <;> cases refused <;> rfl

/-- A public read operation with its arguments. A string operation also
carries the address of the buffer it allocates. -/
inductive ReadRequest where
  | read (buf size : Nat)
  | readExactly (buf size : Nat)
  | readString (std : CppStd) (count buf : Nat)
  | readStringExactly (std : CppStd) (count buf : Nat)
  | deviceRead (buf size : Nat)
deriving DecidableEq, Repr

/-- Who called `socket_impl::read`, with the caller's locals. In
`read_exactly` the locals `current_buf` and `bytes_left` are the arguments of
the inner read. -/
inductive ReadCaller where
  | read
  | readExactly (buf size : Nat)
  | readString (std : CppStd) (count : Nat)
  | deviceRead (buf size bytesRead : Nat)
deriving DecidableEq, Repr

/-- One activation of `socket_impl::read(buf, size)`, inside the public call
number `id`. -/
structure ReadCall where
  id : Nat
  buf : Nat
  size : Nat
  caller : ReadCaller
deriving DecidableEq, Repr

/-- The loop condition of the caller after an inner read obtained `count`
bytes: `bytes_left > 0` in `read_exactly`, and
`is_open() && bytes_read < n` in the stream device. -/
def ReadCall.continues (call : ReadCall) (count : Nat) (closed : Bool) : Bool :=
  match call.caller with
  | .readExactly _ _ => decide (0 < subSize call.size count)
  | .deviceRead _ size bytesRead => !closed && decide (bytesRead + count < size)
  | .read | .readString _ _ => false

/-- The next inner read of a loop whose last one obtained `count` bytes. -/
def ReadCall.next (call : ReadCall) (count : Nat) : ReadCall :=
  match call.caller with
  | .deviceRead buf size bytesRead =>
      { call with
        buf := buf + (bytesRead + count)
        size := size - (bytesRead + count)
        caller := .deviceRead buf size (bytesRead + count) }
  | _ => { call with buf := call.buf + count, size := subSize call.size count }

/-- What the operation returns, or leaves in its buffer, when its last inner
read obtained `count` bytes. -/
def ReadCall.result (call : ReadCall) (memory : Memory UInt8) (count : Nat) : List UInt8 :=
  match call.caller with
  | .read => memory.load call.buf count
  | .readExactly buf size => memory.load buf size
  -- The C++17 form erases the unread end of a string of length `total`;
  -- `shrink_to_fit` then only changes its capacity.
  | .readString .cpp17 total => memory.load call.buf (min count total)
  | .readString .cpp14 _ => memory.load call.buf count
  | .deviceRead buf _ bytesRead => memory.load buf (bytesRead + count)

/-- Who called `socket_impl::close`: the user, `read` after an EOF, or the
destructor. -/
inductive Closer where
  | user
  | eof (call : ReadCall)
  | destructor
deriving DecidableEq, Repr

/-- What a suspended call waits for through a promise. -/
inductive Waiting where
  | getaddrinfo
  | connect
  | write
  | shutdown (closer : Closer)
  | closeHandle (closer : Closer)
deriving DecidableEq, Repr

inductive PromiseState where
  | unset
  | set (result : Except Exc Unit)
deriving DecidableEq

inductive Operation where
  | connect
  | read
  | write
  | close
  | destroy
deriving DecidableEq, Repr

/-- How a public operation ended. `bytes` is what a read left in the buffer
it was given, or the string it returned; a returned count is its length. -/
inductive Outcome where
  | returned (bytes : List UInt8)
  | threw (exc : Exc)
deriving DecidableEq, Repr

/-- What a public read operation does before its first inner read: the call
it makes, or its outcome when there is none. The buffer of a string operation
is built first; the loops test their condition first. -/
def ReadRequest.first (id : Nat) (closed : Bool) : ReadRequest → Outcome ⊕ ReadCall
  | .read buf size => .inr ⟨id, buf, size, .read⟩
  | .readExactly buf size =>
      if 0 < size then .inr ⟨id, buf, size, .readExactly buf size⟩ else .inl (.returned [])
  | .readString std count buf =>
      match std.refuses count with
      | some exc => .inl (.threw exc)
      | none => .inr ⟨id, buf, count, .readString std count⟩
  | .readStringExactly std count buf =>
      match std.refuses count with
      | some exc => .inl (.threw exc)
      | none =>
          if 0 < count then .inr ⟨id, buf, count, .readExactly buf count⟩
          else .inl (.returned [])
  | .deviceRead buf size =>
      if !closed && decide (0 < size) then .inr ⟨id, buf, size, .deviceRead buf size 0⟩
      else .inl (.returned [])

/-- Only a buffer that is refused throws before the first inner read. -/
theorem ReadRequest.first_threw {request : ReadRequest} {id : Nat} {closed : Bool} {exc : Exc}
    (first : request.first id closed = .inl (.threw exc)) :
    ∃ std count, CppStd.refuses std count = some exc := by
  cases request <;> simp only [ReadRequest.first] at first <;> grind

/-- A fiber as the socket sees it. -/
inductive Fiber where
  | idle (last : Option Outcome)
  | waitRead (notified : Bool) (call : ReadCall)
  | wait (waiting : Waiting) (serial : Nat) (promise : PromiseState)
deriving DecidableEq

def Fiber.isIdle : Fiber → Bool
  | .idle _ => true
  | _ => false

/-- `notify_all` on the fibers blocked in `cond_.wait`. -/
def Fiber.notify : Fiber → Fiber
  | .waitRead _ call => .waitRead true call
  | fiber => fiber

/-! ## libuv -/

/-- A pointer to a promise on a fiber's stack. -/
structure PromiseRef (Fib : Type) where
  fiber : Fib
  serial : Nat
deriving DecidableEq

/-- The kind of a request. A write remembers how many buffers have been
passed to `uv_write` up to and including its own. -/
inductive RequestKind where
  | getaddrinfo
  | connect
  | write (upto : Nat)
  | shutdown
deriving DecidableEq, Repr

/-- A request registered with libuv, with its data pointer. -/
structure Request (Fib : Type) where
  id : Nat
  kind : RequestKind
  data : PromiseRef Fib
deriving DecidableEq

/-- What the data pointer of the TCP handle points to. -/
inductive HandleData (Fib : Type) where
  | socket
  | promise (ref : PromiseRef Fib)
deriving DecidableEq

structure Tcp (Fib : Type) where
  data : HandleData Fib
  /-- The read watcher is started. -/
  watching : Bool
  /-- `uv_close` was issued. -/
  closing : Bool
  /-- The close callback has run. -/
  closed : Bool
  /-- A shutdown request completed without an error. -/
  shut : Bool
  /-- The buffers accepted by `uv_write`, in call order. -/
  writes : List (List UInt8)
  /-- The bytes that read callbacks have delivered. -/
  delivered : List UInt8

/-- What happened on the socket, oldest first. -/
inductive Event (Fib : Type) where
  | uvGetaddrinfo
  | uvTcpConnect
  | uvReadStart
  | uvReadStop
  | uvWrite
  | uvShutdown
  | uvClose
  | callback (id : Nat) (status : Int)
  | readCallback (nread : Int)
  | onHandleClosed
  | notifyAll
  | admitted (call : Nat)
  | refused (call : Nat)
  | chunk (call : Nat) (bytes : List UInt8)
  | closeReturned
  | closeThrew (exc : Exc)
  | finished (fiber : Fib) (operation : Operation) (outcome : Outcome)
deriving DecidableEq

/-- The lifetime of the `socket_impl` object. An exception that leaves the
destructor terminates the program. -/
inductive Life where
  | alive
  | destroying
  | destroyed
  | terminated
deriving DecidableEq, Repr

structure State (Fib : Type) where
  /-- `closed_` -/
  closed : Bool
  /-- `reading_` -/
  reading : Bool
  /-- `buf_` -/
  buf : Nat
  /-- `len_` -/
  len : Int
  tcp : Tcp Fib
  requests : List (Request Fib)
  fiber : Fib → Fiber
  memory : Memory UInt8
  serials : Nat
  calls : Nat
  life : Life
  log : List (Event Fib)
  fault : Bool

/-- `socket_impl::socket_impl()`. -/
def initial {Fib : Type} (memory : Memory UInt8) : State Fib where
  closed := false
  reading := false
  buf := 0
  len := 0
  tcp :=
    { data := .socket, watching := false, closing := false, closed := false, shut := false,
      writes := [], delivered := [] }
  requests := []
  fiber := fun _ => .idle none
  memory := memory
  serials := 0
  calls := 0
  life := .alive
  log := []
  fault := false

namespace State

variable {Fib : Type}

@[simps]
def emit (state : State Fib) (event : Event Fib) : State Fib :=
  { state with log := state.log ++ [event] }

/-- `cond_.notify_all()`. -/
@[simps]
def notifyAll (state : State Fib) : State Fib :=
  { state.emit .notifyAll with fiber := fun fib => (state.fiber fib).notify }

variable [DecidableEq Fib]

@[simps]
def setFiber (state : State Fib) (fib : Fib) (value : Fiber) : State Fib :=
  { state with fiber := Function.update state.fiber fib value }

/-- A public operation ends and control is back with its caller. -/
@[simps!]
def finish (state : State Fib) (fib : Fib) (operation : Operation) (outcome : Outcome) :
    State Fib :=
  (state.setFiber fib (.idle (some outcome))).emit (.finished fib operation outcome)

/-- A request was accepted by libuv; the call suspends on its own promise. -/
@[simps]
def register (state : State Fib) (fib : Fib) (kind : RequestKind) (waiting : Waiting) :
    State Fib :=
  { state.setFiber fib (.wait waiting state.serials .unset) with
    requests := state.requests ++ [⟨state.serials, kind, ⟨fib, state.serials⟩⟩]
    serials := state.serials + 1 }

/-! ## `connect` -/

/-- `socket_impl::connect` up to the suspension in `getaddrinfo`. -/
def connect (state : State Fib) (fib : Fib) (status : Int) : State Fib :=
  if state.closed then
    state.finish fib .connect (.threw .socketClosedError)
  else
    match checkUvStatus status with
    | .error exc => (state.emit .uvGetaddrinfo).finish fib .connect (.threw exc.translate)
    | .ok _ => (state.emit .uvGetaddrinfo).register fib .getaddrinfo .getaddrinfo

/-- After `getaddrinfo`: `uv_tcp_connect`, up to the suspension on its
promise. -/
def connectResolved (state : State Fib) (fib : Fib) (result : Except Exc Unit)
    (status : Int) : State Fib :=
  match result with
  | .error exc => state.finish fib .connect (.threw exc.translate)
  | .ok _ =>
      match checkUvStatus status with
      | .error exc => (state.emit .uvTcpConnect).finish fib .connect (.threw exc.translate)
      | .ok _ => (state.emit .uvTcpConnect).register fib .connect .connect

def connectDone (state : State Fib) (fib : Fib) (result : Except Exc Unit) : State Fib :=
  match result with
  | .error exc => state.finish fib .connect (.threw exc.translate)
  | .ok _ => state.finish fib .connect (.returned [])

/-! ## `write` -/

/-- `socket_impl::write` up to the suspension on its promise. -/
def write (state : State Fib) (fib : Fib) (data : List UInt8) (status : Int) : State Fib :=
  if state.closed then
    state.finish fib .write (.threw .socketClosedError)
  else
    match checkUvStatus status with
    | .error exc => (state.emit .uvWrite).finish fib .write (.threw exc)
    | .ok _ =>
        let queued := { state.emit .uvWrite with
          tcp := { state.tcp with writes := state.tcp.writes ++ [data] } }
        queued.register fib (.write (state.tcp.writes.length + 1)) .write

def writeDone (state : State Fib) (fib : Fib) (result : Except Exc Unit) : State Fib :=
  match result with
  | .error exc => state.finish fib .write (.threw exc)
  | .ok _ => state.finish fib .write (.returned [])

/-! ## `read` and its callers -/

/-- The public read operation returns after its last inner read obtained
`count` bytes. -/
@[simps!]
def finishRead (state : State Fib) (fib : Fib) (call : ReadCall) (count : Nat) : State Fib :=
  state.finish fib .read (.returned (call.result state.memory count))

/-- The read is admitted: its buffer and size are noted and `uv_read_start`
is called. -/
@[simps closed reading buf tcp requests fiber memory serials calls life log fault]
def beginRead (state : State Fib) (call : ReadCall) : State Fib :=
  { (state.emit (.admitted call.id)).emit .uvReadStart with
    reading := true, buf := call.buf, len := toInt64 call.size }

omit [DecidableEq Fib] in
@[simp] theorem beginRead_len (state : State Fib) (call : ReadCall) :
    (state.beginRead call).len = toInt64 call.size := by
  simp only [beginRead]

/-- `uv_read_start` succeeded. -/
@[simps]
def watch (state : State Fib) : State Fib :=
  { state with tcp := { state.tcp with watching := true } }

/-- `socket_impl::read(buf, size)` up to the suspension in
`wait_for_read_to_finish`. With a null buffer that loop does not wait at all;
then the read obtained its whole size, which is zero, and no caller reads
again. -/
def read (state : State Fib) (fib : Fib) (call : ReadCall) (status : Int) : State Fib :=
  if state.closed then
    state.finish fib .read (.threw .socketClosedError)
  else if state.reading then
    (state.emit (.refused call.id)).finish fib .read
      (.threw (.ioError (.text "concurrent read")))
  else
    match checkUvStatus status with
    | .error exc =>
        { state.beginRead call with buf := 0, reading := false }.finish fib .read (.threw exc)
    | .ok _ =>
        if call.buf ≠ 0 then
          (state.beginRead call).watch.setFiber fib (.waitRead false call)
        else
          { (state.beginRead call).watch with reading := false }.finishRead fib call
            (toSize (state.beginRead call).watch.len)

/-- An inner read returned `count`: the loops of `read_exactly` and of the
stream device read again, in the same breath, or the operation returns. -/
def readReturned (state : State Fib) (fib : Fib) (call : ReadCall) (count : Nat)
    (status : Int) : State Fib :=
  let obtained := state.emit (.chunk call.id (state.memory.load call.buf count))
  if call.continues count state.closed then
    obtained.read fib (call.next count) status
  else
    obtained.finishRead fib call count

/-- The end of `socket_impl::read`: a closed socket reads nothing. -/
def readEnd (state : State Fib) (fib : Fib) (call : ReadCall) (status : Int) : State Fib :=
  let ended := if state.closed then { state with len := 0 } else state
  ended.readReturned fib call (toSize ended.len) status

/-- A public read operation up to its first suspension. -/
def startRead (state : State Fib) (fib : Fib) (request : ReadRequest) (status : Int) :
    State Fib :=
  let started := { state with calls := state.calls + 1 }
  match request.first state.calls state.closed with
  | .inl outcome => started.finish fib .read outcome
  | .inr call => started.read fib call status

/-! ## `close` -/

/-- `close_handle`: the handle's data pointer is redirected to a promise of
the closing call, which then suspends. -/
@[simps]
def closeHandle (state : State Fib) (fib : Fib) (closer : Closer) : State Fib :=
  { (state.emit .uvClose).setFiber fib (.wait (.closeHandle closer) state.serials .unset) with
    tcp := { state.tcp with
      data := .promise ⟨fib, state.serials⟩, closing := true, watching := false }
    serials := state.serials + 1 }

/-- An exception leaves `close`. The handler in `read` clears `buf_` and
`reading_` and throws it on; out of a destructor it is fatal. -/
def closeThrew (state : State Fib) (fib : Fib) (closer : Closer) (exc : Exc) : State Fib :=
  let thrown := state.emit (.closeThrew exc)
  match closer with
  | .user => thrown.finish fib .close (.threw exc)
  | .eof _ => { thrown with buf := 0, reading := false }.finish fib .read (.threw exc)
  | .destructor => { thrown with life := .terminated }

/-- `shutdown` threw inside `close`, which handles `socket_closed_error`
only. -/
def shutdownThrew (state : State Fib) (fib : Fib) (closer : Closer) (exc : Exc) : State Fib :=
  match exc with
  | .socketClosedError => state.closeHandle fib closer
  | _ => state.closeThrew fib closer exc

/-- `close` on a socket that is not closed, up to its first suspension. -/
def close (state : State Fib) (fib : Fib) (closer : Closer) (status : Int) : State Fib :=
  let marked := { state.emit .uvShutdown with closed := true }
  match checkUvStatus status with
  | .error exc => marked.shutdownThrew fib closer exc
  | .ok _ => marked.register fib .shutdown (.shutdown closer)

def shutdownDone (state : State Fib) (fib : Fib) (closer : Closer)
    (result : Except Exc Unit) : State Fib :=
  match result with
  | .error exc => state.shutdownThrew fib closer exc
  | .ok _ => state.closeHandle fib closer

/-- The close callback has run: `notify_all`, and back to the caller of
`close`. -/
def closeHandleDone (state : State Fib) (fib : Fib) (closer : Closer) (status : Int) :
    State Fib :=
  let returned := state.notifyAll.emit .closeReturned
  match closer with
  | .user => returned.finish fib .close (.returned [])
  | .eof call => returned.readEnd fib call status
  | .destructor => { returned with life := .destroyed }.finish fib .destroy (.returned [])

/-- `socket::close`. -/
def userClose (state : State Fib) (fib : Fib) (status : Int) : State Fib :=
  if state.closed then
    state.finish fib .close (.returned [])
  else
    state.close fib .user status

/-- `~socket_impl`. -/
def destroy (state : State Fib) (fib : Fib) (status : Int) : State Fib :=
  if state.closed then
    { state with life := .destroyed }.finish fib .destroy (.returned [])
  else
    { state with life := .destroying }.close fib .destructor status

/-! ## Resuming a fiber

The entry of a resumed fiber is replaced where the fiber next suspends or
returns. -/

/-- A reader woken in `wait_for_read_to_finish`, up to its next suspension. -/
def readWoken (state : State Fib) (fib : Fib) (call : ReadCall) (status : Int) : State Fib :=
  if state.buf ≠ 0 && !state.closed then
    state.setFiber fib (.waitRead false call)
  else
    let resumed := { state with reading := false }
    if state.len = errorEof then
      if state.closed then
        resumed.readEnd fib call status
      else
        resumed.close fib (.eof call) status
    else if state.len = errorReadFailed then
      { resumed with buf := 0 }.finish fib .read (.threw (.ioError (.text "read failed")))
    else
      resumed.readEnd fib call status

/-- The future of the awaited promise is ready. -/
def resumeWith (state : State Fib) (fib : Fib) (waiting : Waiting)
    (result : Except Exc Unit) (status : Int) : State Fib :=
  match waiting with
  | .getaddrinfo => state.connectResolved fib result status
  | .connect => state.connectDone fib result
  | .write => state.writeDone fib result
  | .shutdown closer => state.shutdownDone fib closer result
  | .closeHandle closer => state.closeHandleDone fib closer status

def resume (state : State Fib) (fib : Fib) (status : Int) : Option (State Fib) :=
  match state.fiber fib with
  | .waitRead true call => some (state.readWoken fib call status)
  | .wait waiting _ (.set result) => some (state.resumeWith fib waiting result status)
  | _ => none

/-! ## Callbacks -/

/-- `promise->set_value()` or `promise->set_exception(...)` through a pointer.
The promise must still be on the stack it points into, and unset. -/
def resolve (state : State Fib) (ref : PromiseRef Fib) (result : Except Exc Unit) :
    State Fib :=
  match state.fiber ref.fiber with
  | .wait waiting serial .unset =>
      if serial = ref.serial then
        state.setFiber ref.fiber (.wait waiting serial (.set result))
      else
        { state with fault := true }
  | _ => { state with fault := true }

/-- `addrinfo_callback`, `connection_callback`, `write_callback` and
`shutdown_callback`: each passes its status through `check_uv_status` into the
promise behind the request's data pointer. -/
def complete (state : State Fib) (id : Nat) (status : Int) : Option (State Fib) :=
  match state.requests.find? (fun request => request.id == id) with
  | none => none
  | some request =>
      let answered :=
        { state.emit (.callback id status) with
          requests := state.requests.erase request
          tcp := { state.tcp with
            shut := state.tcp.shut ||
              (request.kind == RequestKind.shutdown && decide (0 ≤ status)) } }
      some (answered.resolve request.data (checkUvStatus status))

/-- `alloc_callback`: the buffer libuv may write to. -/
def allocCallback (state : State Fib) : Nat × Nat := (state.buf, toSize state.len)

/-- What libuv may report: `UV_ENOBUFS` for a null or empty buffer, else at
most the offered number of bytes, or a negative code. -/
def canDeliver (state : State Fib) (nread : Int) (bytes : List UInt8) : Bool :=
  if state.allocCallback.1 = 0 ∨ state.allocCallback.2 = 0 then
    nread = uvEnobufs ∧ bytes = []
  else if 0 ≤ nread then
    nread = bytes.length ∧ bytes.length ≤ state.allocCallback.2
  else
    bytes = []

/-- `on_read_finished`. -/
@[simps!]
def onReadFinished (state : State Fib) (nread : Int) : State Fib :=
  { state with buf := 0, len := nread }.notifyAll

/-- `read_callback`, after libuv stored the bytes in the offered buffer. -/
def readCallback (state : State Fib) (nread : Int) (bytes : List UInt8) :
    Option (State Fib) :=
  if state.tcp.watching && state.canDeliver nread bytes then
    let stopped :=
      { (state.emit (.readCallback nread)).emit .uvReadStop with
        memory := state.memory.store state.allocCallback.1 bytes
        tcp := { state.tcp with
          watching := false, delivered := state.tcp.delivered ++ bytes }
        fault := state.fault || state.tcp.data != HandleData.socket }
    if 0 ≤ nread then
      some (stopped.onReadFinished nread)
    else if nread = uvEof then
      some (stopped.onReadFinished errorEof)
    else
      some (stopped.onReadFinished errorReadFailed)
  else
    none

/-- `on_handle_closed`. libuv first completes every request of the handle. -/
def onHandleClosed (state : State Fib) : Option (State Fib) :=
  if state.tcp.closing && !state.tcp.closed &&
      state.requests.all (fun request => request.kind == RequestKind.getaddrinfo) then
    let ran := { state.emit .onHandleClosed with tcp := { state.tcp with closed := true } }
    match state.tcp.data with
    | .promise ref => some (ran.resolve ref (.ok ()))
    | .socket => some { ran with fault := true }
  else
    none

end State

/-! ## The system -/

inductive Action (Fib : Type) where
  | connect (fib : Fib) (status : Int)
  | read (fib : Fib) (request : ReadRequest) (status : Int)
  | write (fib : Fib) (data : List UInt8) (status : Int)
  | close (fib : Fib) (status : Int)
  | destroy (fib : Fib) (status : Int)
  | resume (fib : Fib) (status : Int)
  | complete (id : Nat) (status : Int)
  | readCallback (nread : Int) (bytes : List UInt8)
  | onHandleClosed

/-- The fiber that enters the library with the action. -/
def Action.caller {Fib : Type} : Action Fib → Option Fib
  | .connect fib _ | .read fib _ _ | .write fib _ _ | .close fib _ | .destroy fib _ => some fib
  | .resume _ _ | .complete _ _ | .readCallback _ _ | .onHandleClosed => none

/-- The caller's buffer exists: only an empty one may be null. The buffer of a
string operation is never null, except an empty `std::vector`'s. -/
def ReadRequest.hasBuffer : ReadRequest → Bool
  | .read buf size | .readExactly buf size | .deviceRead buf size =>
      decide (size < 2 ^ 64 ∧ (buf = 0 → size = 0))
  | .readString .cpp14 count buf | .readStringExactly .cpp14 count buf =>
      decide (count < 2 ^ 64 ∧ (buf = 0 ↔ count = 0))
  | .readString .cpp17 count buf | .readStringExactly .cpp17 count buf =>
      decide (count < 2 ^ 64 ∧ buf ≠ 0)

namespace State

variable {Fib : Type} [DecidableEq Fib] [Fintype Fib]

/-- The fiber is outside the library and the object exists. -/
def canCall (state : State Fib) (fib : Fib) : Bool :=
  decide (state.life = .alive) && (state.fiber fib).isIdle

def step (state : State Fib) (action : Action Fib) : Option (State Fib) :=
  if state.life = .terminated then none else
  match action with
  | .connect fib status => if state.canCall fib then some (state.connect fib status) else none
  | .read fib request status =>
      if state.canCall fib && request.hasBuffer then
        some (state.startRead fib request status)
      else none
  | .write fib data status =>
      if state.canCall fib then some (state.write fib data status) else none
  | .close fib status => if state.canCall fib then some (state.userClose fib status) else none
  -- The last reference is dropped, so no fiber is inside a member function.
  | .destroy fib status =>
      if state.life = .alive ∧ ∀ other, (state.fiber other).isIdle then
        some (state.destroy fib status)
      else none
  | .resume fib status => state.resume fib status
  | .complete id status => state.complete id status
  | .readCallback nread bytes => state.readCallback nread bytes
  | .onHandleClosed => state.onHandleClosed

end State

/-- One `socket_impl` with its fibers and its part of libuv. -/
def machine (Fib : Type) [DecidableEq Fib] [Fintype Fib] :
    Machine (State Fib) (Action Fib) where
  Init := fun state => ∃ memory, state = initial memory
  step := State.step

end Fiberio.Socket
