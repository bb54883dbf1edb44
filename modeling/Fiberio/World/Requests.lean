import Fiberio.World.Model
import Fiberio.Socket.Answers
import Fiberio.Server.Answers

/-!
Owns the account of every request and every handle close that libuv has in
hand, over all sockets and server sockets at once: each belongs to a call that
is suspended on its own promise, and each promise is resolved once.

Does not own the invariants behind it, which are those of one object.
-/

namespace Fiberio.World

open Fiberio.Foundation

variable {Fib Sock Serv : Type}

/-- What libuv has in hand for a socket. -/
structure SocketRequests (state : Socket.State Fib) : Prop where
  /-- A registered request was issued by a call that waits on its own promise. -/
  suspended : ∀ request ∈ state.requests, request.data.serial = request.id ∧
    ∃ waiting, waiting.issues request.kind = true ∧
      state.fiber request.data.fiber = .wait waiting request.id .unset
  distinct : (state.requests.map Socket.Request.id).Nodup
  /-- So was a close in progress, and the handle's data is that promise. -/
  closing : state.tcp.closing = true → state.tcp.closed = false → ∃ fib closer serial,
    state.tcp.data = .promise ⟨fib, serial⟩ ∧
      state.fiber fib = .wait (.closeHandle closer) serial .unset
  /-- A promise that is not resolved still has its request or its close. -/
  awaited : ∀ fib waiting serial, state.fiber fib = .wait waiting serial .unset →
    (∃ closer, waiting = .closeHandle closer ∧ state.tcp.data = .promise ⟨fib, serial⟩ ∧
      state.tcp.closing = true ∧ state.tcp.closed = false) ∨
    ∃ request ∈ state.requests, request.id = serial ∧ request.data = ⟨fib, serial⟩
  /-- No callback of a registered request has run. -/
  unanswered : ∀ request ∈ state.requests, ∀ status, .callback request.id status ∉ state.log
  /-- A resolved promise has its own status, from its own callback. -/
  resolved : ∀ fib waiting serial result,
    state.fiber fib = .wait waiting serial (.set result) →
      (∃ closer, waiting = .closeHandle closer ∧ result = .ok () ∧ state.tcp.closed = true) ∨
      ∃ status, .callback serial status ∈ state.log ∧ result = checkUvStatus status
  /-- No request is answered twice, and the handle is closed once. -/
  once : ((state.log.filterMap Socket.Event.answer).map Prod.fst).Nodup
  closedOnce : state.log.countP Socket.Event.isHandleClosed = if state.tcp.closed then 1 else 0
  /-- `alloc_callback` and `read_callback` find the socket. -/
  readData : state.tcp.watching = true → state.tcp.data = .socket
  /-- No callback has followed a pointer to something else. -/
  sound : state.fault = false

/-- What libuv has in hand for a server socket. -/
structure ServerRequests (state : Server.State Fib Sock) : Prop where
  suspended : ∀ request ∈ state.requests, request.data.serial = request.id ∧
    state.fiber request.data.fiber = .wait .getaddrinfo request.id .unset
  distinct : (state.requests.map Server.Request.id).Nodup
  closing : state.tcp.closing = true → state.tcp.closed = false → ∃ fib closer serial,
    state.tcp.data = .promise ⟨fib, serial⟩ ∧
      state.fiber fib = .wait (.closeHandle closer) serial .unset
  awaited : ∀ fib waiting serial, state.fiber fib = .wait waiting serial .unset →
    (∃ closer, waiting = .closeHandle closer ∧ state.tcp.data = .promise ⟨fib, serial⟩ ∧
      state.tcp.closing = true ∧ state.tcp.closed = false) ∨
    ∃ request ∈ state.requests, request.id = serial ∧ request.data = ⟨fib, serial⟩
  unanswered : ∀ request ∈ state.requests, ∀ status, .callback request.id status ∉ state.log
  resolved : ∀ fib waiting serial result,
    state.fiber fib = .wait waiting serial (.set result) →
      (∃ closer, waiting = .closeHandle closer ∧ result = .ok () ∧ state.tcp.closed = true) ∨
      ∃ status, .callback serial status ∈ state.log ∧ result = checkUvStatus status
  once : ((state.log.filterMap Server.Event.answer).map Prod.fst).Nodup
  closedOnce : state.log.countP Server.Event.isHandleClosed = if state.tcp.closed then 1 else 0
  /-- The server's `connection_callback` finds the server socket. -/
  connectionData : state.tcp.listening = true → state.tcp.closing = false →
    state.tcp.data = .server
  sound : state.fault = false

theorem mem_of_socket_answer {log : List (Socket.Event Fib)} {serial : Nat} {status : Int}
    (listed : (serial, status) ∈ log.filterMap Socket.Event.answer) :
    .callback serial status ∈ log := by
  obtain ⟨event, member, answer⟩ := List.mem_filterMap.mp listed
  cases event with
  | callback id reported =>
      cases answer
      exact member
  | _ => cases answer

theorem mem_of_server_answer {log : List (Server.Event Fib Sock)} {serial : Nat}
    {status : Int} (listed : (serial, status) ∈ log.filterMap Server.Event.answer) :
    .callback serial status ∈ log := by
  obtain ⟨event, member, answer⟩ := List.mem_filterMap.mp listed
  cases event with
  | callback id reported =>
      cases answer
      exact member
  | _ => cases answer

theorem socketRequests_of {state : Socket.State Fib} (owned : Socket.Owned state)
    (accounted : Socket.Accounted state) : SocketRequests state where
  suspended := owned.pending
  distinct := owned.distinct
  closing := by
    intro closing unclosed
    obtain ⟨fib, closer, serial, awaits⟩ := (owned.closing closing).2 unclosed
    exact ⟨fib, closer, serial, (owned.handle _ _ _ _ awaits).2.1, awaits⟩
  awaited := by
    intro fib waiting serial awaits
    rcases owned.registered fib waiting serial awaits with ⟨closer, rfl⟩ | registered
    · obtain ⟨closing, data, ran⟩ := owned.handle _ _ _ _ awaits
      exact .inl ⟨closer, rfl, data, closing, by simpa using ran⟩
    · exact .inr registered
  unanswered := by
    intro request member status ran
    apply accounted.ledger.unanswered request.id
      (List.mem_map_of_mem (List.mem_map_of_mem member))
    exact List.mem_map.mpr ⟨(request.id, status), List.mem_filterMap.mpr ⟨_, ran, rfl⟩, rfl⟩
  resolved := by
    intro fib waiting serial result isSet
    cases waiting with
    | closeHandle closer =>
        have closed := (owned.handle _ _ _ _ isSet).2.2
        exact .inl ⟨closer, rfl, accounted.ended _ _ _ _ rfl
          (Socket.Fiber.promise_eq_set_iff.mpr isSet), by simpa using closed⟩
    | getaddrinfo | connect | write | shutdown _ =>
        obtain ⟨status, listed, judged⟩ :=
          accounted.ledger.own serial result
            ⟨fib, _, rfl, Socket.Fiber.promise_eq_set_iff.mpr isSet⟩
        exact .inr ⟨status, mem_of_socket_answer listed, judged⟩
  once := accounted.ledger.once
  closedOnce := accounted.ends
  readData := fun watching => (owned.object (owned.watched watching)).1
  sound := owned.sound

theorem serverRequests_of {state : Server.State Fib Sock} (owned : Server.Owned state)
    (accounted : Server.Accounted state) : ServerRequests state where
  suspended := owned.pending
  distinct := owned.distinct
  closing := by
    intro closing unclosed
    obtain ⟨fib, closer, serial, awaits⟩ := owned.closing closing unclosed
    exact ⟨fib, closer, serial, (owned.handle _ _ _ _ awaits).2.1, awaits⟩
  awaited := by
    intro fib waiting serial awaits
    cases waiting with
    | getaddrinfo => exact .inr (owned.registered fib serial awaits)
    | closeHandle closer =>
        obtain ⟨closing, data, ran⟩ := owned.handle _ _ _ _ awaits
        exact .inl ⟨closer, rfl, data, closing, by simpa using ran⟩
  unanswered := by
    intro request member status ran
    apply accounted.ledger.unanswered request.id
      (List.mem_map_of_mem (List.mem_map_of_mem member))
    exact List.mem_map.mpr ⟨(request.id, status), List.mem_filterMap.mpr ⟨_, ran, rfl⟩, rfl⟩
  resolved := by
    intro fib waiting serial result isSet
    cases waiting with
    | closeHandle closer =>
        have closed := (owned.handle _ _ _ _ isSet).2.2
        exact .inl ⟨closer, rfl, accounted.ended _ _ _ _ rfl
          (Server.Fiber.promise_eq_set_iff.mpr isSet), by simpa using closed⟩
    | getaddrinfo =>
        obtain ⟨status, listed, judged⟩ := accounted.ledger.own serial result
          ⟨fib, .getaddrinfo, rfl, Server.Fiber.promise_eq_set_iff.mpr isSet⟩
        exact .inr ⟨status, mem_of_server_answer listed, judged⟩
  once := accounted.ledger.once
  closedOnce := accounted.ends
  connectionData := fun _ live => (owned.object live).1
  sound := owned.sound

section Reachable

variable [DecidableEq Fib] [Fintype Fib] [DecidableEq Sock] [Fintype Sock] [DecidableEq Serv]
  [Fintype Serv] {states : State Fib Sock Serv}

/-- In every reachable state of the library, each request and each handle
close in progress belongs to a suspended call, and each promise is resolved
once, by the callback of its own request. -/
theorem requests_belong_to_suspended_calls
    (reachable : (machine Fib Sock Serv).Reachable Machine.AnyStep states) :
    (∀ name, SocketRequests (socketOf states name)) ∧
      ∀ name, ServerRequests (serverOf states name) := by
  have admits : ∀ (states : State Fib Sock Serv) (object : Object Sock Serv)
      (action : object.Action Fib), Machine.AnyStep states
        (⟨object, action⟩ : (object : Object Sock Serv) × object.Action Fib) →
          Each Machine.AnyStep Machine.AnyStep object (states object) action := by
    intro states object action _
    cases object <;> trivial
  constructor
  · intro name
    have socket := socket_reachable reachable admits name
    exact socketRequests_of (Socket.reachable_owned socket) (Socket.reachable_accounted socket)
  · intro name
    have server := server_reachable reachable admits name
    exact serverRequests_of (Server.reachable_owned server) (Server.reachable_accounted server)

end Reachable

/-- A `connect` and a `bind` wait for their addresses while a `write` on the
same socket is answered and a second socket is being closed. -/
theorem requests_belong_to_connect_write_bind_and_close :
    ∃ states : State (Fin 4) (Fin 2) (Fin 1),
      (machine (Fin 4) (Fin 2) (Fin 1)).exec (initially (fun _ => 0) 0)
        [⟨.socket 0, Socket.Action.connect 0 0⟩, ⟨.socket 0, Socket.Action.write 1 [7] 0⟩,
          ⟨.server 0, Server.Action.bind 2 "localhost" 80 0⟩,
          ⟨.socket 1, Socket.Action.close 3 uvEnotconn⟩,
          ⟨.socket 0, Socket.Action.complete 1 uvEconnreset⟩] = some states ∧
      (socketOf states 0).requests.length = 1 ∧ (serverOf states 0).requests.length = 1 ∧
      (socketOf states 1).tcp.closing = true ∧
      (∀ name, SocketRequests (socketOf states name)) ∧
        ∀ name, ServerRequests (serverOf states name) := by
  have first : (machine (Fin 4) (Fin 2) (Fin 1)).Reachable Machine.AnyStep
      (initially (fun _ => 0) 0) := .start (initially_init _ _)
  have reachable := first.exec (Machine.along_anyStep _ _)
    (rfl : (machine (Fin 4) (Fin 2) (Fin 1)).exec (initially (fun _ => 0) 0)
      [⟨.socket 0, Socket.Action.connect 0 0⟩, ⟨.socket 0, Socket.Action.write 1 [7] 0⟩,
        ⟨.server 0, Server.Action.bind 2 "localhost" 80 0⟩,
        ⟨.socket 1, Socket.Action.close 3 uvEnotconn⟩,
        ⟨.socket 0, Socket.Action.complete 1 uvEconnreset⟩] = some _)
  exact ⟨_, rfl, rfl, rfl, rfl, requests_belong_to_suspended_calls reachable⟩

end Fiberio.World
