import Fiberio.World.Model
import Fiberio.Socket.PublicErrors
import Fiberio.Server.PublicErrors

/-!
Owns the question which exceptions leave the public operations of the library:
the private `uv_error` and a bare `std::runtime_error` do, for the statuses
and the states that the condition here names.

Does not own the texts of the exceptions.
-/

namespace Fiberio.World

open Fiberio.Foundation

variable {Fib Sock Serv : Type}

/-- Every status that reaches an operation other than `connect` is
non-negative, `UV_ENOTCONN`, `UV_EBADF` or `UV_EAI_ADDRFAMILY`, and no
`accept` runs into a closed server socket. -/
def MeetsPublicStatus (states : State Fib Sock Serv)
    (move : (object : Object Sock Serv) × object.Action Fib) : Prop :=
  Each Socket.MeetsPublicStatus Server.MeetsPublicStatus move.1 (states move.1) move.2

instance [DecidableEq Sock] (states : State Fib Sock Serv) :
    (move : (object : Object Sock Serv) × object.Action Fib) →
      Decidable (MeetsPublicStatus states move)
  | ⟨.socket name, action⟩ => Socket.decidableMeetsPublicStatus (socketOf states name) action
  | ⟨.server name, action⟩ => Server.decidableMeetsPublicStatus (serverOf states name) action

/-- Only public exceptions have left the operations of any object. -/
def OnlyPublicEscapes (states : State Fib Sock Serv) : Prop :=
  (∀ name, Socket.EscapesPublic (socketOf states name)) ∧
    ∀ name, Server.EscapesPublic (serverOf states name)

/-- In every run whose statuses meet the condition, only public exceptions
leave the operations. -/
theorem only_public_exceptions_escape [DecidableEq Fib] [Fintype Fib] [DecidableEq Sock]
    [Fintype Sock] [DecidableEq Serv] [Fintype Serv] {states : State Fib Sock Serv}
    (reachable : (machine Fib Sock Serv).Reachable MeetsPublicStatus states) :
    OnlyPublicEscapes states := by
  constructor
  · intro name
    have socket := socket_reachable reachable (fun _ _ _ meets => meets) name
    exact (Socket.reachable_public socket).escaped
  · intro name
    have server := server_reachable reachable (fun _ _ _ meets => meets) name
    exact (Server.reachable_public server).escaped

/-- A failed name resolution of `connect`, a write that finds the connection
gone, and a `bind` to an unsupported family throw public exceptions. -/
theorem public_exceptions_of_connect_write_bind :
    ∃ states : State (Fin 3) (Fin 1) (Fin 1),
      (machine (Fin 3) (Fin 1) (Fin 1)).exec (initially (fun _ => 0) 0)
        [⟨.socket 0, Socket.Action.connect 0 uvEmfile⟩,
          ⟨.socket 0, Socket.Action.write 1 [7] 0⟩,
          ⟨.socket 0, Socket.Action.complete 0 uvEnotconn⟩,
          ⟨.socket 0, Socket.Action.resume 1 uvEconnreset⟩,
          ⟨.server 0, Server.Action.bind 2 "::1" 80 uvEaiAddrfamily⟩] = some states ∧
      .finished 0 .connect (.threw (.ioError (.uv uvEmfile))) ∈ (socketOf states 0).log ∧
      .finished 1 .write (.threw .socketClosedError) ∈ (socketOf states 0).log ∧
      .finished 2 .bind (.threw .addressFamilyNotSupportedError) ∈ (serverOf states 0).log ∧
      OnlyPublicEscapes states := by
  have first : (machine (Fin 3) (Fin 1) (Fin 1)).Reachable MeetsPublicStatus
      (initially (fun _ => 0) 0) := .start (initially_init _ _)
  have reachable := first.exec (by decide +kernel)
    (rfl : (machine (Fin 3) (Fin 1) (Fin 1)).exec (initially (fun _ => 0) 0)
      [⟨.socket 0, Socket.Action.connect 0 uvEmfile⟩,
        ⟨.socket 0, Socket.Action.write 1 [7] 0⟩,
        ⟨.socket 0, Socket.Action.complete 0 uvEnotconn⟩,
        ⟨.socket 0, Socket.Action.resume 1 uvEconnreset⟩,
        ⟨.server 0, Server.Action.bind 2 "::1" 80 uvEaiAddrfamily⟩] = some _)
  exact ⟨_, rfl, by decide +kernel, by decide +kernel, by decide +kernel,
    only_public_exceptions_escape reachable⟩

/-- A write whose callback reports `UV_ECONNRESET` throws `uv_error`, and
`accept` on a closed server socket throws `std::runtime_error`. -/
theorem private_exceptions_of_write_and_accept :
    ∃ states : State (Fin 1) (Fin 2) (Fin 1),
      (machine (Fin 1) (Fin 2) (Fin 1)).exec (initially (fun _ => 0) 0)
        [⟨.socket 0, Socket.Action.write 0 [7] 0⟩,
          ⟨.socket 0, Socket.Action.complete 0 uvEconnreset⟩,
          ⟨.socket 0, Socket.Action.resume 0 0⟩,
          ⟨.server 0, Server.Action.close 0⟩,
          ⟨.server 0, Server.Action.onHandleClosed⟩,
          ⟨.server 0, Server.Action.resume 0 ⟨0, 0, .other, 1⟩⟩,
          ⟨.server 0, Server.Action.accept 0 0 1⟩] = some states ∧
      .finished 0 .write (.threw (.uvError uvEconnreset)) ∈ (socketOf states 0).log ∧
      .finished 0 .accept (.threw (.runtimeError "connection closed")) ∈
        (serverOf states 0).log ∧
      ¬ OnlyPublicEscapes states := by
  refine ⟨_, rfl, by decide +kernel, by decide +kernel, ?_⟩
  intro escapes
  have isPublic := escapes.1 0 0 .write (.uvError uvEconnreset) (by decide +kernel)
  simp [Exc.isIoError, Exc.isContainerError] at isPublic

end Fiberio.World
