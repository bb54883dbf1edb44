import Fiberio.Foundation.Trace
import Fiberio.Server.Ownership

/-!
Owns which calls use the TCP handle of a server socket after `uv_close`.
`accept` looks at `closed_` before it does; `bind` and `listen` do not, so
they still call libuv on the handle of a closed server. The theorem names the
steps that do so, and says that `accept` is none of them.

Does not own what libuv answers there.
-/

namespace Fiberio.Server

open Fiberio.Foundation

variable {Fib Sock : Type}

/-! ## Events -/

/-- The libuv calls on the TCP handle, other than `uv_close`. -/
def Event.usesHandle : Event Fib Sock → Bool
  | .uvTcpBind | .uvTcpGetsockname | .uvListen | .uvAccept _ _ _ _ => true
  | _ => false

def Event.isUvAccept : Event Fib Sock → Bool
  | .uvAccept _ _ _ _ => true
  | _ => false

theorem Event.usesHandle_of_isUvAccept {event : Event Fib Sock}
    (isUvAccept : event.isUvAccept = true) : event.usesHandle = true := by
  cases event <;> first | rfl | cases isUvAccept

def Event.isUvClose : Event Fib Sock → Bool
  | .uvClose => true
  | _ => false

/-- The fiber is in `bind` and its name was resolved. -/
def Fiber.isResolved : Fiber Sock → Bool
  | .wait .getaddrinfo _ (.set (.ok _)) => true
  | _ => false

/-- A `listen`, and a `bind` that comes back from name resolution, find the
server open. -/
def UsesOpen (state : State Fib Sock) : Action Fib Sock → Prop
  | .listen _ _ => state.closed = false
  | .resume fib _ => (state.fiber fib).isResolved = true → state.closed = false
  | _ => True

instance (state : State Fib Sock) : (action : Action Fib Sock) → Decidable (UsesOpen state action)
  | .listen _ _ => inferInstanceAs (Decidable (state.closed = false))
  | .resume fib _ => inferInstanceAs
      (Decidable ((state.fiber fib).isResolved = true → state.closed = false))
  | .bind _ _ _ _ | .accept _ _ _ | .close _ | .destroy _ | .unwound _ | .complete _ _
  | .connectionCallback _ | .onHandleClosed => .isTrue trivial

theorem usesOpen_of_open {state : State Fib Sock} (isOpen : state.closed = false)
    (action : Action Fib Sock) : UsesOpen state action := by
  cases action with
  | listen _ _ => exact isOpen
  | resume _ _ => exact fun _ => isOpen
  | _ => trivial

/-! ## What one step writes -/

/-- The events of one step. -/
structure Appends (state : State Fib Sock) (action : Action Fib Sock) (after : State Fib Sock)
    (events : List (Event Fib Sock)) : Prop where
  writes : Machine.Writes State.log Event.isUvClose Event.usesHandle State.closed UsesOpen state
    action after events
  accepts : state.closed = true → events.any Event.isUvAccept = false

section Steps

variable {state after : State Fib Sock} {fib : Fib} {action : Action Fib Sock}
  {events : List (Event Fib Sock)}

theorem any_isUvAccept (unused : events.any Event.usesHandle = false) :
    events.any Event.isUvAccept = false := by
  rw [List.any_eq_false] at unused ⊢
  exact fun event member accepts =>
    unused event member (Event.usesHandle_of_isUvAccept accepts)

/-- As far as `accept` goes, every step leaves a closed handle alone. -/
theorem Appends.acceptWrites (appends : Appends state action after events) :
    Machine.Writes State.log Event.isUvClose Event.isUvAccept State.closed Machine.AnyStep state
      action after events where
  appended := appends.writes.appended
  ordered := usedAfter_mono (fun _ => Event.usesHandle_of_isUvAccept) appends.writes.ordered
  ended_eq := appends.writes.ended_eq
  used := fun closed => iff_of_true (appends.accepts closed) trivial
  free := fun _ => trivial

/-- A step that neither uses nor closes the handle. -/
theorem Appends.ofQuiet (log : after.log = state.log ++ events)
    (unused : events.any Event.usesHandle = false) (unclosed : events.any Event.isUvClose = false)
    (closed : after.closed = state.closed) (live : UsesOpen state action) :
    Appends state action after events where
  writes :=
    { appended := log
      ordered := usedAfter_of_unended unclosed
      ended_eq := by rw [closed, unclosed, Bool.or_false]
      used := fun _ => iff_of_true unused live
      free := fun _ => live }
  accepts := fun _ => any_isUvAccept unused

/-- A step that is only possible on an open server. -/
theorem Appends.ofOpen (isOpen : state.closed = false) (log : after.log = state.log ++ events)
    (ordered : usedAfter Event.isUvClose Event.usesHandle events = false)
    (closed : after.closed = events.any Event.isUvClose) : Appends state action after events where
  writes :=
    { appended := log
      ordered := ordered
      ended_eq := by rw [closed, isOpen, Bool.false_or]
      used := fun isClosed => absurd (isOpen.symm.trans isClosed) (by decide)
      free := fun _ => usesOpen_of_open isOpen action }
  accepts := fun isClosed => absurd (isOpen.symm.trans isClosed) (by decide)

/-- A step that uses the handle, not for `accept`, without looking at
`closed_`. -/
theorem Appends.ofUse (log : after.log = state.log ++ events)
    (uses : events.any Event.usesHandle = true)
    (acceptless : events.any Event.isUvAccept = false)
    (unclosed : events.any Event.isUvClose = false) (closed : after.closed = state.closed)
    (blames : state.closed = true → ¬ UsesOpen state action) :
    Appends state action after events where
  writes :=
    { appended := log
      ordered := usedAfter_of_unended unclosed
      ended_eq := by rw [closed, unclosed, Bool.or_false]
      used := fun isClosed => iff_of_false (by simp [uses]) (blames isClosed)
      free := fun isOpen => usesOpen_of_open isOpen action }
  accepts := fun _ => acceptless

theorem AcceptEntry.usesOpen {status : Int} {socket : Sock}
    (entry : AcceptEntry state fib action status socket) : UsesOpen state action := by
  cases entry with
  | call _ => trivial
  | woken notified =>
      intro resolved
      rw [notified] at resolved
      cases resolved

/-- A `bind` back from name resolution is to blame on a closed server. -/
theorem resolved_blames {serial : Nat} {answers : Answers Sock}
    (answered : state.fiber fib = .wait .getaddrinfo serial (.set (.ok ())))
    (closed : state.closed = true) : ¬ UsesOpen state (.resume fib answers) := by
  intro live
  have isOpen : state.closed = false := live (by rw [answered]; rfl)
  exact absurd (isOpen.symm.trans closed) (by decide)

theorem Ends.appends {operation : Operation} {outcome : Outcome Sock} {host : String}
    {port : UInt16} (ends : Ends state fib action operation outcome events host port)
    (log : after.log = state.log ++ (events ++ [.finished fib operation outcome]))
    (closed : after.closed = state.closed) :
    Appends state action after (events ++ [.finished fib operation outcome]) := by
  cases ends with
  | lookupFails _ _ => exact .ofQuiet log rfl rfl closed trivial
  | unresolved answered =>
      refine .ofQuiet log rfl rfl closed fun resolved => ?_
      rw [answered] at resolved
      cases resolved
  | bindFails answered _ => exact .ofUse log rfl rfl rfl closed (resolved_blames answered)
  | nameFails answered _ _ => exact .ofUse log rfl rfl rfl closed (resolved_blames answered)
  | binds answered _ _ => exact .ofUse log rfl rfl rfl closed (resolved_blames answered)
  | listenFails _ _ =>
      exact .ofUse log rfl rfl rfl closed fun isClosed isOpen =>
        absurd (isOpen.symm.trans isClosed) (by decide)
  | acceptStops entry _ => exact .ofQuiet log rfl rfl closed entry.usesOpen
  | acceptUnwinds _ => exact .ofQuiet log rfl rfl closed trivial
  | closesAgain _ _ => exact .ofQuiet log rfl rfl closed trivial

variable [DecidableEq Fib]

theorem Transition.appends (transition : Transition state action after) :
    ∃ events, Appends state action after events := by
  cases transition with
  | ends ends => exact ⟨_, ends.appends (by simp) rfl⟩
  | resolves _ => exact ⟨[.uvGetaddrinfo], .ofQuiet rfl rfl rfl rfl trivial⟩
  | @listens fib _ _ =>
      refine ⟨[.uvListen, .finished fib .listen .returned], .ofUse (by simp) rfl rfl rfl rfl ?_⟩
      exact fun isClosed isOpen => absurd (isOpen.symm.trans isClosed) (by decide)
  | waits _ _ isOpen => exact ⟨[], .ofOpen isOpen (by simp) rfl isOpen⟩
  | @accepts fib _ status socket _ _ isOpen _ _ =>
      exact ⟨[.uvAccept fib state.tcp.held.head? socket status,
        .finished fib .accept (.accepted socket)], .ofOpen isOpen (by simp) rfl isOpen⟩
  | @acceptFails fib _ status socket _ _ _ isOpen _ =>
      exact ⟨[.uvAccept fib state.tcp.held.head? socket status],
        .ofOpen isOpen (by simp) rfl isOpen⟩
  | closes _ isOpen => exact ⟨[.uvClose], .ofOpen isOpen rfl rfl rfl⟩
  | @closeReturns fib closer _ _ _ ran =>
      refine ⟨[.notifyAll, .closeReturned, .finished fib closer.operation .returned],
        .ofQuiet (by simp) rfl rfl (by simp) fun resolved => ?_⟩
      rw [ran] at resolved
      cases resolved
  | @destroysClosed fib _ _ =>
      exact ⟨[.finished fib .destroy .returned], .ofQuiet rfl rfl rfl rfl trivial⟩
  | @completes id status _ _ _ =>
      exact ⟨[.callback id status], .ofQuiet rfl rfl rfl rfl trivial⟩
  | @connects status _ _ _ =>
      exact ⟨[.connectionCallback status, .notifyAll],
        .ofQuiet (by simp) rfl rfl rfl trivial⟩
  | handleCloses _ _ _ => exact ⟨[.onHandleClosed], .ofQuiet rfl rfl rfl rfl trivial⟩

end Steps

/-! ## Whole runs -/

variable [DecidableEq Fib] [Fintype Fib]

/-- In a run of any number of fibers, no call uses the handle of the server
after `uv_close` if and only if every `listen`, and every `bind` that comes
back from name resolution, finds the server open. In no run does `accept` use
it then. -/
theorem server_handle_unused_after_close_iff {port : UInt16} {actions : List (Action Fib Sock)}
    {final : State Fib Sock} (run : (machine Fib Sock).exec (initial port) actions = some final) :
    (usedAfter Event.isUvClose Event.usesHandle final.log = false ↔
      (machine Fib Sock).Along UsesOpen (initial port) actions) ∧
      usedAfter Event.isUvClose Event.isUvAccept final.log = false := by
  have steps : ∀ before action after, Owned before →
      (machine Fib Sock).step before action = some after →
        Owned after ∧ ∃ events, Appends before action after events := by
    intro before action after owned stepped
    have transition := step_transition owned stepped
    exact ⟨transition.owned owned, transition.appends⟩
  have blamed := Machine.usedAfter_exec_iff run (Owned.initial port) rfl
    fun before action after owned stepped => (steps before action after owned stepped).imp_right
      fun ⟨events, appends⟩ => ⟨events, appends.writes⟩
  have accepts := Machine.usedAfter_exec_iff run (Owned.initial port) rfl
    fun before action after owned stepped => (steps before action after owned stepped).imp_right
      fun ⟨events, appends⟩ => ⟨events, appends.acceptWrites⟩
  refine ⟨?_, accepts.mpr ⟨rfl, Machine.along_anyStep _ _⟩⟩
  rw [blamed]
  exact and_iff_right rfl

/-- A server is closed while one fiber sleeps in `accept` and another waits
for its name, which turns out not to resolve: nothing uses the handle. -/
theorem server_handle_unused_when_unresolved :
    ∃ final : State (Fin 3) Unit, (machine (Fin 3) Unit).exec (initial 0)
        [.listen 0 0, .accept 0 0 (), .bind 1 "localhost" 80 0, .close 2, .complete 0 uvEinval,
          .resume 1 ⟨0, 0, .other, ()⟩, .onHandleClosed, .resume 2 ⟨0, 0, .other, ()⟩,
          .resume 0 ⟨0, 0, .other, ()⟩, .accept 1 0 ()] = some final ∧
      usedAfter Event.isUvClose Event.usesHandle final.log = false := by
  obtain ⟨final, run⟩ : ∃ final : State (Fin 3) Unit, (machine (Fin 3) Unit).exec (initial 0)
      [.listen 0 0, .accept 0 0 (), .bind 1 "localhost" 80 0, .close 2, .complete 0 uvEinval,
        .resume 1 ⟨0, 0, .other, ()⟩, .onHandleClosed, .resume 2 ⟨0, 0, .other, ()⟩,
        .resume 0 ⟨0, 0, .other, ()⟩, .accept 1 0 ()] = some final := ⟨_, rfl⟩
  exact ⟨final, run, (server_handle_unused_after_close_iff run).1.mpr (by decide +kernel)⟩

end Fiberio.Server
