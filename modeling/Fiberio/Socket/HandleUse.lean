import Fiberio.Foundation.Trace
import Fiberio.Socket.Ownership

/-!
Owns the question whether the TCP handle is used after `uv_close`. Every
operation tests `closed_` and then calls libuv; `connect` alone suspends, in
name resolution, between the test and the call, so exactly the runs in which
it comes back to a closed handle use one.

Does not own how a close ends.
-/

namespace Fiberio.Socket

open Fiberio.Foundation

variable {Fib : Type}

/-! ## Uses of the handle in the log -/

def Event.isUvClose : Event Fib → Bool
  | .uvClose => true
  | _ => false

/-- The calls that need a handle that is not closing. -/
def Event.usesHandle : Event Fib → Bool
  | .uvTcpConnect | .uvReadStart | .uvWrite | .uvShutdown => true
  | _ => false

/-! ## One step -/

/-- `getaddrinfo` has answered with an address. -/
def Fiber.isResolved : Fiber → Bool
  | .wait .getaddrinfo _ (.set (.ok _)) => true
  | _ => false

/-- When `connect` comes back from a successful name resolution, the handle
has not been closed. -/
def ConnectsLive (state : State Fib) : Action Fib → Prop
  | .resume fib _ => (state.fiber fib).isResolved = true → state.tcp.closing = false
  | _ => True

instance (state : State Fib) : (action : Action Fib) → Decidable (ConnectsLive state action)
  | .resume fib _ => inferInstanceAs
      (Decidable ((state.fiber fib).isResolved = true → state.tcp.closing = false))
  | .connect _ _ | .read _ _ _ | .write _ _ _ | .close _ _ | .destroy _ _ | .complete _ _
  | .readCallback _ _ | .onHandleClosed => .isTrue trivial

/-- What a step may append to the log. -/
structure Appends (state : State Fib) (action : Action Fib) (after : State Fib)
    (events : List (Event Fib)) : Prop where
  log : after.log = state.log ++ events
  closed : state.tcp.closing = true → ConnectsLive state action →
    events.any Event.usesHandle = false
  ordered : usedAfter Event.isUvClose Event.usesHandle events = false
  closing : after.tcp.closing = (state.tcp.closing || events.any Event.isUvClose)

variable [DecidableEq Fib] {state after entered : State Fib} {fib : Fib} {action : Action Fib}

omit [DecidableEq Fib] in
/-- A step that is only possible on an open socket. -/
theorem Appends.ofOpen {events : List (Event Fib)} (owned : Owned state)
    (isOpen : state.closed = false) (log : after.log = state.log ++ events)
    (ordered : usedAfter Event.isUvClose Event.usesHandle events = false)
    (closing : after.tcp.closing = (state.tcp.closing || events.any Event.isUvClose)) :
    Appends state action after events := by
  refine ⟨log, fun isClosing => ?_, ordered, closing⟩
  exact absurd (isClosing.symm.trans (owned.live isOpen)) (by decide)

omit [DecidableEq Fib] in
/-- A step that neither uses nor closes the handle. -/
theorem Appends.ofQuiet {events : List (Event Fib)} (log : after.log = state.log ++ events)
    (unused : events.any Event.usesHandle = false)
    (unclosed : events.any Event.isUvClose = false)
    (closing : after.tcp.closing = state.tcp.closing) : Appends state action after events := by
  refine ⟨log, fun _ _ => unused, usedAfter_of_unended unclosed, ?_⟩
  rw [closing, unclosed, Bool.or_false]

omit [DecidableEq Fib] in
theorem ReadEntry.log {status : Int} {call : ReadCall}
    (entry : ReadEntry state fib action status call entered) :
    (∃ events, entered.log = state.log ++ events ∧ events.any Event.usesHandle = false ∧
      events.any Event.isUvClose = false) ∧ entered.closed = state.closed ∧
      entered.tcp = state.tcp := by
  cases entry with
  | start _ _ _ => exact ⟨⟨[], by simp, rfl, rfl⟩, rfl, rfl⟩
  | @again call _ _ _ _ _ _ _ =>
      exact ⟨⟨[.chunk call.id _], rfl, rfl, rfl⟩, rfl, rfl⟩

omit [DecidableEq Fib] in
theorem CloseEntry.log {status : Int} {closer : Closer}
    (entry : CloseEntry state fib action status closer entered) :
    entered.log = state.log ∧ entered.tcp = state.tcp := by
  cases entry <;> exact ⟨rfl, rfl⟩

/-- The events of an exception that leaves `close`. -/
theorem closeThrew_log (state : State Fib) (fib : Fib) (closer : Closer) (exc : Exc) :
    ∃ events, (state.closeThrew fib closer exc).log = state.log ++ .closeThrew exc :: events ∧
      events.any Event.usesHandle = false ∧ events.any Event.isUvClose = false ∧
      (state.closeThrew fib closer exc).tcp = state.tcp := by
  cases closer with
  | user => exact ⟨[.finished fib .close (.threw exc)], by simp [State.closeThrew], rfl, rfl, rfl⟩
  | eof call =>
      exact ⟨[.finished fib .read (.threw exc)], by simp [State.closeThrew], rfl, rfl, rfl⟩
  | destructor => exact ⟨[], by simp [State.closeThrew], rfl, rfl, rfl⟩

omit [DecidableEq Fib] in
/-- The events of a close that was entered and suspends, or throws. -/
theorem CloseEntry.appends {status : Int} {closer : Closer}
    (entry : CloseEntry state fib action status closer entered) (events : List (Event Fib))
    (owned : Owned state) (isOpen : state.closed = false)
    (log : after.log = entered.log ++ .uvShutdown :: events)
    (ordered : usedAfter Event.isUvClose Event.usesHandle events = false)
    (closing : after.tcp.closing = (entered.tcp.closing || events.any Event.isUvClose)) :
    ∃ events, Appends state action after events := by
  obtain ⟨sameLog, sameTcp⟩ := entry.log
  refine ⟨.uvShutdown :: events, ?_⟩
  refine .ofOpen owned isOpen (sameLog ▸ log) ?_ (by rw [closing, sameTcp]; rfl)
  rw [usedAfter, ordered]
  rfl

omit [DecidableEq Fib] in
/-- The events of a read that was entered on an open socket. -/
theorem ReadEntry.appends {status : Int} {call : ReadCall}
    (entry : ReadEntry state fib action status call entered) (events : List (Event Fib))
    (owned : Owned state)
    (isOpen : entered.closed = false) (log : after.log = entered.log ++ events)
    (unclosed : events.any Event.isUvClose = false)
    (closing : after.tcp.closing = entered.tcp.closing) :
    ∃ events, Appends state action after events := by
  obtain ⟨⟨earlier, earlierLog, _, earlierUnclosed⟩, sameClosed, sameTcp⟩ := entry.log
  have allUnclosed : (earlier ++ events).any Event.isUvClose = false := by
    rw [List.any_append, earlierUnclosed, unclosed]
    rfl
  refine ⟨earlier ++ events, .ofOpen owned (sameClosed ▸ isOpen) ?_
    (usedAfter_of_unended allUnclosed) ?_⟩
  · rw [log, earlierLog, List.append_assoc]
  · rw [allUnclosed, closing, sameTcp, Bool.or_false]

theorem Transition.appends (transition : Transition state action after) (owned : Owned state) :
    ∃ events, Appends state action after events := by
  cases transition with
  | @ends events fib _ operation outcome calls _ _ _ quiet _ _ _ =>
      let ending : Event Fib := .finished fib operation outcome
      have unclosed : (events ++ [ending]).any Event.isUvClose = false := by
        rw [List.any_append, Bool.or_eq_false_iff]
        refine ⟨List.any_eq_false.mpr fun event member => ?_, rfl⟩
        cases quiet event member <;> simp [Event.isUvClose]
      refine ⟨events ++ [ending], by simp [ending], fun closing live => ?_,
        usedAfter_of_unended unclosed, by rw [unclosed]; simp⟩
      have closed : state.closed = true := (owned.closing closing).1
      rw [List.any_append, Bool.or_eq_false_iff]
      refine ⟨List.any_eq_false.mpr fun event member => ?_, rfl⟩
      cases quiet event member with
      | uvGetaddrinfo _ => simp [Event.usesHandle]
      | uvWrite isOpen => exact absurd (isOpen.symm.trans closed) (by decide)
      | uvTcpConnect resumed resolved =>
          subst resumed
          exact absurd (closing.symm.trans (live (by rw [resolved]; rfl))) (by decide)
      | refused _ _ => simp [Event.usesHandle]
  | resolves _ isOpen =>
      exact ⟨[.uvGetaddrinfo], .ofOpen owned isOpen (by simp) rfl (by simp [Event.isUvClose])⟩
  | connects resolved =>
      refine ⟨[.uvTcpConnect], by simp, fun closing live => ?_, rfl, by simp [Event.isUvClose]⟩
      exact absurd (closing.symm.trans (live (by rw [resolved]; rfl))) (by decide)
  | writes _ isOpen _ =>
      exact ⟨[.uvWrite], .ofOpen owned isOpen (by simp) rfl (by simp [Event.isUvClose])⟩
  | @admits _ _ _ call _ entry isOpen _ _ =>
      exact entry.appends [.admitted call.id, .uvReadStart] owned isOpen (by simp) rfl (by simp)
  | @rejects fib _ _ call _ exc entry isOpen _ _ =>
      exact entry.appends [.admitted call.id, .uvReadStart, .finished fib .read (.threw exc)]
        owned isOpen (by simp) rfl (by simp)
  | @readsNull fib _ _ call entered entry isOpen _ _ =>
      exact entry.appends [.admitted call.id, .uvReadStart, .finished fib .read
          (.returned (call.result entered.memory (toSize (toInt64 call.size))))]
        owned isOpen (by simp) rfl (by simp)
  | waitsAgain _ _ _ => exact ⟨[], .ofQuiet (by simp) rfl rfl (by simp)⟩
  | readFails _ _ _ => exact ⟨[_], .ofQuiet (by simp; rfl) rfl rfl (by simp)⟩
  | readReturns _ _ => exact ⟨[_, _], .ofQuiet (by simp; exact ⟨rfl, rfl⟩) rfl rfl (by simp)⟩
  | readStops _ _ => exact ⟨[_, _], .ofQuiet (by simp; exact ⟨rfl, rfl⟩) rfl rfl (by simp)⟩
  | shutsDown entry isOpen _ =>
      exact entry.appends [] owned isOpen (by simp) rfl (by simp)
  | closesAtOnce entry isOpen _ =>
      exact entry.appends [.uvClose] owned isOpen (by simp) rfl (by simp [Event.isUvClose])
  | @closeFails fib _ _ closer entered exc entry isOpen _ _ =>
      obtain ⟨events, log, unused, unclosed, handle⟩ :=
        closeThrew_log { entered.emit .uvShutdown with closed := true } fib closer exc
      exact entry.appends (.closeThrew exc :: events) owned isOpen (by rw [log]; simp)
        (usedAfter_of_unended unclosed) (by rw [handle]; simp [unclosed, Event.isUvClose])
  | @closes fib closer serial _ _ shut _ =>
      exact ⟨[.uvClose], by simp, fun _ _ => rfl, rfl, by simp [Event.isUvClose]⟩
  | @shutdownFails fib closer _ exc _ _ _ =>
      obtain ⟨events, log, unused, unclosed, handle⟩ := closeThrew_log state fib closer exc
      exact ⟨.closeThrew exc :: events, .ofQuiet log (by simp [unused, Event.usesHandle])
        (by simp [unclosed, Event.isUvClose]) (by rw [handle])⟩
  | closeReturnsToUser _ =>
      exact ⟨[_, _, _], .ofQuiet (by simp; exact ⟨rfl, rfl, rfl⟩) rfl rfl (by simp)⟩
  | closeReturnsToDestructor _ =>
      exact ⟨[_, _, _], .ofQuiet (by simp; exact ⟨rfl, rfl, rfl⟩) rfl rfl (by simp)⟩
  | closeReturnsToRead _ _ _ =>
      exact ⟨[_, _, _, _], .ofQuiet (by simp; exact ⟨rfl, rfl, rfl, rfl⟩) rfl rfl (by simp)⟩
  | closeStopsRead _ _ =>
      exact ⟨[_, _, _, _], .ofQuiet (by simp; exact ⟨rfl, rfl, rfl, rfl⟩) rfl rfl (by simp)⟩
  | destroysClosed _ _ => exact ⟨[_], .ofQuiet (by simp; rfl) rfl rfl (by simp)⟩
  | completes _ _ _ => exact ⟨[_], .ofQuiet (by simp; rfl) rfl rfl (by simp)⟩
  | delivers _ _ _ =>
      exact ⟨[_, _, _], .ofQuiet (by simp; exact ⟨rfl, rfl, rfl⟩) rfl rfl (by simp)⟩
  | handleCloses _ _ _ _ => exact ⟨[_], .ofQuiet (by simp; rfl) rfl rfl (by simp)⟩

/-- A `connect` that comes back to a closed handle does use it. -/
theorem resume_uses_handle {status : Int} (resolved : (state.fiber fib).isResolved = true)
    (stepped : state.resume fib status = some after) :
    ∃ events, after.log = state.log ++ .uvTcpConnect :: events := by
  unfold Fiber.isResolved at resolved
  split at resolved
  · rename_i serial value answered
    unfold State.resume at stepped
    rw [answered] at stepped
    cases stepped
    unfold State.resumeWith State.connectResolved
    simp only
    split
    · exact ⟨_, by simp; rfl⟩
    · exact ⟨[], by simp⟩
  · cases resolved

/-! ## Whole runs -/

variable [Fintype Fib]

/-- On a closed handle a step uses it exactly when it resumes such a
`connect`. -/
theorem step_writes (owned : Owned state) (stepped : (machine Fib).step state action = some after) :
    ∃ events, Machine.Writes State.log Event.isUvClose Event.usesHandle
      (fun state => state.tcp.closing) ConnectsLive state action after events := by
  obtain ⟨events, appends⟩ := (step_transition owned stepped).appends owned
  refine ⟨events, appends.log, appends.ordered, appends.closing, fun closing => ?_,
    fun notClosing => ?_⟩
  · refine ⟨fun unused => ?_, appends.closed closing⟩
    cases action with
    | resume fib status =>
        intro resolved
        have stepped : state.step (.resume fib status) = some after := stepped
        obtain ⟨_, resumed⟩ := Option.ite_none_left_eq_some.mp stepped
        obtain ⟨rest, log⟩ := resume_uses_handle resolved resumed
        have same : events = .uvTcpConnect :: rest :=
          List.append_cancel_left (appends.log.symm.trans log)
        rw [same, List.any_cons] at unused
        cases unused
    | _ => trivial
  · cases action with
    | resume fib status => exact fun _ => notClosing
    | _ => trivial

/-- In a run of any number of fibers, no call uses the TCP handle after
`uv_close` if and only if every `connect` that comes back from a successful
name resolution finds the handle not yet closed. -/
theorem handle_unused_after_close_iff {memory : Memory UInt8} {actions : List (Action Fib)}
    {final : State Fib} (run : (machine Fib).exec (initial memory) actions = some final) :
    usedAfter Event.isUvClose Event.usesHandle final.log = false ↔
      (machine Fib).Along ConnectsLive (initial memory) actions := by
  have steps : ∀ before action after, Owned before →
      (machine Fib).step before action = some after →
        Owned after ∧ ∃ events, Machine.Writes State.log Event.isUvClose Event.usesHandle
          (fun state => state.tcp.closing) ConnectsLive before action after events := by
    intro before action after owned stepped
    exact ⟨(step_transition owned stepped).owned owned, step_writes owned stepped⟩
  have blamed := Machine.usedAfter_exec_iff run (Owned.initial memory) rfl steps
  rw [blamed]
  exact and_iff_right rfl

/-- `connect` is back from name resolution before the handle is closed; its
request is cancelled, and a write that comes later is refused. -/
theorem handle_unused_when_resolved_first :
    ∃ final : State (Fin 2), (machine (Fin 2)).exec (initial fun _ => 0)
        [.connect 0 0, .complete 0 0, .resume 0 0, .close 1 uvEnotconn, .complete 1 uvEcanceled,
          .resume 0 0, .onHandleClosed, .resume 1 0, .write 0 [1] 0] = some final ∧
      usedAfter Event.isUvClose Event.usesHandle final.log = false := by
  obtain ⟨final, run⟩ : ∃ final : State (Fin 2), (machine (Fin 2)).exec (initial fun _ => 0)
      [.connect 0 0, .complete 0 0, .resume 0 0, .close 1 uvEnotconn, .complete 1 uvEcanceled,
        .resume 0 0, .onHandleClosed, .resume 1 0, .write 0 [1] 0] = some final := ⟨_, rfl⟩
  exact ⟨final, run, (handle_unused_after_close_iff run).mpr (by decide +kernel)⟩

/-- Another fiber closes the socket while `connect` is in name resolution;
`uv_tcp_connect` is then issued on the closed handle. -/
theorem uvTcpConnect_after_uvClose :
    ∃ final : State (Fin 2), (machine (Fin 2)).exec (initial fun _ => 0)
        [.connect 0 0, .close 1 uvEnotconn, .complete 0 0, .resume 0 uvEinval] = some final ∧
      usedAfter Event.isUvClose Event.usesHandle final.log = true :=
  ⟨_, rfl, rfl⟩

end Fiberio.Socket
