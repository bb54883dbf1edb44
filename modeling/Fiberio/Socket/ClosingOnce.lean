import Fiberio.Socket.Answers
import Fiberio.Socket.Closing
import Fiberio.Socket.HandleUse

/-!
Owns that closing is one-way and happens once: whoever comes first (a user, a
read that met the end of the stream, the destructor) sets `closed_`, and every
operation that starts afterwards turns round at that flag.

Does not own how a close ends.
-/

namespace Fiberio.Socket

open Fiberio.Foundation

variable {Fib : Type} [DecidableEq Fib]

/-! ## The calls that close the handle -/

/-- Why a step may call `uv_close`: the shutdown request of the closing fiber
was answered, or `uv_shutdown` failed in the same step. -/
inductive ShutdownSettled (state : State Fib) (action : Action Fib) (events : List (Event Fib)) :
    Prop where
  | answered {fib : Fib} {closer : Closer} {serial : Nat} {status later : Int}
      (resumed : action = .resume fib later)
      (awaited : state.fiber fib =
        .wait (.shutdown closer) serial (.set (checkUvStatus status)))
      (attempted : .uvShutdown ∈ state.log) (callback : .callback serial status ∈ state.log)
      (unanswered : ∀ request ∈ state.requests, request.kind ≠ .shutdown)
  | failed {status : Int} (asked : state.shutdownStatus action = some status)
      (failed : Disconnected status) (events_eq : events = [.uvShutdown, .uvClose])

/-- What a step does to the flags and the log of a close. -/
inductive CloseStep (state : State Fib) (action : Action Fib) (after : State Fib)
    (events : List (Event Fib)) : Prop where
  | quiet (shutdowns : events.count .uvShutdown = 0) (closes : events.count .uvClose = 0)
      (closed : after.closed = state.closed) (closing : after.tcp.closing = state.tcp.closing)
  | attempts (shutdowns : events.count .uvShutdown = 1) (closes : events.count .uvClose = 0)
      (wasOpen : state.closed = false) (closed : after.closed = true)
      (closing : after.tcp.closing = state.tcp.closing)
  | closesAtOnce {status : Int} (asked : state.shutdownStatus action = some status)
      (failed : Disconnected status) (events_eq : events = [.uvShutdown, .uvClose])
      (wasOpen : state.closed = false) (closed : after.closed = true)
      (closing : after.tcp.closing = true)
  | closes {fib : Fib} {closer : Closer} {serial : Nat} {result : Except Exc Unit} {later : Int}
      (resumed : action = .resume fib later)
      (awaited : state.fiber fib = .wait (.shutdown closer) serial (.set result))
      (events_eq : events = [.uvClose]) (closed : after.closed = state.closed)
      (closing : after.tcp.closing = true)

theorem count_uvShutdown_eq_zero {events : List (Event Fib)}
    (unused : events.any Event.usesHandle = false) : events.count .uvShutdown = 0 := by
  apply List.count_eq_zero.mpr
  intro member
  exact List.any_eq_false.mp unused _ member rfl

theorem count_uvClose_eq_zero {events : List (Event Fib)}
    (unclosed : events.any Event.isUvClose = false) : events.count .uvClose = 0 := by
  apply List.count_eq_zero.mpr
  intro member
  exact List.any_eq_false.mp unclosed _ member rfl

section Inversion

variable {state after entered : State Fib} {fib : Fib} {action : Action Fib}

omit [DecidableEq Fib] in
/-- The events of an operation that ends quietly. -/
theorem QuietEvent.notClose {event : Event Fib} (quiet : QuietEvent state fib action event) :
    event ≠ .uvShutdown ∧ event ≠ .uvClose := by
  cases quiet <;> simp

theorem ReadEntry.closeStep {status : Int} {call : ReadCall}
    (entry : ReadEntry state fib action status call entered) (events : List (Event Fib))
    (log : after.log = entered.log ++ events) (shutdowns : events.count .uvShutdown = 0)
    (closes : events.count .uvClose = 0) (closed : after.closed = entered.closed)
    (closing : after.tcp.closing = entered.tcp.closing) :
    ∃ events, after.log = state.log ++ events ∧ CloseStep state action after events := by
  cases entry with
  | start _ _ _ => exact ⟨events, log, .quiet shutdowns closes closed closing⟩
  | @again call _ _ _ _ _ _ _ =>
      let obtained : Event Fib := .chunk call.id (state.memory.load call.buf (toSize state.len))
      refine ⟨obtained :: events, ?_, .quiet ?_ ?_ closed closing⟩
      · rw [log, State.leaveRead_log, List.append_assoc]
        rfl
      · simpa [obtained] using shutdowns
      · simpa [obtained] using closes

theorem Transition.closeStep (transition : Transition state action after) :
    ∃ events, after.log = state.log ++ events ∧ CloseStep state action after events := by
  cases transition with
  | @ends events fib _ operation outcome _ _ _ _ quiet _ _ _ =>
      refine ⟨events ++ [.finished fib operation outcome], by simp, .quiet ?_ ?_ rfl rfl⟩
      · have unshut := List.count_eq_zero.mpr fun member => (quiet _ member).notClose.1 rfl
        simp [List.count_append, unshut]
      · have unclosed := List.count_eq_zero.mpr fun member => (quiet _ member).notClose.2 rfl
        simp [List.count_append, unclosed]
  | admits entry _ _ _ => exact entry.closeStep _ (by simp; rfl) (by simp) (by simp) rfl rfl
  | rejects entry _ _ _ => exact entry.closeStep _ (by simp; rfl) (by simp) (by simp) rfl rfl
  | readsNull entry _ _ _ => exact entry.closeStep _ (by simp; rfl) (by simp) (by simp) rfl rfl
  | shutsDown entry isOpen _ =>
      refine ⟨[.uvShutdown], ?_, .attempts (by simp) (by simp) isOpen rfl ?_⟩
      · cases entry <;> simp
      · cases entry <;> rfl
  | closesAtOnce entry isOpen gone =>
      refine ⟨[.uvShutdown, .uvClose], ?_,
        .closesAtOnce (entry.shutdownStatus isOpen) gone rfl isOpen rfl rfl⟩
      cases entry <;> simp
  | @closeFails fib _ _ closer entered exc entry isOpen _ _ =>
      obtain ⟨events, log, unused, unclosed, tcp⟩ := closeThrew_log
        { entered.emit .uvShutdown with closed := true } fib closer exc
      obtain ⟨sameLog, sameTcp⟩ := entry.log
      refine ⟨.uvShutdown :: .closeThrew exc :: events, ?_, .attempts ?_ ?_ isOpen ?_ ?_⟩
      · rw [log, State.emit_log, sameLog]
        simp
      · simpa using count_uvShutdown_eq_zero unused
      · simpa using count_uvClose_eq_zero unclosed
      · cases closer <;> rfl
      · rw [tcp, ← sameTcp]
        rfl
  | @shutdownFails fib closer _ exc _ _ _ =>
      obtain ⟨events, log, unused, unclosed, tcp⟩ := closeThrew_log state fib closer exc
      refine ⟨.closeThrew exc :: events, log, .quiet ?_ ?_ ?_ ?_⟩
      · simpa using count_uvShutdown_eq_zero unused
      · simpa using count_uvClose_eq_zero unclosed
      · cases closer <;> rfl
      · rw [tcp]
  | closes shut _ => exact ⟨[.uvClose], rfl, .closes rfl shut rfl rfl rfl⟩
  | resolves _ _ => exact ⟨[.uvGetaddrinfo], rfl, .quiet (by simp) (by simp) rfl rfl⟩
  | connects _ => exact ⟨[.uvTcpConnect], rfl, .quiet (by simp) (by simp) rfl rfl⟩
  | writes _ _ _ => exact ⟨[.uvWrite], rfl, .quiet (by simp) (by simp) rfl rfl⟩
  | waitsAgain _ _ _ => exact ⟨[], by simp, .quiet rfl rfl rfl rfl⟩
  | _ => exact ⟨_, by simp; rfl, .quiet (by simp) (by simp) rfl rfl⟩

end Inversion

/-! ## Whole runs -/

/-- The flags record the calls that closed the handle. -/
structure CloseLog (state : State Fib) : Prop where
  shutdowns : state.log.count .uvShutdown = if state.closed then 1 else 0
  closes : state.log.count .uvClose = if state.tcp.closing then 1 else 0

section Steps

variable {state after : State Fib} {action : Action Fib} {events : List (Event Fib)}

theorem CloseStep.closeLog (step : CloseStep state action after events)
    (log : after.log = state.log ++ events) (owned : Owned state) (closeLog : CloseLog state) :
    CloseLog after := by
  constructor
  · rw [log, List.count_append, closeLog.shutdowns]
    cases step with
    | quiet shutdowns _ closed _ => rw [shutdowns, closed, Nat.add_zero]
    | attempts shutdowns _ wasOpen closed _ => simp [shutdowns, wasOpen, closed]
    | closesAtOnce _ _ events_eq wasOpen closed _ => simp [events_eq, wasOpen, closed]
    | closes _ _ events_eq closed _ => simp [events_eq, closed]
  · rw [log, List.count_append, closeLog.closes]
    cases step with
    | quiet _ closes _ closing => rw [closes, closing, Nat.add_zero]
    | attempts _ closes _ _ closing => rw [closes, closing, Nat.add_zero]
    | closesAtOnce _ _ events_eq wasOpen _ closing =>
        simp [events_eq, owned.live wasOpen, closing]
    | closes _ awaited events_eq _ closing =>
        simp [events_eq, owned.shutting _ _ _ _ awaited, closing]

theorem CloseStep.closed_mono (step : CloseStep state action after events)
    (closed : state.closed = true) : after.closed = true := by
  cases step with
  | quiet _ _ same _ => rw [same, closed]
  | attempts _ _ _ closed _ => exact closed
  | closesAtOnce _ _ _ _ closed _ => exact closed
  | closes _ _ _ same _ => rw [same, closed]

omit [DecidableEq Fib] in
/-- While a closing fiber has its answer, no shutdown request is pending. -/
theorem Owned.noShutdown {fib : Fib} {closer : Closer} {serial : Nat} {result : Except Exc Unit}
    (owned : Owned state)
    (awaited : state.fiber fib = .wait (.shutdown closer) serial (.set result)) :
    ∀ request ∈ state.requests, request.kind ≠ .shutdown := by
  intro request member isShutdown
  obtain ⟨_, waiting, issues, awaits⟩ := owned.pending request member
  rw [isShutdown] at issues
  obtain ⟨other, rfl⟩ : ∃ other, waiting = .shutdown other := by
    cases waiting <;> first | exact ⟨_, rfl⟩ | cases issues
  have same : request.data.fiber = fib :=
    owned.alone _ _ ⟨other, _, _, .inl awaits⟩ ⟨closer, _, _, .inl awaited⟩
  rw [same, awaited] at awaits
  cases awaits

theorem CloseStep.settled (step : CloseStep state action after events) (owned : Owned state)
    (accounted : Accounted state) (closeLog : CloseLog state) (closes : .uvClose ∈ events) :
    ShutdownSettled state action events := by
  cases step with
  | quiet _ none _ _ => exact absurd closes (List.count_eq_zero.mp none)
  | attempts _ none _ _ _ => exact absurd closes (List.count_eq_zero.mp none)
  | closesAtOnce asked failed events_eq _ _ _ => exact .failed asked failed events_eq
  | @closes fib closer serial result later resumed awaited _ _ _ =>
      obtain ⟨status, listed, rfl⟩ := accounted.ledger.own serial _
        ⟨fib, _, rfl, Fiber.promise_eq_set_iff.mpr awaited⟩
      have attempted : .uvShutdown ∈ state.log := by
        have closed := owned.closers fib ⟨closer, serial, _, .inl awaited⟩
        apply List.count_pos_iff.mp
        rw [closeLog.shutdowns, if_pos closed]
        exact Nat.one_pos
      have callback : .callback serial status ∈ state.log := by
        obtain ⟨event, logged, answer⟩ := List.mem_filterMap.mp listed
        cases event <;> cases answer
        exact logged
      exact .answered resumed awaited attempted callback (owned.noShutdown awaited)

end Steps

/-! ## Operations that start on a closed socket -/

/-- The operation ends at once, and neither libuv nor another fiber notices. -/
structure TurnsBack (state after : State Fib) (fib : Fib) (operation : Operation)
    (outcome : Outcome) : Prop where
  ended : after.fiber fib = .idle (some outcome)
  others : ∀ other, other ≠ fib → after.fiber other = state.fiber other
  log : after.log = state.log ++ [.finished fib operation outcome]
  closed : after.closed = state.closed
  reading : after.reading = state.reading
  buf : after.buf = state.buf
  len : after.len = state.len
  tcp : after.tcp = state.tcp
  requests : after.requests = state.requests

omit [DecidableEq Fib] in
/-- The operation of `socket_impl` that the action starts, and how it ends on
a socket that is closed already. -/
def Action.onClosed : Action Fib → Option (Fib × Operation × Outcome)
  | .connect fib _ => some (fib, .connect, .threw .socketClosedError)
  | .read fib (.read _ _) _ => some (fib, .read, .threw .socketClosedError)
  | .write fib _ _ => some (fib, .write, .threw .socketClosedError)
  | .close fib _ => some (fib, .close, .returned [])
  | _ => none

theorem turnsBack_finish {state base : State Fib} (fib : Fib) (operation : Operation)
    (outcome : Outcome) (same : base = { state with calls := base.calls }) :
    TurnsBack state (base.finish fib operation outcome) fib operation outcome := by
  rw [same]
  refine ⟨by simp, ?_, by simp, rfl, rfl, rfl, rfl, rfl, rfl⟩
  intro other differs
  simp [differs]

theorem read_turnsBack {state : State Fib} (fib : Fib) (call : ReadCall) (status : Int)
    (closed : state.closed = true) :
    TurnsBack state (state.read fib call status) fib .read (.threw .socketClosedError) := by
  rw [State.read, if_pos closed]
  exact turnsBack_finish _ _ _ rfl

variable [Fintype Fib]

theorem step_turnsBack {state after : State Fib} {action : Action Fib} {fib : Fib}
    {operation : Operation} {outcome : Outcome}
    (stepped : (machine Fib).step state action = some after) (closed : state.closed = true)
    (starts : action.onClosed = some (fib, operation, outcome)) :
    TurnsBack state after fib operation outcome := by
  obtain ⟨_, stepped⟩ := Option.ite_none_left_eq_some.mp stepped
  cases action with
  | connect caller status =>
      obtain ⟨_, result⟩ := Option.ite_none_right_eq_some.mp stepped
      cases starts
      cases result
      rw [State.connect, if_pos closed]
      exact turnsBack_finish _ _ _ rfl
  | read caller request status =>
      obtain ⟨_, result⟩ := Option.ite_none_right_eq_some.mp stepped
      cases request <;> cases starts
      cases result
      simp only [State.startRead, ReadRequest.first, State.read, if_pos closed]
      exact turnsBack_finish _ _ _ rfl
  | write caller data status =>
      obtain ⟨_, result⟩ := Option.ite_none_right_eq_some.mp stepped
      cases starts
      cases result
      rw [State.write, if_pos closed]
      exact turnsBack_finish _ _ _ rfl
  | close caller status =>
      obtain ⟨_, result⟩ := Option.ite_none_right_eq_some.mp stepped
      cases starts
      cases result
      rw [State.userClose, if_pos closed]
      exact turnsBack_finish _ _ _ rfl
  | destroy _ _ | resume _ _ | complete _ _ | readCallback _ _ | onHandleClosed => cases starts

/-! ## Closing is one-way and happens once -/

theorem reachable_closeLog {allowed : State Fib → Action Fib → Prop} {state : State Fib}
    (reachable : (machine Fib).Reachable allowed state) : CloseLog state := by
  apply reachable_invariant reachable
  · intro memory
    exact ⟨rfl, rfl⟩
  · intro before action after owned closeLog _ transition
    obtain ⟨events, log, step⟩ := transition.closeStep
    exact step.closeLog log owned closeLog

/-- `closed_` stays set over a whole run. -/
theorem Owned.closed_of_exec {state final : State Fib} {actions : List (Action Fib)}
    (owned : Owned state) (run : (machine Fib).exec state actions = some final)
    (closed : state.closed = true) : final.closed = true := by
  induction actions generalizing state with
  | nil =>
      cases run
      exact closed
  | cons action rest inductionHypothesis =>
      obtain ⟨after, stepped, tailRun⟩ := Machine.exec_cons_some run
      have transition := step_transition owned stepped
      obtain ⟨_, _, step⟩ := transition.closeStep
      exact inductionHypothesis (transition.owned owned) tailRun (step.closed_mono closed)

/-- Whoever closes the socket, and whatever libuv answers: `closed_` stays set
once it is set, `uv_shutdown` and `uv_close` are called at most once, the latter
only when the former has completed or failed, and an operation that starts
afterwards ends at once without touching anything. -/
theorem closing_is_one_way_once_and_idempotent {state : State Fib}
    (reachable : (machine Fib).Reachable Machine.AnyStep state) :
    (∀ actions final, (machine Fib).exec state actions = some final → state.closed = true →
      final.closed = true) ∧
    state.log.count .uvShutdown ≤ 1 ∧ state.log.count .uvClose ≤ 1 ∧
    (∀ action after, (machine Fib).step state action = some after →
      ∃ events, after.log = state.log ++ events ∧
        (.uvClose ∈ events → ShutdownSettled state action events)) ∧
    (∀ action after fib operation outcome, (machine Fib).step state action = some after →
      state.closed = true → action.onClosed = some (fib, operation, outcome) →
        TurnsBack state after fib operation outcome) ∧
    ∀ fib call status, state.closed = true →
      TurnsBack state (state.read fib call status) fib .read (.threw .socketClosedError) := by
  have owned := reachable_owned reachable
  have closeLog := reachable_closeLog reachable
  refine ⟨?_, ?_, ?_, ?_, ?_, ?_⟩
  · intro actions final run closed
    exact owned.closed_of_exec run closed
  · rw [closeLog.shutdowns]
    split <;> omega
  · rw [closeLog.closes]
    split <;> omega
  · intro action after stepped
    obtain ⟨events, log, step⟩ := (step_transition owned stepped).closeStep
    exact ⟨events, log, step.settled owned (reachable_accounted reachable) closeLog⟩
  · intro action after fib operation outcome stepped closed starts
    exact step_turnsBack stepped closed starts
  · intro fib call status closed
    exact read_turnsBack fib call status closed

/-- A close is half done and a reader has met the end of the stream when a third
fiber closes. -/
theorem second_close_turns_back :
    ∃ state after : State (Fin 3), (machine (Fin 3)).Reachable Machine.AnyStep state ∧
      (∃ call, state.fiber 0 = .waitRead true call) ∧ state.log.count .uvShutdown = 1 ∧
      TurnsBack state after 2 .close (.returned []) ∧ after.log.count .uvShutdown ≤ 1 := by
  have first : (machine (Fin 3)).Reachable Machine.AnyStep (initial fun _ => 0) :=
    .start ⟨_, rfl⟩
  have reachable := first.exec (Machine.along_anyStep _ _)
    (rfl : (machine (Fin 3)).exec (initial fun _ => 0)
      [.read 0 (.read 100 8) 0, .close 1 0, .readCallback uvEof []] = some _)
  obtain ⟨_, _, _, _, starts, _⟩ := closing_is_one_way_once_and_idempotent reachable
  have later := reachable.exec (Machine.along_anyStep _ _)
    (rfl : (machine (Fin 3)).exec _ [.close 2 0] = some _)
  obtain ⟨_, once, _⟩ := closing_is_one_way_once_and_idempotent later
  have turnsBack := starts (.close 2 0) _ _ _ _ rfl rfl rfl
  exact ⟨_, _, reachable, ⟨_, rfl⟩, by decide +kernel, turnsBack, once⟩

end Fiberio.Socket
