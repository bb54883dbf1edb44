import Fiberio.Echo.Loop

/-!
Owns what the echo server gives back. Whatever the client and libuv do, the
client receives a prefix of the bytes that it has written itself, and the
server's fiber ends with an exception, never by the condition of its loop. In a
run without errors it ends because the client's stream has ended, and by then
every byte of the client has been sent back.

Does not own that the fiber comes to its end.
-/

namespace Fiberio.Echo

open Fiberio.Foundation
open Fiberio.Connection.Direction

/-- No error status is delivered, at either end. -/
def Undisturbed {Fib : Type} (_ : State Fib) : Action Fib → Prop
  | .atClient action => action.Succeeds
  | .atServer action => action.Succeeds
  | .turn status => 0 ≤ status
  | .sendUp _ | .finishUp | .sendDown _ | .finishDown => True

variable {Fib : Type} [DecidableEq Fib] [Fintype Fib] {buf : Nat} {calm : Prop}
  {state after : State Fib}

/-! ## What one step does to each end -/

inductive Transition (buf : Nat) (state : State Fib) : Action Fib → State Fib → Prop where
  | atClient {action : Socket.Action Fib} {client : Socket.State Fib}
      (answers : mayAnswer state.up state.client action = true)
      (reports : mayReport state.down (queuedBy state.server.socket) state.client action = true)
      (stepped : (Socket.machine Fib).step state.client action = some client) :
      Transition buf state (.atClient action) { state with client := client }
  | atServer {action : Socket.Action Unit} {socket : Socket.State Unit}
      (noCall : action.caller = none)
      (answers : mayAnswer state.down state.server.socket action = true)
      (reports : mayReport state.up (queuedBy state.client) state.server.socket action = true)
      (stepped : (Socket.machine Unit).step state.server.socket action = some socket) :
      Transition buf state (.atServer action)
        { state with server := { state.server with socket := socket } }
  | turns {status : Int} {server : Server}
      (turned : state.server.turn buf status = some server) :
      Transition buf state (.turn status) { state with server := server }
  | sendsUp {count : Nat} (allowed : maySend state.up state.client count = true) :
      Transition buf state (.sendUp count) { state with up := state.up.send count }
  | finishesUp (allowed : mayFinish state.up state.client = true) :
      Transition buf state .finishUp { state with up := state.up.finish }
  | sendsDown {count : Nat} (allowed : maySend state.down state.server.socket count = true) :
      Transition buf state (.sendDown count) { state with down := state.down.send count }
  | finishesDown (allowed : mayFinish state.down state.server.socket = true) :
      Transition buf state .finishDown { state with down := state.down.finish }

theorem step_transition {action : Action Fib}
    (stepped : (machine Fib buf).step state action = some after) :
    Transition buf state action after := by
  cases action with
  | atClient action =>
      obtain ⟨allowed, stepped⟩ := Option.ite_none_right_eq_some.mp stepped
      obtain ⟨client, step, rfl⟩ := Option.map_eq_some_iff.mp stepped
      rw [Bool.and_eq_true] at allowed
      exact .atClient allowed.1 allowed.2 step
  | atServer action =>
      obtain ⟨⟨noCall, answers, reports⟩, stepped⟩ := Option.ite_none_right_eq_some.mp stepped
      obtain ⟨socket, step, rfl⟩ := Option.map_eq_some_iff.mp stepped
      exact .atServer noCall answers reports step
  | turn status =>
      obtain ⟨server, turned, rfl⟩ := Option.map_eq_some_iff.mp stepped
      exact .turns turned
  | sendUp count =>
      obtain ⟨allowed, result⟩ := Option.ite_none_right_eq_some.mp stepped
      cases result
      exact .sendsUp allowed
  | finishUp =>
      obtain ⟨allowed, result⟩ := Option.ite_none_right_eq_some.mp stepped
      cases result
      exact .finishesUp allowed
  | sendDown count =>
      obtain ⟨allowed, result⟩ := Option.ite_none_right_eq_some.mp stepped
      cases result
      exact .sendsDown allowed
  | finishDown =>
      obtain ⟨allowed, result⟩ := Option.ite_none_right_eq_some.mp stepped
      cases result
      exact .finishesDown allowed

/-! ## A turn of the lambda as a step of its socket -/

/-- A turn leaves the socket alone, or calls it. -/
inductive Turn (server : Server) (status : Int) (next : Server) : Prop where
  | stays (same : next.socket = server.socket)
  | calls (action : Socket.Action Unit) (called : action.caller = some ())
      (sized : Socket.SizedReads server.socket action)
      (succeeds : 0 ≤ status → action.Succeeds)
      (stepped : (Socket.machine Unit).step server.socket action = some next.socket)

theorem turn_cases {server next : Server} {status : Int}
    (turned : server.turn buf status = some next) : Turn server status next := by
  unfold Server.turn at turned
  split at turned
  · split at turned
    · cases turned
      exact .stays rfl
    · obtain ⟨socket, stepped, rfl⟩ := Option.map_eq_some_iff.mp turned
      refine .calls (.read () (.read buf bufSize) status) rfl ?_ id stepped
      obtain ⟨_, stepped⟩ := Option.ite_none_left_eq_some.mp stepped
      obtain ⟨enabled, _⟩ := Option.ite_none_right_eq_some.mp stepped
      rw [Bool.and_eq_true] at enabled
      have buffer : buf ≠ 0 := by
        intro null
        simp [Socket.ReadRequest.hasBuffer, null, bufSize] at enabled
      exact ⟨buffer, by decide, by decide⟩
  · split at turned
    · obtain ⟨socket, stepped, rfl⟩ := Option.map_eq_some_iff.mp turned
      exact .calls (.write () _ status) rfl trivial id stepped
    · cases turned
      exact .stays rfl
    · cases turned
  · split at turned
    · cases turned
      exact .stays rfl
    · cases turned
      exact .stays rfl
    · cases turned
  · obtain ⟨socket, stepped, rfl⟩ := Option.map_eq_some_iff.mp turned
    exact .calls (.destroy () status) rfl trivial id stepped
  · cases turned

omit [DecidableEq Fib] [Fintype Fib] in
/-- A call is neither an answer nor a report. -/
theorem call_allowed {pipe other : Pipe} {queued : List UInt8} {socket : Socket.State Fib}
    {action : Socket.Action Fib} {fib : Fib} (called : action.caller = some fib) :
    mayAnswer pipe socket action = true ∧ mayReport other queued socket action = true := by
  cases action with
  | resume _ _ | complete _ _ | readCallback _ _ | onHandleClosed => cases called
  | _ => exact ⟨rfl, rfl⟩

/-! ## The ends on their own -/

/-- The runs in which a step is undisturbed if the run is to be calm. -/
def Admits (calm : Prop) (state : State Fib) (action : Action Fib) : Prop :=
  calm → Undisturbed state action

theorem client_reachable (reachable : (machine Fib buf).Reachable (Admits calm) state) :
    (Socket.machine Fib).Reachable (fun _ action => calm → action.Succeeds) state.client := by
  apply reachable.project
  · intro first initial
    obtain ⟨memoryC, memoryS, rfl⟩ := initial
    exact ⟨memoryC, rfl⟩
  · intro before action after admitted stepped
    cases step_transition stepped with
    | atClient _ _ step => exact .inr ⟨_, admitted, step⟩
    | _ => exact .inl rfl

theorem server_reachable (reachable : (machine Fib buf).Reachable (Admits calm) state) :
    (Socket.machine Unit).Reachable
      (fun socket action => Socket.SizedReads socket action ∧ (calm → action.Succeeds))
      state.server.socket := by
  apply reachable.project
  · intro first initial
    obtain ⟨memoryC, memoryS, rfl⟩ := initial
    exact ⟨memoryS, rfl⟩
  · intro before action after admitted stepped
    cases step_transition stepped with
    | @atServer action socket noCall _ _ step =>
        have sized : Socket.SizedReads before.server.socket action := by
          cases action with
          | read _ _ _ => cases noCall
          | _ => trivial
        exact .inr ⟨action, ⟨sized, admitted⟩, step⟩
    | turns turned =>
        cases turn_cases turned with
        | stays same => exact .inl same
        | calls action _ sized succeeds step =>
            exact .inr ⟨action, ⟨sized, fun isCalm => succeeds (admitted isCalm)⟩, step⟩
    | _ => exact .inl rfl

/-! ## The whole system -/

/-- Both directions and the loop between them. -/
structure Sound (calm : Prop) (buf : Nat) (state : State Fib) : Prop where
  up : Carries calm state.up state.client state.server.socket
  down : Carries calm state.down state.server.socket state.client
  phase : Phase calm buf state.server.socket state.server.pc

/-- What is known of the two ends in a reachable state. -/
structure Known (calm : Prop) (state : State Fib) : Prop where
  client : Socket.Owned state.client
  server : Socket.Owned state.server.socket
  owns : Socket.ReaderOwns state.server.socket
  clientShut : calm → Socket.ShutFirst state.client
  serverShut : calm → Socket.ShutFirst state.server.socket

theorem reachable_known (reachable : (machine Fib buf).Reachable (Admits calm) state) :
    Known calm state := by
  have client := client_reachable reachable
  have server := server_reachable reachable
  refine ⟨Socket.reachable_owned client, Socket.reachable_owned server,
    Socket.reachable_readerOwns server fun _ _ admitted => admitted.1, ?_, ?_⟩
  · intro isCalm
    exact Socket.reachable_shutFirst (client.mono fun _ _ succeeds => succeeds isCalm)
  · intro isCalm
    exact Socket.reachable_shutFirst (server.mono fun _ _ admitted => admitted.2 isCalm)

theorem Transition.sound {action : Action Fib} (transition : Transition buf state action after)
    (sound : Sound calm buf state) (known : Known calm state)
    (admitted : Admits calm state action) : Sound calm buf after := by
  cases transition with
  | atClient answers reports stepped =>
      have transition := Socket.step_transition known.client stepped
      exact ⟨sound.up.atSender transition answers, sound.down.atReceiver transition reports,
        sound.phase⟩
  | atServer noCall answers reports stepped =>
      have transition := Socket.step_transition known.server stepped
      exact ⟨sound.up.atReceiver transition reports, sound.down.atSender transition answers,
        sound.phase.event known.server known.owns stepped noCall admitted⟩
  | @turns status server turned =>
      have phase := sound.phase.turn known.server turned admitted
      cases turn_cases turned with
      | stays same =>
          refine ⟨?_, ?_, phase⟩
          · show Carries calm state.up state.client server.socket
            rw [same]
            exact sound.up
          · show Carries calm state.down server.socket state.client
            rw [same]
            exact sound.down
      | calls action called _ _ stepped =>
          have transition := Socket.step_transition known.server stepped
          obtain ⟨answers, reports⟩ := call_allowed called
          exact ⟨sound.up.atReceiver transition reports, sound.down.atSender transition answers,
            phase⟩
  | sendsUp allowed => exact ⟨sound.up.send allowed, sound.down, sound.phase⟩
  | finishesUp allowed =>
      exact ⟨sound.up.finish known.client known.clientShut allowed, sound.down, sound.phase⟩
  | sendsDown allowed => exact ⟨sound.up, sound.down.send allowed, sound.phase⟩
  | finishesDown allowed =>
      exact ⟨sound.up, sound.down.finish known.server known.serverShut allowed, sound.phase⟩

theorem reachable_sound (reachable : (machine Fib buf).Reachable (Admits calm) state) :
    Sound calm buf state := by
  apply reachable.invariant_under fun _ => reachable_known
  · intro first initial
    obtain ⟨memoryC, memoryS, rfl⟩ := initial
    refine ⟨.initial memoryC memoryS, .initial memoryS memoryC, ?_⟩
    exact .testing rfl ⟨rfl, rfl, rfl⟩
  · intro before action after known sound admitted stepped
    exact (step_transition stepped).sound sound known admitted

/-- Nothing is asked of a run that need not be calm. -/
theorem reachable_admits (reachable : (machine Fib buf).Reachable Machine.AnyStep state) :
    (machine Fib buf).Reachable (Admits False) state :=
  reachable.mono fun _ _ _ isCalm => isCalm.elim

/-! ## What the echo server promises -/

omit [DecidableEq Fib] [Fintype Fib] in
/-- The lambda is out of its loop, with an exception. -/
theorem Sound.leaves {exc : Option Exc} (sound : Sound calm buf state)
    (left : state.server.pc = .leaving exc ∨ state.server.pc = .finished exc) :
    ∃ thrown, exc = some thrown ∧ Leaves calm thrown state.server.socket := by
  have phase := sound.phase
  rcases left with leaving | finished
  · rw [leaving] at phase
    cases phase with
    | leaving _ leaves => exact ⟨_, rfl, leaves⟩
  · rw [finished] at phase
    cases phase with
    | finished leaves => exact ⟨_, rfl, leaves⟩

/-- In every run, with any number of fibers at the client and any statuses from
libuv, the client has received a prefix of what the server has queued, the
server has queued a prefix of what it has received, and that is a prefix of
what the client has written. -/
theorem echo_gives_back_only_what_was_written
    (reachable : (machine Fib buf).Reachable Machine.AnyStep state) :
    state.client.tcp.delivered <+: queuedBy state.server.socket ∧
      queuedBy state.server.socket <+: state.server.socket.tcp.delivered ∧
      state.server.socket.tcp.delivered <+: queuedBy state.client := by
  have sound := reachable_sound (reachable_admits reachable)
  exact ⟨sound.down.received_prefix, sound.phase.echoes, sound.up.received_prefix⟩

/-- In every run the lambda finds its socket open whenever it tests
`client.is_open()`, so it leaves the loop with an exception or not at all. -/
theorem echo_leaves_by_exception
    (reachable : (machine Fib buf).Reachable Machine.AnyStep state) :
    (state.server.pc = .testing → state.server.socket.closed = false) ∧
      ∀ exc, state.server.pc = .leaving exc ∨ state.server.pc = .finished exc → exc ≠ none := by
  have sound := reachable_sound (reachable_admits reachable)
  constructor
  · intro testing
    have phase := sound.phase
    rw [testing] at phase
    cases phase with
    | testing _ ready => exact ready.isOpen
  · intro exc left
    obtain ⟨thrown, rfl, _⟩ := sound.leaves left
    simp

/-- A client writes three bytes and reads one back; the server's second
`uv_write` fails. -/
private def brokenOff : List (Action (Fin 2)) :=
  [.turn 0, .atClient (.write 0 [1, 2, 3] 0), .sendUp 3, .atServer (.readCallback 2 [1, 2]),
    .atServer (.resume () 0), .turn 0, .atClient (.read 1 (.read 50 8) 0), .sendDown 1,
    .atClient (.readCallback 1 [1]), .sendDown 1, .atServer (.complete 0 0),
    .atServer (.resume () 0), .turn 0, .turn 0, .atServer (.readCallback 1 [3]),
    .atServer (.resume () 0), .turn uvEinval, .turn 0]

theorem echo_of_broken_connection :
    ∃ state : State (Fin 2), (machine (Fin 2) 100).Reachable Machine.AnyStep state ∧
      state.client.tcp.delivered = [1] ∧ queuedBy state.server.socket = [1, 2] ∧
      queuedBy state.client = [1, 2, 3] ∧
      state.client.tcp.delivered <+: queuedBy state.server.socket := by
  have first : (machine (Fin 2) 100).Reachable Machine.AnyStep
      (initial (fun _ => 0) (fun _ => 0)) := .start ⟨_, _, rfl⟩
  have reachable := first.exec (Machine.along_anyStep _ _)
    (rfl : (machine (Fin 2) 100).exec (initial (fun _ => 0) (fun _ => 0)) brokenOff = some _)
  exact ⟨_, reachable, rfl, rfl, rfl, (echo_gives_back_only_what_was_written reachable).1⟩

theorem echo_leaves_broken_connection :
    ∃ (state : State (Fin 2)) (exc : Option Exc),
      (machine (Fin 2) 100).Reachable Machine.AnyStep state ∧
        state.server.pc = .leaving exc ∧ exc ≠ none := by
  have first : (machine (Fin 2) 100).Reachable Machine.AnyStep
      (initial (fun _ => 0) (fun _ => 0)) := .start ⟨_, _, rfl⟩
  have reachable := first.exec (Machine.along_anyStep _ _)
    (rfl : (machine (Fin 2) 100).exec (initial (fun _ => 0) (fun _ => 0)) brokenOff = some _)
  exact ⟨_, _, reachable, rfl, (echo_leaves_by_exception reachable).2 _ (.inl rfl)⟩

/-- In a run without errors the lambda leaves with `socket_closed_error`, after
the client's stream has ended; every byte that the client has written has then
been queued, in order, and sent back. -/
theorem echo_gives_back_everything
    (reachable : (machine Fib buf).Reachable Undisturbed state) {exc : Option Exc}
    (left : state.server.pc = .leaving exc ∨ state.server.pc = .finished exc) :
    exc = some .socketClosedError ∧ .readCallback uvEof ∈ state.server.socket.log ∧
      queuedBy state.server.socket = queuedBy state.client ∧
        state.down.sent = (queuedBy state.client).length := by
  have admitted : (machine Fib buf).Reachable (Admits True) state :=
    reachable.mono fun _ _ undisturbed _ => undisturbed
  have sound := reachable_sound admitted
  have known := reachable_known admitted
  obtain ⟨thrown, rfl, leaves⟩ := sound.leaves left
  obtain ⟨rfl, isOver⟩ := leaves.calmly trivial
  have whole : queuedBy state.server.socket = queuedBy state.client :=
    isOver.echoed.trans (sound.up.received_all trivial isOver.seen)
  have ended := sound.down.shut ((known.serverShut trivial).closing isOver.closing)
  refine ⟨rfl, isOver.seen, whole, ?_⟩
  rw [← whole]
  exact sound.down.drained trivial ended

/-- A client writes three bytes, reads two of them back and closes; the server
reads them in two pieces and then the end of the stream. -/
theorem echo_of_three_bytes :
    ∃ (state : State (Fin 1)) (exc : Option Exc),
      (machine (Fin 1) 100).Reachable Undisturbed state ∧ state.server.pc = .finished exc ∧
        exc = some .socketClosedError ∧ queuedBy state.client = [1, 2, 3] ∧
        queuedBy state.server.socket = queuedBy state.client ∧
        state.down.sent = (queuedBy state.client).length := by
  have first : (machine (Fin 1) 100).Reachable Undisturbed
      (initial (fun _ => 0) (fun _ => 0)) := .start ⟨_, _, rfl⟩
  have reachable := first.exec
    (Machine.along_of_forall (by simp [Undisturbed, Socket.Action.Succeeds]) _)
    (rfl : (machine (Fin 1) 100).exec (initial (fun _ => 0) (fun _ => 0))
      [.turn 0, .atClient (.write 0 [1, 2, 3] 0), .sendUp 3, .atClient (.complete 0 0),
        .atClient (.resume 0 0), .atServer (.readCallback 2 [1, 2]), .atServer (.resume () 0),
        .turn 0, .sendDown 2, .atServer (.complete 0 0), .atServer (.resume () 0),
        .atClient (.read 0 (.read 50 8) 0), .atClient (.readCallback 2 [1, 2]),
        .atClient (.resume 0 0), .turn 0, .turn 0, .atServer (.readCallback 1 [3]),
        .atServer (.resume () 0), .turn 0, .sendDown 1, .atServer (.complete 1 0),
        .atServer (.resume () 0), .turn 0, .turn 0, .atClient (.close 0 0), .finishUp,
        .atClient (.complete 1 0), .atClient (.resume 0 0), .atClient .onHandleClosed,
        .atClient (.resume 0 0), .atServer (.readCallback uvEof []), .atServer (.resume () 0),
        .finishDown, .atServer (.complete 2 0), .atServer (.resume () 0),
        .atServer .onHandleClosed, .atServer (.resume () 0), .turn 0, .turn 0, .turn 0] =
          some _)
  obtain ⟨thrown, _, whole, sent⟩ := echo_gives_back_everything reachable (.inr rfl)
  exact ⟨_, _, reachable, rfl, thrown, rfl, whole, sent⟩

end Fiberio.Echo
