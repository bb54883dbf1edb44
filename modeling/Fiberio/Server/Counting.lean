import Fiberio.Server.Ownership

/-!
Owns the comparison of `pending_connections_` with the queue that libuv
keeps. The two agree as long as every connection callback reports a
connection: `on_connection` counts failed ones too.

Does not own who is woken for a connection.
-/

namespace Fiberio.Server

open Fiberio.Foundation

variable {Fib Sock : Type}

/-! ## Connections in the log -/

/-- The connection a `uv_accept` found, if the event is one. -/
def Event.found : Event Fib Sock → Option (Option Nat)
  | .uvAccept _ connection _ _ => some connection
  | _ => none

/-- What the calls of `uv_accept` found in libuv's queue, in call order. -/
def taken (log : List (Event Fib Sock)) : List (Option Nat) := log.filterMap Event.found

/-- The first `count` connections, in the order of their arrival. -/
def arrivals (count : Nat) : List (Option Nat) := (List.range count).map some

theorem arrivals_succ (count : Nat) : arrivals (count + 1) = arrivals count ++ [some count] := by
  rw [arrivals, List.range_succ, List.map_append]
  rfl

@[simp] theorem taken_append (first second : List (Event Fib Sock)) :
    taken (first ++ second) = taken first ++ taken second := List.filterMap_append

/-- A connection callback reports a connection. -/
def ReportsConnection (_ : State Fib Sock) : Action Fib Sock → Prop
  | .connectionCallback status => 0 ≤ status
  | _ => True

/-! ## The count -/

/-- The count of an open server is the number of connections libuv holds. -/
def Exact (state : State Fib Sock) : Prop :=
  state.closed = false → state.pending = state.tcp.held.length

/-- Every connection is in libuv's queue or was taken out of it, in order. -/
structure Counted (state : State Fib Sock) : Prop where
  exact : Exact state
  nonnegative : 0 ≤ state.pending
  queue : state.closed = false →
    taken state.log ++ state.tcp.held.map some = arrivals state.arrived
  handed : taken state.log <+: arrivals state.arrived

namespace Counted

variable {state after : State Fib Sock}

theorem initial (port : UInt16) : Counted (initial port : State Fib Sock) :=
  ⟨fun _ => rfl, Int.le_refl 0, fun _ => rfl, List.nil_prefix⟩

/-- Neither the count nor the queue changes. -/
theorem same (counted : Counted state) (events : List (Event Fib Sock))
    (log : after.log = state.log ++ events) (none : taken events = [])
    (pending : after.pending = state.pending) (closed : after.closed = state.closed)
    (held : after.tcp.held = state.tcp.held) (arrived : after.arrived = state.arrived) :
    Counted after := by
  have logged : taken after.log = taken state.log := by
    rw [log, taken_append, none, List.append_nil]
  constructor
  · rw [Exact, closed, pending, held]
    exact counted.exact
  · rw [pending]
    exact counted.nonnegative
  · rw [closed, logged, held, arrived]
    exact counted.queue
  · rw [logged, arrived]
    exact counted.handed

/-- A connection is there whenever `accept` calls `uv_accept`. -/
theorem available (counted : Counted state) (isOpen : state.closed = false)
    (some : state.pending ≠ 0) : state.tcp.held ≠ [] := by
  intro empty
  have exact := counted.exact isOpen
  rw [empty] at exact
  exact some exact

/-- `uv_accept` takes the oldest connection out of the queue. -/
theorem take [DecidableEq Fib] {fib : Fib} {socket : Sock} {status : Int}
    (counted : Counted state) (isOpen : state.closed = false) (some : state.pending ≠ 0) :
    Counted (state.take fib socket status) := by
  have exact := counted.exact isOpen
  have queue := counted.queue isOpen
  cases held : state.tcp.held with
  | nil => exact absurd held (counted.available isOpen some)
  | cons connection rest =>
      rw [held] at exact queue
      have moved : taken (state.take fib socket status).log ++ rest.map Option.some =
          arrivals state.arrived := by
        rw [← queue]
        simp [taken, held, Event.found]
      constructor
      · intro _
        show state.pending - 1 = state.tcp.held.tail.length
        rw [held, exact, List.length_cons, List.tail_cons]
        omega
      · show 0 ≤ state.pending - 1
        rw [exact, List.length_cons]
        omega
      · intro _
        show _ ++ state.tcp.held.tail.map Option.some = _
        rw [held, List.tail_cons]
        exact moved
      · exact ⟨rest.map Option.some, moved⟩

/-- libuv reports a connection and `on_connection` counts it. -/
theorem arrive {status : Int} (counted : Counted state) (isOpen : state.closed = false)
    (reported : 0 ≤ status) (pending : after.pending = state.pending + 1)
    (held : after.tcp.held = (state.arrive status).tcp.held)
    (arrived : after.arrived = (state.arrive status).arrived)
    (log : taken after.log = taken state.log) : Counted after := by
  have reported : ¬ status < 0 := by omega
  rw [State.arrive_tcp_held, if_neg reported] at held
  rw [State.arrive_arrived, if_neg reported] at arrived
  have exact := counted.exact isOpen
  have queue : taken after.log ++ after.tcp.held.map some = arrivals after.arrived := by
    rw [log, held, arrived, arrivals_succ, ← counted.queue isOpen, List.map_append,
      List.append_assoc]
    rfl
  constructor
  · intro _
    rw [pending, held, exact, List.length_append, List.length_singleton]
    omega
  · have nonnegative := counted.nonnegative
    omega
  · exact fun _ => queue
  · exact ⟨_, queue⟩

/-- No `uv_accept` was called without a connection to take. -/
theorem none_not_mem (counted : Counted state) (fib : Fib) (socket : Sock) (status : Int) :
    .uvAccept fib none socket status ∉ state.log := by
  intro member
  have found : none ∈ taken state.log := List.mem_filterMap.mpr ⟨_, member, rfl⟩
  have listed : none ∈ arrivals state.arrived := counted.handed.subset found
  simp [arrivals] at listed

end Counted

theorem Ends.taken {state : State Fib Sock} {fib : Fib} {action : Action Fib Sock}
    {operation : Operation} {outcome : Outcome Sock} {events : List (Event Fib Sock)}
    {host : String} {port : UInt16}
    (ends : Ends state fib action operation outcome events host port) :
    Server.taken events = [] := by
  cases ends <;> rfl

theorem Transition.counted [DecidableEq Fib] {state after : State Fib Sock}
    {action : Action Fib Sock}
    (transition : Transition state action after) (owned : Owned state)
    (counted : Counted state) (reports : ReportsConnection state action) : Counted after := by
  cases transition with
  | @ends fib _ operation outcome events _ _ ends =>
      refine counted.same (events ++ [.finished fib operation outcome]) ?_ ?_ rfl rfl rfl rfl
      · simp
      · rw [taken_append, ends.taken]
        rfl
  | resolves _ => exact counted.same [.uvGetaddrinfo] rfl rfl rfl rfl rfl rfl
  | @listens fib _ _ =>
      refine counted.same [.uvListen, .finished fib .listen .returned] ?_ rfl rfl rfl rfl rfl
      simp
  | waits _ _ _ => exact counted.same [] (by simp) rfl rfl rfl rfl rfl
  | @accepts fib _ _ socket _ some isOpen _ _ =>
      exact (counted.take isOpen some).same [.finished fib .accept (.accepted socket)] rfl rfl
        rfl rfl rfl rfl
  | acceptFails _ some isOpen _ =>
      exact (counted.take isOpen some).same [] (List.append_nil _).symm rfl rfl rfl rfl rfl
  | closes _ _ =>
      have logged : taken (state.log ++ [.uvClose]) = taken state.log := by
        rw [taken_append]
        exact List.append_nil _
      constructor
      · intro isOpen
        cases isOpen
      · exact counted.nonnegative
      · intro isOpen
        cases isOpen
      · show taken (state.log ++ [.uvClose]) <+: _
        rw [logged]
        exact counted.handed
  | @closeReturns fib closer _ _ _ _ =>
      apply counted.same [.notifyAll, .closeReturned, .finished fib closer.operation .returned]
      all_goals first | rfl | simp
  | @destroysClosed fib _ _ =>
      exact counted.same [.finished fib .destroy .returned] rfl rfl rfl rfl rfl rfl
  | @completes id status _ _ _ =>
      exact counted.same [.callback id status] rfl rfl rfl rfl rfl rfl
  | connects _ live _ =>
      refine counted.arrive (owned.closed_eq.trans live) reports rfl rfl rfl ?_
      simp [taken, Event.found]
  | handleCloses _ _ _ => exact counted.same [.onHandleClosed] rfl rfl rfl rfl rfl rfl

/-! ## Why an `accept` throws -/

/-- Every exception that leaves `accept`, or is about to, has its reason in
the log: the server was closed, or a `uv_accept` of this fiber failed. -/
structure Explained (state : State Fib Sock) : Prop where
  unwinds : ∀ fib socket exc, state.fiber fib = .unwinding socket exc →
    ∃ connection status, .uvAccept fib connection socket status ∈ state.log ∧
      checkUvStatus status = .error exc
  throws : ∀ fib exc, .finished fib .accept (.threw exc) ∈ state.log →
    exc = .runtimeError "connection closed" ∨ ∃ connection socket status,
      .uvAccept fib connection socket status ∈ state.log ∧ checkUvStatus status = .error exc

namespace Explained

variable {state after : State Fib Sock} {fib : Fib}

theorem initial (port : UInt16) : Explained (initial port : State Fib Sock) := by
  constructor
  · intro fib socket exc unwinding
    cases unwinding
  · intro fib exc thrown
    cases thrown

end Explained

theorem Transition.explained [DecidableEq Fib] {state after : State Fib Sock}
    {action : Action Fib Sock} (transition : Transition state action after)
    (explained : Explained state) : Explained after := by
  have kept : ∀ event ∈ state.log, event ∈ after.log :=
    fun event member => transition.log_prefix.subset member
  constructor
  · intro fib socket exc unwinding
    rcases transition.unwinding unwinding with before | ⟨status, _, _, failed, member⟩
    · obtain ⟨connection, status, member, failed⟩ := explained.unwinds fib socket exc before
      exact ⟨connection, status, kept _ member, failed⟩
    · exact ⟨_, status, member, failed⟩
  · intro fib exc thrown
    rcases transition.thrown thrown with before | ⟨events, host, port, ends⟩
    · rcases explained.throws fib exc before with
        closed | ⟨connection, socket, status, member, failed⟩
      · exact .inl closed
      · exact .inr ⟨connection, socket, status, kept _ member, failed⟩
    · cases ends with
      | acceptStops _ _ => exact .inl rfl
      | @acceptUnwinds socket _ unwinding =>
          obtain ⟨connection, status, member, failed⟩ :=
            explained.unwinds fib socket exc unwinding
          exact .inr ⟨connection, socket, status, kept _ member, failed⟩

/-! ## Whole runs -/

/-- The count is the length of libuv's queue, no `uv_accept` was called with
nothing to take, and no `accept` threw for another reason than the closing of
the server or its own `uv_accept` on a connection that was there. -/
structure CountsExactly (state : State Fib Sock) : Prop where
  exact : Exact state
  available : ∀ fib socket status, .uvAccept fib none socket status ∉ state.log
  thrown : ∀ fib exc, .finished fib .accept (.threw exc) ∈ state.log →
    exc = .runtimeError "connection closed" ∨ ∃ connection socket status,
      .uvAccept fib (some connection) socket status ∈ state.log ∧
        checkUvStatus status = .error exc

theorem countsExactly_of {state : State Fib Sock} (counted : Counted state)
    (explained : Explained state) : CountsExactly state := by
  refine ⟨counted.exact, counted.none_not_mem, ?_⟩
  intro fib exc thrown
  rcases explained.throws fib exc thrown with closed | ⟨connection, socket, status, member, failed⟩
  · exact .inl closed
  · cases connection with
    | none => exact absurd member (counted.none_not_mem fib socket status)
    | some connection => exact .inr ⟨connection, socket, status, member, failed⟩

variable [DecidableEq Fib] [Fintype Fib]

theorem reachable_counted {state : State Fib Sock}
    (reachable : (machine Fib Sock).Reachable ReportsConnection state) : Counted state := by
  apply reachable_invariant reachable Counted.initial
  intro before action after owned counted reports transition
  exact transition.counted owned counted reports

theorem reachable_explained {allowed : State Fib Sock → Action Fib Sock → Prop}
    {state : State Fib Sock} (reachable : (machine Fib Sock).Reachable allowed state) :
    Explained state := by
  apply reachable_invariant reachable Explained.initial
  intro before action after _ explained _ transition
  exact transition.explained explained

omit [Fintype Fib] in
/-- A callback without a connection makes an exact count wrong. -/
theorem Transition.miscounts {before after : State Fib Sock} {status : Int}
    (transition : Transition before (.connectionCallback status) after) (owned : Owned before)
    (exact : Exact before) (failed : status < 0) : ¬ Exact after := by
  cases transition with
  | ends ends => cases ends with
      | acceptStops entry _ => cases entry
  | waits entry _ _ => cases entry
  | accepts entry _ _ _ _ => cases entry
  | acceptFails entry _ _ _ => cases entry
  | closes entry _ => cases entry
  | connects _ live _ =>
      have isOpen : before.closed = false := owned.closed_eq.trans live
      intro miscounted
      have now : before.pending + 1 = _ := miscounted isOpen
      have earlier : before.pending = before.tcp.held.length := exact isOpen
      simp [failed] at now
      omega

/-- In a run of the server socket the count stays exact, and with it every
`accept` finds a connection, if and only if every connection callback reports
one. -/
theorem pending_exact_iff {port : UInt16} {actions : List (Action Fib Sock)}
    {final : State Fib Sock}
    (run : (machine Fib Sock).exec (initial port) actions = some final) :
    (∀ earlier state, earlier <+: actions →
        (machine Fib Sock).exec (initial port) earlier = some state → CountsExactly state) ↔
      ∀ status, .connectionCallback status ∈ actions → 0 ≤ status := by
  have start : ∀ allowed, (machine Fib Sock).Reachable allowed (initial port) :=
    fun _ => .start ⟨port, rfl⟩
  constructor
  · intro exact status member
    obtain ⟨before, rest, split⟩ := List.append_of_mem member
    have run : (machine Fib Sock).exec (initial port)
        ((before ++ [.connectionCallback status]) ++ rest) = some final := by
      rw [List.append_assoc, List.singleton_append, ← split]
      exact run
    rw [Machine.exec_append] at run
    obtain ⟨after, runAfter, _⟩ := Option.bind_eq_some_iff.mp run
    have runBefore := runAfter
    rw [Machine.exec_append] at runBefore
    obtain ⟨middle, runBefore, last⟩ := Option.bind_eq_some_iff.mp runBefore
    obtain ⟨_, stepped, done⟩ := Machine.exec_cons_some last
    cases done
    have owned : Owned middle :=
      reachable_owned ((start Machine.AnyStep).exec (Machine.along_anyStep _ _) runBefore)
    have exactBefore : Exact middle := by
      apply (exact before middle _ runBefore).exact
      rw [split]
      exact List.prefix_append _ _
    have exactAfter : Exact after := by
      apply (exact _ after _ runAfter).exact
      rw [split]
      exact ⟨rest, by simp⟩
    by_contra negative
    have failed : status < 0 := by omega
    exact (step_transition owned stepped).miscounts owned exactBefore failed exactAfter
  · intro reports earlier state isPrefix runEarlier
    have along : (machine Fib Sock).Along ReportsConnection (initial port) earlier := by
      apply Machine.along_of_forall
      intro action member state
      cases action with
      | connectionCallback status => exact reports status (isPrefix.subset member)
      | _ => trivial
    have reachable := (start ReportsConnection).exec along runEarlier
    exact countsExactly_of (reachable_counted reachable) (reachable_explained reachable)

/-- Two connections, one of which is taken. -/
theorem pending_exact_after_two_connections :
    ∃ state : State (Fin 1) Unit,
      (machine (Fin 1) Unit).exec (initial 0)
        [.listen 0 0, .connectionCallback 0, .connectionCallback 0, .accept 0 0 ()] =
          some state ∧ CountsExactly state := by
  have run : (machine (Fin 1) Unit).exec (initial 0)
      [.listen 0 0, .connectionCallback 0, .connectionCallback 0, .accept 0 0 ()] = some _ := rfl
  have exact_along := (pending_exact_iff run).mpr (by
    intro status member
    simp at member
    omega)
  exact ⟨_, run, exact_along _ _ (List.prefix_refl _) run⟩

/-- A failed connection is counted; the `accept` that meets it calls
`uv_accept` with nothing to take and throws. -/
theorem failed_connection_counted :
    ∃ counted final : State (Fin 1) Unit,
      (machine (Fin 1) Unit).exec (initial 0) [.listen 0 0, .connectionCallback uvEmfile] =
        some counted ∧
      counted.closed = false ∧ counted.pending = 1 ∧ counted.tcp.held = [] ∧ ¬ Exact counted ∧
      (machine (Fin 1) Unit).exec counted [.accept 0 uvEagain (), .unwound 0] = some final ∧
      .uvAccept 0 none () uvEagain ∈ final.log ∧
      .finished 0 .accept (.threw (.uvError uvEagain)) ∈ final.log := by
  refine ⟨_, _, rfl, rfl, rfl, rfl, ?_, rfl, by decide, by decide⟩
  intro exact
  exact absurd (exact rfl) (by decide)

end Fiberio.Server
