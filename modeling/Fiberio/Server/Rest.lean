import Fiberio.Foundation.Progress
import Fiberio.Server.Closing

/-!
Owns that no operation of a server socket is ever stuck. In every state that
any run can reach, some sequence of callbacks and resumptions, without a new
call and without a new connection, brings every fiber back to its caller,
except those that sleep in `accept` on an open server without a pending
connection; on a closed server it brings back all of them. So the server can
always be closed and destroyed by whoever is outside.

Does not own fairness, nor the destructor of a socket that `accept` gives up.
-/

namespace Fiberio.Server

open Fiberio.Foundation

variable {Fib Sock : Type}

/-! ## How far a fiber is from its caller -/

/-- How many steps the fiber is away from its caller, or from falling asleep
on an open server, when every answer is an error. -/
def Fiber.distance (closed : Bool) : Fiber Sock → Nat
  | .idle _ => 0
  | .waitAccept false => if closed then 3 else 0
  | .waitAccept true => if closed then 1 else 2
  | .unwinding _ _ => 1
  | .wait _ _ .unset => 2
  | .wait _ _ (.set _) => 1

def State.distance (state : State Fib Sock) (fib : Fib) : Nat :=
  (state.fiber fib).distance state.closed

theorem Fiber.distance_notify_le (fiber : Fiber Sock) :
    fiber.notify.distance true ≤ fiber.distance true := by
  cases fiber with
  | waitAccept notified => cases notified <;> simp [Fiber.notify, Fiber.distance]
  | idle last => exact Nat.le_refl _
  | unwinding socket exc => exact Nat.le_refl _
  | wait waiting serial promise => exact Nat.le_refl _

variable [DecidableEq Fib] {state after : State Fib Sock} {fib : Fib}

/-- One fiber comes closer to its caller, and the others may be woken. -/
theorem nearer_of_update {fibers : Fib → Fiber Sock} {value : Fiber Sock}
    (moved : after.fiber = Function.update fibers fib value) (closed : after.closed = state.closed)
    (others : ∀ other, (fibers other).distance state.closed ≤ state.distance other)
    (less : value.distance state.closed < state.distance fib) :
    Machine.Closer State.distance state after := by
  constructor
  · intro other
    unfold State.distance
    rw [moved, closed]
    by_cases same : other = fib
    · rw [same, Function.update_self]
      exact Nat.le_of_lt less
    · rw [Function.update_of_ne same]
      exact others other
  · refine ⟨fib, ?_⟩
    unfold State.distance
    rw [moved, closed, Function.update_self]
    exact less

theorem nearer_of_move {value : Fiber Sock}
    (moved : after.fiber = Function.update state.fiber fib value)
    (closed : after.closed = state.closed)
    (less : value.distance state.closed < state.distance fib) :
    Machine.Closer State.distance state after :=
  nearer_of_update moved closed (fun _ => Nat.le_refl _) less

/-! ## A step for every fiber that is inside -/

/-- What libuv may answer without a new call of the program or a new
connection: the promises are set, and the fibers go on. -/
def Settles (_ : State Fib Sock) : Action Fib Sock → Prop
  | .resume _ _ | .unwound _ | .complete _ _ | .onHandleClosed => True
  | .bind _ _ _ _ | .listen _ _ | .accept _ _ _ | .close _ | .destroy _
  | .connectionCallback _ => False

/-- A `bind` whose name was looked up ends, one way or the other. -/
theorem nearer_bindResolved {serial : Nat} {result : Except Exc Unit} {status nameStatus : Int}
    {name : SockName} (awaits : state.fiber fib = .wait .getaddrinfo serial (.set result)) :
    Machine.Closer State.distance state (state.bindResolved fib result status nameStatus name) := by
  have ends : ∀ after : State Fib Sock, (∃ last, after.fiber =
      Function.update state.fiber fib (.idle last)) → after.closed = state.closed →
        Machine.Closer State.distance state after := by
    rintro after ⟨last, moved⟩ closed
    apply nearer_of_move moved closed
    unfold State.distance
    rw [awaits]
    exact Nat.zero_lt_one
  unfold State.bindResolved
  cases result with
  | error exc => exact ends _ ⟨_, rfl⟩ rfl
  | ok value =>
      simp only
      split
      · exact ends _ ⟨_, rfl⟩ rfl
      · unfold State.updateAddress
        simp only
        split
        · exact ends _ ⟨_, rfl⟩ rfl
        · split <;> exact ends _ ⟨_, rfl⟩ rfl

/-- `close` returns, and wakes everybody who sleeps in `accept`. -/
theorem nearer_closeHandleDone {closer : Closer} {serial : Nat} {result : Except Exc Unit}
    (owned : Owned state)
    (awaits : state.fiber fib = .wait (.closeHandle closer) serial (.set result)) :
    Machine.Closer State.distance state (state.closeHandleDone fib closer) := by
  have closed : state.closed = true := owned.closed_eq.trans (owned.handle _ _ _ _ awaits).1
  apply nearer_of_update (closeHandleDone_fiber ..) (closeHandleDone_closed ..)
  · intro other
    unfold State.distance
    rw [closed]
    exact Fiber.distance_notify_le _
  · unfold State.distance
    rw [awaits]
    exact Nat.zero_lt_one

/-- A woken `accept` falls asleep again, throws, or fails to accept. -/
theorem nearer_accept {socket : Sock} (woken : state.fiber fib = .waitAccept true) :
    ∃ after, state.accept fib uvEnotconn socket = some after ∧
      Machine.Closer State.distance state after := by
  cases closed : state.closed with
  | true =>
      refine ⟨_, accept_closed closed, nearer_of_move rfl rfl ?_⟩
      simp [State.distance, woken, closed, Fiber.distance]
  | false =>
      unfold State.accept
      split
      · refine ⟨_, rfl, nearer_of_move rfl rfl ?_⟩
        simp [State.distance, woken, closed, Fiber.distance]
      · rw [if_neg (by simp [closed]), State.doAccept, if_neg (by simp [uvEnotconn]),
          checkUvStatus_enotconn]
        refine ⟨_, rfl, nearer_of_move rfl rfl ?_⟩
        simp [State.distance, woken, closed, Fiber.distance]

variable [Fintype Fib]

/-- Some admitted step brings a fiber closer to its caller. -/
def CanSettle (state : State Fib Sock) : Prop :=
  ∃ action after, Settles state action ∧ (machine Fib Sock).step state action = some after ∧
    Machine.Closer State.distance state after

theorem canSettle_of_unset {waiting : Waiting} {serial : Nat} (owned : Owned state)
    (awaits : state.fiber fib = .wait waiting serial .unset) : CanSettle state := by
  have answered : ∀ after : State Fib Sock, after.closed = state.closed →
      (∃ result, after.fiber = Function.update state.fiber fib
        (.wait waiting serial (.set result))) → Machine.Closer State.distance state after := by
    rintro after closed ⟨result, moved⟩
    apply nearer_of_move moved closed
    unfold State.distance
    rw [awaits]
    exact Nat.one_lt_two
  cases waiting with
  | getaddrinfo =>
      obtain ⟨request, member, id_eq, data_eq⟩ := owned.registered _ _ awaits
      have stepped : (machine Fib Sock).step state (.complete request.id 0) =
          state.complete request.id 0 := rfl
      rw [State.complete, owned.find_request member] at stepped
      refine ⟨.complete request.id 0, _, trivial, stepped, ?_⟩
      rw [data_eq, resolve_eq (by exact awaits)]
      exact answered _ rfl ⟨_, rfl⟩
  | closeHandle closer =>
      obtain ⟨closing, data, closed⟩ := owned.handle _ _ _ _ awaits
      have unclosed : state.tcp.closed = false := by simpa using closed
      have stepped : (machine Fib Sock).step state .onHandleClosed = state.onHandleClosed := rfl
      rw [State.onHandleClosed, if_pos (by simp [closing, unclosed])] at stepped
      simp only [data] at stepped
      refine ⟨.onHandleClosed, _, trivial, stepped, ?_⟩
      rw [resolve_eq (by exact awaits)]
      exact answered _ rfl ⟨_, rfl⟩

theorem canSettle_of_set [Inhabited Sock] {waiting : Waiting} {serial : Nat}
    {result : Except Exc Unit} (owned : Owned state)
    (awaits : state.fiber fib = .wait waiting serial (.set result)) : CanSettle state := by
  have stepped : (machine Fib Sock).step state (.resume fib someAnswers) =
      state.resume fib someAnswers := rfl
  rw [State.resume, awaits] at stepped
  cases waiting with
  | getaddrinfo => exact ⟨.resume fib _, _, trivial, stepped, nearer_bindResolved awaits⟩
  | closeHandle closer =>
      exact ⟨.resume fib _, _, trivial, stepped, nearer_closeHandleDone owned awaits⟩

/-- The fiber is outside, or sleeps on an open server. -/
def Fiber.AtRest (closed : Bool) (fiber : Fiber Sock) : Prop :=
  fiber.isIdle = true ∨ (fiber = .waitAccept false ∧ closed = false)

/-- As long as some fiber is neither outside nor asleep, some step brings one
closer to its caller. -/
theorem canSettle_of_busy [Inhabited Sock] (owned : Owned state) (attentive : Attentive state)
    (busy : ¬ (state.fiber fib).AtRest state.closed) : CanSettle state := by
  have waits : ∀ {fib waiting serial promise},
      state.fiber fib = .wait waiting serial promise → CanSettle state := by
    intro fib waiting serial promise awaits
    cases promise with
    | unset => exact canSettle_of_unset owned awaits
    | set result => exact canSettle_of_set owned awaits
  cases here : state.fiber fib with
  | idle last =>
      rw [here] at busy
      exact absurd (.inl rfl) busy
  | wait waiting serial promise => exact waits here
  | unwinding socket exc =>
      have stepped : (machine Fib Sock).step state (.unwound fib) = state.unwound fib := rfl
      rw [State.unwound, here] at stepped
      refine ⟨.unwound fib, _, trivial, stepped, nearer_of_move rfl rfl ?_⟩
      simp [State.distance, here, Fiber.distance]
  | waitAccept notified =>
      cases notified with
      | true =>
          have stepped : (machine Fib Sock).step state
              (.resume fib ⟨uvEnotconn, 0, .other, default⟩) =
                state.resume fib ⟨uvEnotconn, 0, .other, default⟩ := rfl
          rw [State.resume, here] at stepped
          obtain ⟨after, accepts, nearer⟩ := nearer_accept here
          exact ⟨.resume fib _, after, trivial, stepped.trans accepts, nearer⟩
      | false =>
          -- A sleeper on a closed server waits for the close to return.
          have closed : state.closed = true := by
            by_contra isOpen
            rw [here] at busy
            exact busy (.inr ⟨rfl, by simpa using isOpen⟩)
          have notReturned := (attentive.asleep fib here).1
          obtain ⟨closerFib, closer, serial, promise, awaits⟩ :=
            attentive.closer closed notReturned
          exact waits awaits

/-! ## The server comes to rest -/

/-- Every fiber is outside, or sleeps on an open server that has no connection
for it. -/
def AtRest (state : State Fib Sock) : Prop :=
  ∀ fib, (state.fiber fib).isIdle = true ∨
    (state.fiber fib = .waitAccept false ∧ state.closed = false ∧ state.pending = 0)

/-- What settling leaves alone: the flag, the object and whoever is outside. -/
structure SettledFrom (start state : State Fib Sock) : Prop where
  reachable : (machine Fib Sock).Reachable Machine.AnyStep state
  closed : state.closed = start.closed
  alive : start.life = .alive → state.life = .alive
  outside : ∀ fib, (start.fiber fib).isIdle = true → (state.fiber fib).isIdle = true

omit [Fintype Fib] [DecidableEq Fib] in
theorem AcceptEntry.inside {action : Action Fib Sock} {status : Int} {socket : Sock}
    (entry : AcceptEntry state fib action status socket) (settles : Settles state action) :
    (state.fiber fib).isIdle = false := by
  cases entry with
  | call _ => cases settles
  | woken notified =>
      rw [notified]
      rfl

omit [Fintype Fib] in
/-- Whoever is outside stays there. -/
theorem Transition.outside_of_settles {action : Action Fib Sock} {other : Fib}
    (transition : Transition state action after) (settles : Settles state action)
    (idle : (state.fiber other).isIdle = true) : (after.fiber other).isIdle = true := by
  have moves : ∀ {fib : Fib} {value : Fiber Sock}, (state.fiber fib).isIdle = false →
      (Function.update state.fiber fib value other).isIdle = true := by
    intro fib value inside
    have differs : other ≠ fib := by
      rintro rfl
      exact absurd (inside.symm.trans idle) (by decide)
    rw [Function.update_of_ne differs]
    exact idle
  have ended : ∀ {fib : Fib} {last : Option (Outcome Sock)},
      (Function.update state.fiber fib (.idle last) other).isIdle = true := by
    intro fib last
    by_cases same : other = fib
    · rw [same, Function.update_self]
      rfl
    · rw [Function.update_of_ne same]
      exact idle
  cases transition with
  | ends _ => exact ended
  | listens _ => exact ended
  | accepts _ _ _ _ _ => exact ended
  | destroysClosed _ _ => exact ended
  | resolves _ => cases settles
  | connects _ _ _ => cases settles
  | waits entry _ _ => exact moves (entry.inside settles)
  | acceptFails entry _ _ _ => exact moves (entry.inside settles)
  | closes entry _ => cases entry <;> cases settles
  | @closeReturns fib _ _ _ _ _ =>
      rw [closeHandleDone_fiber]
      by_cases same : other = fib
      · rw [same, Function.update_self]
        rfl
      · rw [Function.update_of_ne same, Fiber.notify_isIdle]
        exact idle
  | completes _ awaits =>
      apply moves
      rw [awaits]
      rfl
  | handleCloses _ _ awaits =>
      apply moves
      rw [awaits]
      rfl

theorem SettledFrom.next {start : State Fib Sock} {action : Action Fib Sock}
    (settled : SettledFrom start state) (settles : Settles state action)
    (stepped : (machine Fib Sock).step state action = some after) : SettledFrom start after := by
  have transition := step_transition (reachable_owned settled.reachable) stepped
  have lifetime := reachable_lifetime settled.reachable
  refine ⟨settled.reachable.next trivial stepped, ?_, fun alive => ?_, fun fib idle => ?_⟩
  · rw [← settled.closed]
    cases transition with
    | closes entry _ => cases entry <;> cases settles
    | closeReturns _ => exact closeHandleDone_closed ..
    | _ => rfl
  · have alive := settled.alive alive
    cases transition with
    | closes entry _ => cases entry <;> cases settles
    | @closeReturns _ closer _ _ _ ran =>
        cases closer with
        | user => exact alive
        | destructor => exact absurd alive (lifetime.begun _ ⟨_, _, ran⟩)
    | destroysClosed _ _ => cases settles
    | _ => exact alive
  · exact transition.outside_of_settles settles (settled.outside fib idle)

variable [Inhabited Sock]

theorem canRest (reachable : (machine Fib Sock).Reachable Machine.AnyStep state) :
    (machine Fib Sock).CanReach Settles state fun final =>
      AtRest final ∧ SettledFrom state final := by
  have begun : SettledFrom state state := ⟨reachable, rfl, id, fun _ => id⟩
  apply Machine.canReach_of_closer State.distance begun
  intro current settled
  have owned := reachable_owned settled.reachable
  have attentive := reachable_attentive settled.reachable
  by_cases rest : ∀ fib, (current.fiber fib).AtRest current.closed
  · refine .inl ⟨fun fib => ?_, settled⟩
    rcases rest fib with idle | ⟨asleep, isOpen⟩
    · exact .inl idle
    · exact .inr ⟨asleep, isOpen, (attentive.asleep fib asleep).2 isOpen⟩
  · obtain ⟨fib, busy⟩ := not_forall.mp rest
    obtain ⟨action, after, settles, stepped, nearer⟩ := canSettle_of_busy owned attentive busy
    exact .inr ⟨action, after, settles, stepped, settled.next settles stepped, nearer⟩

/-- From every state that any run reaches, callbacks and resumptions alone can
bring every fiber back to its caller, except those that sleep in `accept` on
an open server without a pending connection. On a closed server nobody is left
behind. -/
theorem server_can_come_to_rest
    (reachable : (machine Fib Sock).Reachable Machine.AnyStep state) :
    (machine Fib Sock).CanReach Settles state fun final =>
      AtRest final ∧ final.closed = state.closed ∧
        (state.closed = true → ∀ fib, (final.fiber fib).isIdle = true) := by
  obtain ⟨actions, final, run, along, rest, settled⟩ := canRest reachable
  refine ⟨actions, final, run, along, rest, settled.closed, fun closed fib => ?_⟩
  rcases rest fib with idle | ⟨_, isOpen, _⟩
  · exact idle
  · exact absurd ((settled.closed.trans closed).symm.trans isOpen) (by decide)

/-- A server with a fiber in name resolution, one asleep in `accept` and one
that has just begun to close it. -/
theorem rest_of_closing_server :
    ∃ state : State (Fin 3) Unit, (machine (Fin 3) Unit).Reachable Machine.AnyStep state ∧
      state.fiber 1 = .waitAccept false ∧ state.closed = true ∧
      (machine (Fin 3) Unit).CanReach Settles state fun final =>
        AtRest final ∧ final.closed = state.closed ∧
          (state.closed = true → ∀ fib, (final.fiber fib).isIdle = true) := by
  have first : (machine (Fin 3) Unit).Reachable Machine.AnyStep (initial 0) := .start ⟨_, rfl⟩
  have reachable := first.exec (Machine.along_anyStep _ _)
    (rfl : (machine (Fin 3) Unit).exec (initial 0)
      [.listen 0 0, .accept 1 0 (), .bind 0 "localhost" 80 0, .close 2] = some _)
  exact ⟨_, reachable, rfl, rfl, server_can_come_to_rest reachable⟩

/-! ## The server can be ended -/

/-- Settling, and a close and the destruction by one fiber. -/
def EndedBy (fib : Fib) (state : State Fib Sock) (action : Action Fib Sock) : Prop :=
  Settles state action ∨ action = .close fib ∨ action = .destroy fib

/-- Every fiber is back from a closed server, so it can be destroyed. -/
theorem canDestroy (reachable : (machine Fib Sock).Reachable Machine.AnyStep state)
    (alive : state.life = .alive) (closed : state.closed = true) (fib : Fib) :
    (machine Fib Sock).CanReach (EndedBy fib) state fun final => final.life = .destroyed := by
  have rests := (canRest reachable).mono fun _ _ settles =>
    (.inl settles : EndedBy fib _ _)
  apply rests.trans
  rintro middle ⟨rest, settled⟩
  have stillClosed : middle.closed = true := settled.closed.trans closed
  have idle : ∀ other, (middle.fiber other).isIdle = true := by
    intro other
    rcases rest other with idle | ⟨_, isOpen, _⟩
    · exact idle
    · exact absurd (stillClosed.symm.trans isOpen) (by decide)
  have stepped : (machine Fib Sock).step middle (.destroy fib) = some (middle.destroy fib) :=
    if_pos ⟨settled.alive alive, idle⟩
  apply Machine.CanReach.step (.inr (.inr rfl)) stepped
  apply Machine.CanReach.now
  rw [State.destroy, if_pos stillClosed]
  rfl

/-- From every state that any run reaches in which the object is alive,
whoever is outside can close and destroy it: the fibers that are inside come
back, and those that sleep in `accept` are woken. -/
theorem server_ends_cleanly (reachable : (machine Fib Sock).Reachable Machine.AnyStep state)
    (alive : state.life = .alive) {fib : Fib} (idle : (state.fiber fib).isIdle = true) :
    (machine Fib Sock).CanReach (EndedBy fib) state fun final =>
      final.life = .destroyed ∧ (∀ other, (final.fiber other).isIdle = true) ∧
        final.requests = [] := by
  have enabled : state.canCall fib = true := by simp [State.canCall, alive, idle]
  have stepped : (machine Fib Sock).step state (.close fib) = some (state.userClose fib) :=
    if_pos enabled
  have closed : (state.userClose fib).closed = true ∧ (state.userClose fib).life = .alive := by
    unfold State.userClose
    split
    · rename_i closed
      exact ⟨closed, alive⟩
    · exact ⟨rfl, alive⟩
  have later := reachable.next trivial stepped
  have destroys : (machine Fib Sock).CanReach (EndedBy fib) state fun final =>
      final.life = .destroyed :=
    .step (.inr (.inl rfl)) stepped (canDestroy later closed.2 closed.1 fib)
  have kept := destroys.keeping reachable fun _ _ _ known _ stepped => known.next trivial stepped
  obtain ⟨actions, final, run, along, destroyed, reached⟩ := kept
  have outside := (reachable_lifetime reached).done destroyed
  exact ⟨actions, final, run, along, destroyed, outside,
    (reachable_owned reached).no_requests outside⟩

/-- One fiber is in name resolution and one asleep in `accept` when a third
decides to end the server. -/
theorem clean_end_of_busy_server :
    ∃ state : State (Fin 3) Unit, (machine (Fin 3) Unit).Reachable Machine.AnyStep state ∧
      state.fiber 1 = .waitAccept false ∧
      (machine (Fin 3) Unit).CanReach (EndedBy 2) state fun final =>
        final.life = .destroyed ∧ (∀ other, (final.fiber other).isIdle = true) ∧
          final.requests = [] := by
  have first : (machine (Fin 3) Unit).Reachable Machine.AnyStep (initial 0) := .start ⟨_, rfl⟩
  have reachable := first.exec (Machine.along_anyStep _ _)
    (rfl : (machine (Fin 3) Unit).exec (initial 0)
      [.listen 0 0, .accept 1 0 (), .bind 0 "localhost" 80 0] = some _)
  exact ⟨_, reachable, rfl, server_ends_cleanly reachable rfl rfl⟩

end Fiberio.Server
