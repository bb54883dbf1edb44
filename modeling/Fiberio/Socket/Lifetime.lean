import Fiberio.Socket.Closing

/-!
Owns the end of a `socket_impl`. Its destructor runs when no fiber is inside a
member function, and suspends in `close`; until it is over no other fiber can
enter. Once it is over nothing can reach the object any more, as long as every
close was graceful: no fiber, no request and no callback of its handle.

Does not own when the last reference is dropped.
-/

namespace Fiberio.Socket

open Fiberio.Foundation

variable {Fib : Type}

/-! ## Who is inside -/

/-- The fiber runs the destructor, inside its `close`. -/
def Fiber.InDestructor (fiber : Fiber) : Prop :=
  ∃ serial promise, fiber = .wait (.shutdown .destructor) serial promise ∨
    fiber = .wait (.closeHandle .destructor) serial promise

/-- The destructor has the object to itself. -/
structure Lifetime (state : State Fib) : Prop where
  begun : ∀ fib, (state.fiber fib).InDestructor → state.life ≠ .alive
  alone : state.life ≠ .alive → ∀ fib, (state.fiber fib).isIdle = true ∨
    (state.fiber fib).InDestructor
  done : state.life = .destroyed → ∀ fib, (state.fiber fib).isIdle = true

theorem Fiber.idle_notInDestructor {fiber : Fiber} (idle : fiber.isIdle = true) :
    ¬ fiber.InDestructor := by
  rintro ⟨serial, promise, rfl | rfl⟩ <;> cases idle

theorem Fiber.wait_notInDestructor {waiting : Waiting} {serial : Nat} {promise : PromiseState}
    (shutdown : waiting ≠ .shutdown .destructor) (handle : waiting ≠ .closeHandle .destructor) :
    ¬ (Fiber.wait waiting serial promise).InDestructor := by
  rintro ⟨_, _, same | same⟩ <;> cases same
  · exact shutdown rfl
  · exact handle rfl

theorem Fiber.waitRead_notInDestructor {notified : Bool} {call : ReadCall} :
    ¬ (Fiber.waitRead notified call).InDestructor := by
  rintro ⟨_, _, same | same⟩ <;> cases same

theorem Fiber.wait_inDestructor_iff {waiting : Waiting} {serial serial' : Nat}
    {promise promise' : PromiseState} :
    (Fiber.wait waiting serial promise).InDestructor ↔
      (Fiber.wait waiting serial' promise').InDestructor := by
  constructor <;>
    · rintro ⟨_, _, same | same⟩
      · cases same
        exact ⟨_, _, .inl rfl⟩
      · cases same
        exact ⟨_, _, .inr rfl⟩

theorem Fiber.notify_inDestructor_iff {fiber : Fiber} :
    fiber.notify.InDestructor ↔ fiber.InDestructor := by
  simp only [Fiber.InDestructor, Fiber.notify_eq_wait_iff]

theorem Fiber.notify_isIdle (fiber : Fiber) : fiber.notify.isIdle = fiber.isIdle := by
  cases fiber <;> rfl

namespace Lifetime

variable {state after : State Fib} {fib : Fib}

theorem initial (memory : Memory UInt8) : Lifetime (initial memory : State Fib) := by
  constructor
  · exact fun fib inside => absurd inside (Fiber.idle_notInDestructor rfl)
  · exact fun dead => absurd rfl dead
  · exact fun destroyed => by cases destroyed

/-- A fiber that is inside an operation other than the destructor. -/
theorem alive (lifetime : Lifetime state) (inside : (state.fiber fib).isIdle = false)
    (other : ¬ (state.fiber fib).InDestructor) : state.life = .alive := by
  by_contra dead
  rcases lifetime.alone dead fib with idle | destructor
  · exact absurd (inside.symm.trans idle) (by decide)
  · exact other destructor

/-- A fiber waits for something the destructor does not wait for. -/
theorem alive_of_wait {waiting : Waiting} {serial : Nat} {promise : PromiseState}
    (lifetime : Lifetime state) (awaits : state.fiber fib = .wait waiting serial promise)
    (shutdown : waiting ≠ .shutdown .destructor) (handle : waiting ≠ .closeHandle .destructor) :
    state.life = .alive := by
  apply @lifetime.alive _ _ fib
  · rw [awaits]
    rfl
  · rw [awaits]
    exact Fiber.wait_notInDestructor shutdown handle

theorem alive_of_reader {notified : Bool} {call : ReadCall} (lifetime : Lifetime state)
    (waits : state.fiber fib = .waitRead notified call) : state.life = .alive := by
  apply @lifetime.alive _ _ fib
  · rw [waits]
    rfl
  · rw [waits]
    exact Fiber.waitRead_notInDestructor

/-- The object stays alive and nobody enters the destructor. -/
theorem live (life : after.life = .alive) (none : ∀ fib, ¬ (after.fiber fib).InDestructor) :
    Lifetime after := by
  constructor
  · exact fun fib inside => absurd inside (none fib)
  · exact fun dead => absurd life dead
  · intro destroyed
    rw [life] at destroyed
    cases destroyed

/-- Every fiber stays what it was: idle, or inside the destructor. -/
theorem same (lifetime : Lifetime state) (life : after.life = state.life)
    (idle : ∀ fib, (after.fiber fib).isIdle = (state.fiber fib).isIdle)
    (inside : ∀ fib, (after.fiber fib).InDestructor ↔ (state.fiber fib).InDestructor) :
    Lifetime after := by
  constructor
  · intro fib destructor
    rw [life]
    exact lifetime.begun fib ((inside fib).mp destructor)
  · intro dead fib
    rw [life] at dead
    rw [idle, inside]
    exact lifetime.alone dead fib
  · intro destroyed fib
    rw [idle]
    exact lifetime.done (life ▸ destroyed) fib

variable [DecidableEq Fib]

/-- A fiber moves on, outside the destructor, while the object is alive. -/
theorem move {fibers : Fib → Fiber} {value : Fiber} (lifetime : Lifetime state)
    (alive : state.life = .alive) (life : after.life = state.life)
    (moved : after.fiber = Function.update fibers fib value)
    (outside : ¬ value.InDestructor)
    (others : ∀ other, (fibers other).InDestructor → (state.fiber other).InDestructor) :
    Lifetime after := by
  apply live (life.trans alive)
  intro other inside
  rw [moved] at inside
  by_cases same : other = fib
  · rw [same, Function.update_self] at inside
    exact outside inside
  · rw [Function.update_of_ne same] at inside
    exact lifetime.begun other (others other inside) alive

/-- The destructor is entered, or goes on. -/
theorem inside {value : Fiber} (dead : after.life ≠ .alive) (unfinished : after.life ≠ .destroyed)
    (moved : after.fiber = Function.update state.fiber fib value)
    (destructor : value.InDestructor)
    (others : ∀ other, other ≠ fib → (state.fiber other).isIdle = true) : Lifetime after := by
  constructor
  · exact fun _ _ => dead
  · intro _ other
    rw [moved]
    by_cases same : other = fib
    · rw [same, Function.update_self]
      exact .inr destructor
    · rw [Function.update_of_ne same]
      exact .inl (others other same)
  · exact fun destroyed => absurd destroyed unfinished

omit [DecidableEq Fib] in
/-- Whoever is not the destructor's fiber is outside. -/
theorem others_idle (lifetime : Lifetime state) (owned : Owned state)
    (destructor : (state.fiber fib).InDestructor) {other : Fib} (differs : other ≠ fib) :
    (state.fiber other).isIdle = true := by
  have closes : ∀ {fib}, (state.fiber fib).InDestructor → (state.fiber fib).InClose := by
    rintro fib ⟨serial, promise, inside⟩
    exact ⟨.destructor, serial, promise, inside⟩
  rcases lifetime.alone (lifetime.begun fib destructor) other with idle | also
  · exact idle
  · exact absurd (owned.alone other fib (closes also) (closes destructor)) differs

/-- One promise is set and nothing else. -/
theorem answer {waiting : Waiting} {serial serial' : Nat} {promise promise' : PromiseState}
    (lifetime : Lifetime state) (life : after.life = state.life)
    (awaits : state.fiber fib = .wait waiting serial promise)
    (moved : after.fiber = Function.update state.fiber fib (.wait waiting serial' promise')) :
    Lifetime after := by
  apply lifetime.same life
  · intro other
    rw [moved]
    by_cases same : other = fib
    · rw [same, Function.update_self, awaits]
      rfl
    · rw [Function.update_of_ne same]
  · intro other
    rw [moved]
    by_cases same : other = fib
    · rw [same, Function.update_self, awaits]
      exact Fiber.wait_inDestructor_iff
    · rw [Function.update_of_ne same]

end Lifetime

/-! ## Every transition leaves the destructor alone -/

section Preservation

variable [DecidableEq Fib] {state after entered : State Fib} {fib : Fib} {action : Action Fib}

omit [DecidableEq Fib] in
theorem Runs.alive (runs : Runs state fib action) (lifetime : Lifetime state)
    (unbound : (state.fiber fib).Unbound)
    (enters : ∀ fib, action.caller = some fib → state.life = .alive) : state.life = .alive := by
  rcases runs with caller | ⟨inside, _⟩
  · exact enters fib caller
  · rcases unbound with idle | ⟨waiting, serial, result, awaits, kind⟩
    · exact absurd (inside.symm.trans idle) (by decide)
    · apply lifetime.alive_of_wait awaits <;> rcases kind with rfl | rfl | rfl <;> simp

omit [DecidableEq Fib] in
theorem ReadEntry.alive {status : Int} {call : ReadCall}
    (entry : ReadEntry state fib action status call entered) (lifetime : Lifetime state)
    (enters : ∀ fib, action.caller = some fib → state.life = .alive) :
    state.life = .alive ∧ entered.life = state.life ∧ entered.fiber = state.fiber := by
  cases entry with
  | start _ _ _ => exact ⟨enters fib rfl, rfl, rfl⟩
  | again woken _ _ _ _ _ => exact ⟨lifetime.alive_of_reader woken, rfl, rfl⟩

/-- `close` is entered and the fiber suspends inside it. -/
theorem Lifetime.enterClose {status : Int} {closer : Closer} {waiting : Waiting} {serial : Nat}
    (lifetime : Lifetime state) (entry : CloseEntry state fib action status closer entered)
    (enters : ∀ fib, action.caller = some fib → state.life = .alive)
    (suspends : waiting = .shutdown closer ∨ waiting = .closeHandle closer)
    (life : after.life = entered.life)
    (moved : after.fiber = Function.update entered.fiber fib (.wait waiting serial .unset)) :
    Lifetime after := by
  cases entry with
  | user idle =>
      refine lifetime.move (enters fib rfl) life moved ?_ (fun _ => id)
      rcases suspends with rfl | rfl <;> exact Fiber.wait_notInDestructor (by simp) (by simp)
  | destructor idle =>
      refine Lifetime.inside ?_ ?_ moved ?_ (fun other _ => idle other)
      · rw [life]
        simp
      · rw [life]
        simp
      · rcases suspends with rfl | rfl
        · exact ⟨_, _, .inl rfl⟩
        · exact ⟨_, _, .inr rfl⟩
  | eof woken _ _ =>
      refine lifetime.move (lifetime.alive_of_reader woken) life moved ?_ (fun _ => id)
      rcases suspends with rfl | rfl <;> exact Fiber.wait_notInDestructor (by simp) (by simp)

/-- The close that a member function called is over. -/
theorem Lifetime.closeReturned {closer : Closer} {serial : Nat} {promise : PromiseState}
    {last : Option Outcome} (lifetime : Lifetime state) (member : closer ≠ .destructor)
    (ran : state.fiber fib = .wait (.closeHandle closer) serial promise)
    (life : after.life = state.life)
    (moved : after.fiber = Function.update state.notifyAll.fiber fib (.idle last)) :
    Lifetime after := by
  apply lifetime.move (lifetime.alive_of_wait ran (by simp) (by simpa using member)) life moved
    (Fiber.idle_notInDestructor rfl)
  intro other inside
  rwa [State.notifyAll_fiber, Fiber.notify_inDestructor_iff] at inside

theorem Transition.lifetime (transition : Transition state action after) (owned : Owned state)
    (lifetime : Lifetime state)
    (enters : ∀ fib, action.caller = some fib → state.life = .alive) : Lifetime after := by
  have outside : ∀ last : Option Outcome, ¬ (Fiber.idle last).InDestructor :=
    fun _ => Fiber.idle_notInDestructor rfl
  cases transition with
  | ends events unbound _ _ _ _ _ runs =>
      exact lifetime.move (runs.alive lifetime unbound enters) rfl rfl (outside _) fun _ => id
  | resolves _ _ =>
      exact lifetime.move (enters _ rfl) rfl rfl
        (Fiber.wait_notInDestructor (by simp) (by simp)) fun _ => id
  | connects resolved =>
      exact lifetime.move (lifetime.alive_of_wait resolved (by simp) (by simp)) rfl rfl
        (Fiber.wait_notInDestructor (by simp) (by simp)) fun _ => id
  | writes _ _ _ =>
      exact lifetime.move (enters _ rfl) rfl rfl
        (Fiber.wait_notInDestructor (by simp) (by simp)) fun _ => id
  | admits entry _ _ _ =>
      obtain ⟨alive, life, fibers⟩ := entry.alive lifetime enters
      exact lifetime.move alive life rfl Fiber.waitRead_notInDestructor fun other => by
        simp [fibers]
  | rejects entry _ _ _ =>
      obtain ⟨alive, life, fibers⟩ := entry.alive lifetime enters
      exact lifetime.move alive life rfl (outside _) fun other => by simp [fibers]
  | readsNull entry _ _ _ =>
      obtain ⟨alive, life, fibers⟩ := entry.alive lifetime enters
      exact lifetime.move alive life rfl (outside _) fun other => by simp [fibers]
  | waitsAgain woken _ _ =>
      exact lifetime.move (lifetime.alive_of_reader woken) rfl rfl
        Fiber.waitRead_notInDestructor fun _ => id
  | readFails woken _ _ =>
      exact lifetime.move (lifetime.alive_of_reader woken) rfl rfl (outside _) fun _ => id
  | readReturns ends _ =>
      exact lifetime.move (lifetime.alive_of_reader ends.woken) rfl rfl (outside _) fun _ => id
  | readStops ends _ =>
      exact lifetime.move (lifetime.alive_of_reader ends.woken) rfl rfl (outside _) fun _ => id
  | shutsDown entry _ _ => exact lifetime.enterClose entry enters (.inl rfl) rfl rfl
  | closesAtOnce entry _ _ => exact lifetime.enterClose entry enters (.inr rfl) rfl rfl
  | closeFails entry _ _ _ =>
      cases entry with
      | user _ => exact lifetime.move (enters _ rfl) rfl rfl (outside _) fun _ => id
      | destructor idle =>
          constructor
          · exact fun other inside => absurd inside (Fiber.idle_notInDestructor (idle other))
          · exact fun _ other => .inl (idle other)
          · exact fun destroyed => by cases destroyed
      | eof woken _ _ =>
          exact lifetime.move (lifetime.alive_of_reader woken) rfl rfl (outside _) fun _ => id
  | @closes fib closer serial result _ shut _ =>
      by_cases destructor : closer = .destructor
      · subst destructor
        have inside : (state.fiber fib).InDestructor := ⟨_, _, .inl shut⟩
        have unfinished : state.life ≠ .destroyed := by
          intro destroyed
          have idle := lifetime.done destroyed fib
          rw [shut] at idle
          cases idle
        exact Lifetime.inside (lifetime.begun fib inside) unfinished rfl ⟨_, _, .inr rfl⟩
          fun other differs => lifetime.others_idle owned inside differs
      · exact lifetime.move (lifetime.alive_of_wait shut (by simpa using destructor) (by simp)) rfl
          rfl (Fiber.wait_notInDestructor (by simp) (by simpa using destructor)) fun _ => id
  | @shutdownFails _ closer _ _ _ shut _ =>
      cases closer with
      | user =>
          exact lifetime.move (lifetime.alive_of_wait shut (by simp) (by simp)) rfl rfl (outside _)
            fun _ => id
      | eof call =>
          exact lifetime.move (lifetime.alive_of_wait shut (by simp) (by simp)) rfl rfl (outside _)
            fun _ => id
      | destructor =>
          have dead := lifetime.begun _ ⟨_, _, .inl shut⟩
          constructor
          · exact fun _ _ => by simp [State.closeThrew]
          · exact fun _ => lifetime.alone dead
          · exact fun destroyed => by cases destroyed
  | closeReturnsToUser ran => exact lifetime.closeReturned (by simp) ran rfl rfl
  | @closeReturnsToDestructor fib _ _ _ ran =>
      have inside : (state.fiber fib).InDestructor := ⟨_, _, .inr ran⟩
      have idle : ∀ other, (Function.update state.notifyAll.fiber fib
          (.idle (some (.returned []))) other).isIdle = true := by
        intro other
        by_cases same : other = fib
        · rw [same, Function.update_self]
          rfl
        · rw [Function.update_of_ne same, State.notifyAll_fiber, Fiber.notify_isIdle]
          exact lifetime.others_idle owned inside same
      constructor
      · exact fun _ _ => by simp
      · exact fun _ other => .inl (idle other)
      · exact fun _ => idle
  | closeReturnsToRead ran _ _ => exact lifetime.closeReturned (by simp) ran rfl rfl
  | closeStopsRead ran _ => exact lifetime.closeReturned (by simp) ran rfl rfl
  | @destroysClosed fib _ idle _ =>
      have stillIdle : ∀ other, (Function.update state.fiber fib
          (.idle (some (.returned []))) other).isIdle = true := by
        intro other
        by_cases same : other = fib
        · rw [same, Function.update_self]
          rfl
        · rw [Function.update_of_ne same]
          exact idle other
      constructor
      · exact fun _ _ => by simp
      · exact fun _ other => .inl (stillIdle other)
      · exact fun _ => stillIdle
  | completes _ _ awaits => exact lifetime.answer rfl awaits rfl
  | delivers _ _ _ =>
      exact lifetime.same rfl (fun _ => Fiber.notify_isIdle _)
        fun _ => Fiber.notify_inDestructor_iff
  | handleCloses _ _ _ awaits => exact lifetime.answer rfl awaits rfl

end Preservation

/-! ## Reachable states -/

variable [DecidableEq Fib] [Fintype Fib] {state after : State Fib} {action : Action Fib}

/-- Only a socket that is alive is called. -/
theorem step_caller_alive (stepped : (machine Fib).step state action = some after) (fib : Fib)
    (calls : action.caller = some fib) : state.life = .alive := by
  have stepped : state.step action = some after := stepped
  obtain ⟨_, stepped⟩ := Option.ite_none_left_eq_some.mp stepped
  cases action with
  | connect _ _ | read _ _ _ | write _ _ _ | close _ _ =>
      obtain ⟨enabled, _⟩ := Option.ite_none_right_eq_some.mp stepped
      simp only [State.canCall, Bool.and_eq_true, decide_eq_true_eq] at enabled
      first | exact enabled.1 | exact enabled.1.1
  | destroy _ _ =>
      obtain ⟨enabled, _⟩ := Option.ite_none_right_eq_some.mp stepped
      exact enabled.1
  | resume _ _ | complete _ _ | readCallback _ _ | onHandleClosed => cases calls

theorem reachable_lifetime {allowed : State Fib → Action Fib → Prop}
    (reachable : (machine Fib).Reachable allowed state) : Lifetime state := by
  apply reachable.invariant_under (fun _ => reachable_owned)
  · rintro _ ⟨memory, rfl⟩
    exact Lifetime.initial memory
  · intro before action after owned lifetime _ stepped
    exact (step_transition owned stepped).lifetime owned lifetime (step_caller_alive stepped)

/-! ## The end of the life -/

omit [DecidableEq Fib] [Fintype Fib] in
theorem CloseEntry.life_cases {fib : Fib} {status : Int} {closer : Closer} {entered : State Fib}
    (entry : CloseEntry state fib action status closer entered) :
    entered.life = state.life ∨ entered.life ≠ .alive := by
  cases entry with
  | user idle => exact .inl rfl
  | destructor idle => exact .inr (by simp)
  | eof woken finished atEof => exact .inl rfl

omit [Fintype Fib] in
theorem closeThrew_life (state : State Fib) (fib : Fib) (closer : Closer) (exc : Exc) :
    (state.closeThrew fib closer exc).life = state.life ∨
      (state.closeThrew fib closer exc).life ≠ .alive := by
  cases closer with
  | user => exact .inl rfl
  | eof call => exact .inl rfl
  | destructor => exact .inr (by simp [State.closeThrew])

omit [Fintype Fib] in
/-- An object that is being destroyed does not come back to life. -/
theorem Transition.life_cases (transition : Transition state action after) :
    after.life = state.life ∨ after.life ≠ .alive := by
  cases transition with
  | shutsDown entry _ _ => exact entry.life_cases
  | closesAtOnce entry _ _ => exact entry.life_cases
  | @closeFails fib _ _ closer entered exc entry _ _ _ =>
      rcases closeThrew_life { entered.emit .uvShutdown with closed := true } fib closer exc with
        same | dead
      · rw [same]
        exact entry.life_cases
      · exact .inr dead
  | @shutdownFails fib closer _ exc _ _ _ => exact closeThrew_life state fib closer exc
  | admits entry _ _ _ => cases entry <;> exact .inl rfl
  | rejects entry _ _ _ => cases entry <;> exact .inl rfl
  | readsNull entry _ _ _ => cases entry <;> exact .inl (by simp)
  | closeReturnsToDestructor ran => exact .inr (by simp)
  | destroysClosed idle closed => exact .inr (by simp)
  | _ => exact .inl (by simp)

omit [DecidableEq Fib] [Fintype Fib] in
theorem CloseEntry.stays_alive {fib : Fib} {status : Int} {closer : Closer}
    {entered : State Fib} (entry : CloseEntry state fib action status closer entered)
    (alive : state.life = .alive) (notDestroy : ∀ fib status, action ≠ .destroy fib status) :
    closer ≠ .destructor ∧ entered.life = .alive := by
  cases entry with
  | user idle => exact ⟨by simp, alive⟩
  | destructor idle => exact absurd rfl (notDestroy _ _)
  | eof woken finished atEof => exact ⟨by simp, alive⟩

omit [Fintype Fib] in
theorem closeThrew_life_of_ne {closer : Closer} (other : closer ≠ .destructor)
    (state : State Fib) (fib : Fib) (exc : Exc) :
    (state.closeThrew fib closer exc).life = state.life := by
  cases closer with
  | user => rfl
  | eof call => rfl
  | destructor => exact absurd rfl other

omit [Fintype Fib] in
/-- Nothing but its destructor ends the life of an object. -/
theorem Transition.stays_alive (transition : Transition state action after)
    (lifetime : Lifetime state) (alive : state.life = .alive)
    (notDestroy : ∀ fib status, action ≠ .destroy fib status) : after.life = .alive := by
  cases transition with
  | shutsDown entry _ _ => exact (entry.stays_alive alive notDestroy).2
  | closesAtOnce entry _ _ => exact (entry.stays_alive alive notDestroy).2
  | closeFails entry _ _ _ =>
      obtain ⟨other, entered⟩ := entry.stays_alive alive notDestroy
      rw [closeThrew_life_of_ne other]
      exact entered
  | @shutdownFails fib closer serial exc _ shut _ =>
      have other : closer ≠ .destructor := by
        rintro rfl
        exact lifetime.begun fib ⟨_, _, .inl shut⟩ alive
      rw [closeThrew_life_of_ne other]
      exact alive
  | admits entry _ _ _ => cases entry <;> exact alive
  | rejects entry _ _ _ => cases entry <;> exact alive
  | readsNull entry _ _ _ => cases entry <;> simpa using alive
  | closeReturnsToDestructor ran => exact absurd alive (lifetime.begun _ ⟨_, _, .inr ran⟩)
  | destroysClosed idle closed => exact absurd rfl (notDestroy _ _)
  | _ => simpa using alive

/-- The destructor can run as soon as no fiber is inside. -/
theorem destroy_enabled (alive : state.life = .alive)
    (idle : ∀ fib, (state.fiber fib).isIdle = true) (fib : Fib) (status : Int) :
    (machine Fib).step state (.destroy fib status) = some (state.destroy fib status) := by
  show state.step (.destroy fib status) = _
  unfold State.step
  rw [if_neg (by rw [alive]; decide)]
  exact if_pos ⟨alive, idle⟩

theorem destroy_life {fib : Fib} {status : Int}
    (stepped : (machine Fib).step state (.destroy fib status) = some after) :
    after.life ≠ .alive := by
  obtain ⟨_, stepped⟩ := Option.ite_none_left_eq_some.mp stepped
  obtain ⟨_, stepped⟩ := Option.ite_none_right_eq_some.mp stepped
  cases stepped
  simp only [State.destroy, State.close, State.shutdownThrew, State.closeThrew]
  split
  · simp
  · split
    · split <;> simp
    · simp

/-! ## Nothing is left -/

omit [DecidableEq Fib] [Fintype Fib] in
/-- Without a suspended call there is no request. -/
theorem Owned.no_requests (owned : Owned state)
    (idle : ∀ fib, (state.fiber fib).isIdle = true) : state.requests = [] := by
  rw [List.eq_nil_iff_forall_not_mem]
  intro request member
  obtain ⟨_, waiting, _, awaits⟩ := owned.pending request member
  have isIdle := idle request.data.fiber
  rw [awaits] at isIdle
  cases isIdle

/-- No fiber is inside the object, libuv holds no request and no watcher of it,
its handle is closed, and no step is possible any more: in particular no
callback runs with a pointer to it. -/
structure OutOfReach (state : State Fib) : Prop where
  outside : ∀ fib, (state.fiber fib).isIdle = true
  requests : state.requests = []
  unwatched : state.tcp.watching = false
  handle : state.tcp.closed = true
  inert : ∀ action, (machine Fib).step state action = none

/-- A destroyed socket is out of reach. -/
theorem outOfReach_of_destroyed (reachable : (machine Fib).Reachable GracefulShutdown state)
    (destroyed : state.life = .destroyed) : OutOfReach state := by
  have owned := reachable_owned reachable
  have idle := (reachable_lifetime reachable).done destroyed
  have requests := owned.no_requests idle
  have order := reachable_closesInOrder reachable
  obtain ⟨_, _, closing, closed, _⟩ := order.returned (order.destroyed destroyed)
  have stopped : state.tcp.watching = false := by
    by_contra watching
    have live := owned.watched (by simpa using watching)
    exact absurd (live.symm.trans closing) (by decide)
  refine ⟨idle, requests, stopped, closed, fun action => ?_⟩
  show state.step action = none
  unfold State.step
  rw [if_neg order.running]
  have dead : ¬ state.life = .alive := by
    rw [destroyed]
    decide
  cases action with
  | connect fib status => simp [State.canCall, dead]
  | read fib request status => simp [State.canCall, dead]
  | write fib data status => simp [State.canCall, dead]
  | close fib status => simp [State.canCall, dead]
  | destroy fib status => simp [dead]
  | resume fib status =>
      show state.resume fib status = none
      have isIdle := idle fib
      unfold State.resume
      cases fiber : state.fiber fib with
      | idle last => rfl
      | waitRead notified call =>
          rw [fiber] at isIdle
          cases isIdle
      | wait waiting serial promise =>
          rw [fiber] at isIdle
          cases isIdle
  | complete id status => simp [State.complete, requests]
  | readCallback nread bytes => simp [State.readCallback, stopped]
  | onHandleClosed => simp [State.onHandleClosed, closed]

end Fiberio.Socket
