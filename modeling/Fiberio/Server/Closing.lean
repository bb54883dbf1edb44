import Fiberio.Server.Accepting

/-!
Owns the end of a server socket. Whoever closes it first brings it through
`uv_close`, the close callback and the return of `close`, in this order and
once; once the destructor is over nothing can reach the object any more.

Does not own what the other operations do on a closed server.
-/

namespace Fiberio.Server

open Fiberio.Foundation

variable {Fib Sock : Type}

/-! ## The stages of a close -/

inductive Milestone where
  | uvClose
  | onHandleClosed
  | closeReturned
deriving DecidableEq, Repr

def Event.milestone : Event Fib Sock → Option Milestone
  | .uvClose => some .uvClose
  | .onHandleClosed => some .onHandleClosed
  | .closeReturned => some .closeReturned
  | _ => none

/-- How far the close has come, and what it went through. -/
def milestones (log : List (Event Fib Sock)) : List Milestone := log.filterMap Event.milestone

theorem milestones_append (first second : List (Event Fib Sock)) :
    milestones (first ++ second) = milestones first ++ milestones second :=
  List.filterMap_append

/-- The stage of the close can be read off the handle and the fibers. -/
structure ClosesInOrder (state : State Fib Sock) : Prop where
  notYet : state.tcp.closing = false → milestones state.log = []
  issued : state.tcp.closing = true → state.tcp.closed = false →
    milestones state.log = [.uvClose]
  ran : state.tcp.closed = true → (∃ fib, ¬ (state.fiber fib).OutsideClose) →
    milestones state.log = [.uvClose, .onHandleClosed]
  returned : state.tcp.closed = true → (∀ fib, (state.fiber fib).OutsideClose) →
    milestones state.log = [.uvClose, .onHandleClosed, .closeReturned]

theorem Fiber.outsideClose_notify {fiber : Fiber Sock} :
    fiber.notify.OutsideClose ↔ fiber.OutsideClose := by
  simp only [Fiber.OutsideClose, ne_eq, Fiber.notify_eq_wait_iff]

theorem Fiber.wait_notOutsideClose {closer : Closer} {serial : Nat}
    {promise : Socket.PromiseState} {fiber : Fiber Sock}
    (waits : fiber = .wait (.closeHandle closer) serial promise) : ¬ fiber.OutsideClose :=
  fun outside => outside _ _ _ waits

namespace ClosesInOrder

variable {state after : State Fib Sock} {fib : Fib}

theorem initial (port : UInt16) : ClosesInOrder (initial port : State Fib Sock) := by
  constructor
  · exact fun _ => rfl
  · exact fun closing => by cases closing
  · exact fun closed => by cases closed
  · exact fun closed => by cases closed

/-- The close stays at its stage. -/
theorem same (inOrder : ClosesInOrder state) (events : List (Event Fib Sock))
    (log : after.log = state.log ++ events) (silent : milestones events = [])
    (closing : after.tcp.closing = state.tcp.closing) (closed : after.tcp.closed = state.tcp.closed)
    (closers : ∀ fib, (after.fiber fib).OutsideClose ↔ (state.fiber fib).OutsideClose) :
    ClosesInOrder after := by
  have kept : milestones after.log = milestones state.log := by
    rw [log, milestones_append, silent, List.append_nil]
  constructor
  · rw [kept, closing]
    exact inOrder.notYet
  · rw [kept, closing, closed]
    exact inOrder.issued
  · rw [kept, closed]
    simpa only [closers] using inOrder.ran
  · rw [kept, closed]
    simpa only [closers] using inOrder.returned

theorem prefix_all (inOrder : ClosesInOrder state) :
    milestones state.log <+: [.uvClose, .onHandleClosed, .closeReturned] := by
  cases closing : state.tcp.closing with
  | false =>
      rw [inOrder.notYet closing]
      exact List.nil_prefix
  | true =>
      cases closed : state.tcp.closed with
      | false =>
          rw [inOrder.issued closing closed]
          exact ⟨[.onHandleClosed, .closeReturned], rfl⟩
      | true =>
          by_cases outside : ∀ fib, (state.fiber fib).OutsideClose
          · rw [inOrder.returned closed outside]
          · rw [inOrder.ran closed (not_forall.mp outside)]
            exact ⟨[.closeReturned], rfl⟩

/-- `closed_` is set exactly when the handle is being closed. -/
theorem closed_iff (inOrder : ClosesInOrder state) (owned : Owned state) :
    state.closed = true ↔ milestones state.log ≠ [] := by
  rw [owned.closed_eq]
  constructor
  · intro closing
    cases closed : state.tcp.closed with
    | false => simp [inOrder.issued closing closed]
    | true =>
        by_cases outside : ∀ fib, (state.fiber fib).OutsideClose
        · simp [inOrder.returned closed outside]
        · simp [inOrder.ran closed (not_forall.mp outside)]
  · intro begun
    by_contra live
    exact begun (inOrder.notYet (by simpa using live))

variable [DecidableEq Fib]

theorem outsideClose_update {fiber : Fib → Fiber Sock} {value : Fiber Sock}
    (before : (fiber fib).OutsideClose) (now : value.OutsideClose) (other : Fib) :
    (Function.update fiber fib value other).OutsideClose ↔ (fiber other).OutsideClose := by
  by_cases same : other = fib
  · rw [same, Function.update_self]
    exact iff_of_true now before
  · rw [Function.update_of_ne same]

/-- One fiber moves outside `close`. -/
theorem move {value : Fiber Sock} (inOrder : ClosesInOrder state)
    (events : List (Event Fib Sock)) (log : after.log = state.log ++ events)
    (silent : milestones events = []) (tcp : after.tcp.closing = state.tcp.closing)
    (closed : after.tcp.closed = state.tcp.closed)
    (moved : after.fiber = Function.update state.fiber fib value)
    (before : (state.fiber fib).OutsideClose) (now : value.OutsideClose) :
    ClosesInOrder after := by
  apply inOrder.same events log silent tcp closed
  intro other
  rw [moved]
  exact outsideClose_update before now other

end ClosesInOrder

/-! ## Every step keeps the order -/

section Steps

variable [DecidableEq Fib] {state after : State Fib Sock} {fib : Fib} {action : Action Fib Sock}

omit [DecidableEq Fib] in
theorem Fiber.wait_outsideClose {waiting : Waiting} {serial : Nat} {promise : Socket.PromiseState}
    (other : ∀ closer, waiting ≠ .closeHandle closer) :
    (Fiber.wait waiting serial promise : Fiber Sock).OutsideClose := by
  intro closer _ _ same
  cases same
  exact other closer rfl

omit [DecidableEq Fib] in
theorem Ends.milestones {operation : Operation} {outcome : Outcome Sock}
    {events : List (Event Fib Sock)} {host : String} {port : UInt16}
    (ends : Ends state fib action operation outcome events host port) :
    milestones (events ++ [.finished fib operation outcome]) = [] := by
  cases ends <;> rfl

omit [DecidableEq Fib] in
/-- One fiber at most is inside `close`. -/
theorem Owned.closer_unique {other : Fib} {closer : Closer} {serial : Nat}
    {promise : Socket.PromiseState} (owned : Owned state)
    (waits : state.fiber fib = .wait (.closeHandle closer) serial promise)
    (differs : other ≠ fib) : (state.fiber other).OutsideClose := by
  intro closer' serial' promise' also
  have data := (owned.handle _ _ _ _ waits).2.1
  have otherData := (owned.handle _ _ _ _ also).2.1
  rw [data] at otherData
  cases otherData
  exact differs rfl

theorem Transition.closesInOrder (transition : Transition state action after) (owned : Owned state)
    (inOrder : ClosesInOrder state) : ClosesInOrder after := by
  have idle : ∀ last, (Fiber.idle last : Fiber Sock).OutsideClose :=
    fun _ => Fiber.idle_outsideClose rfl
  cases transition with
  | @ends fib _ operation outcome events _ _ ends =>
      exact inOrder.move (events ++ [.finished fib operation outcome]) (by simp) ends.milestones
        rfl rfl rfl ends.outsideClose (idle _)
  | resolves isIdle =>
      exact inOrder.move [.uvGetaddrinfo] rfl rfl rfl rfl rfl (Fiber.idle_outsideClose isIdle)
        (Fiber.wait_outsideClose (by simp))
  | @listens fib _ isIdle =>
      exact inOrder.move [.uvListen, .finished fib .listen .returned] (by simp) rfl rfl rfl rfl
        (Fiber.idle_outsideClose isIdle) (idle _)
  | waits entry _ _ =>
      exact inOrder.move [] (by simp) rfl rfl rfl rfl entry.outsideClose
        (by simp [Fiber.OutsideClose])
  | accepts entry _ _ _ _ =>
      exact inOrder.move [_, _] (by simp; exact ⟨rfl, rfl⟩) rfl rfl rfl rfl entry.outsideClose
        (idle _)
  | acceptFails entry _ _ _ =>
      exact inOrder.move [_] rfl rfl rfl rfl rfl entry.outsideClose (by simp [Fiber.OutsideClose])
  | @closes fib _ closer _ entry isOpen =>
      have live : state.tcp.closing = false := owned.closed_eq.symm.trans isOpen
      have unclosed : state.tcp.closed = false := (owned.object live).2
      constructor
      · exact fun notClosing => by cases notClosing
      · intro _ _
        show milestones (state.log ++ [.uvClose]) = [.uvClose]
        rw [milestones_append, inOrder.notYet live]
        rfl
      · intro closed
        exact absurd (unclosed.symm.trans closed) (by decide)
      · intro closed
        exact absurd (unclosed.symm.trans closed) (by decide)
  | @closeReturns fib closer serial result answers ran =>
      obtain ⟨closing, _, closed⟩ := owned.handle _ _ _ _ ran
      have closed : state.tcp.closed = true := closed.mpr (by simp)
      have earlier := inOrder.ran closed ⟨fib, Fiber.wait_notOutsideClose ran⟩
      have outside : ∀ other, ((state.closeHandleDone fib closer).fiber other).OutsideClose := by
        intro other
        rw [closeHandleDone_fiber]
        by_cases same : other = fib
        · rw [same, Function.update_self]
          exact idle _
        · rw [Function.update_of_ne same, Fiber.outsideClose_notify]
          exact owned.closer_unique ran same
      constructor
      · rw [closeHandleDone_tcp, closing]
        exact fun live => by cases live
      · rw [closeHandleDone_tcp, closed]
        exact fun _ unclosed => by cases unclosed
      · rintro _ ⟨other, inside⟩
        exact absurd (outside other) inside
      · intro _ _
        rw [closeHandleDone_log, milestones_append, earlier]
        rfl
  | @destroysClosed fib isIdle _ =>
      exact inOrder.move [.finished fib .destroy .returned] rfl rfl rfl rfl rfl
        (Fiber.idle_outsideClose (isIdle fib)) (idle _)
  | completes _ awaits =>
      refine inOrder.move [_] rfl rfl rfl rfl rfl ?_ (Fiber.wait_outsideClose (by simp))
      rw [awaits]
      exact Fiber.wait_outsideClose (by simp)
  | @connects status _ _ _ =>
      exact inOrder.same [.connectionCallback status, .notifyAll] (by simp) rfl rfl rfl
        fun _ => Fiber.outsideClose_notify
  | @handleCloses fib closer serial closing unclosed awaits =>
      have inside : ∃ other, ¬ (Function.update state.fiber fib
          (.wait (.closeHandle closer) serial (.set (.ok ()))) other).OutsideClose := by
        refine ⟨fib, ?_⟩
        rw [Function.update_self]
        exact Fiber.wait_notOutsideClose rfl
      constructor
      · intro live
        exact absurd (closing.symm.trans live) (by decide)
      · exact fun _ notClosed => by cases notClosed
      · intro _ _
        rw [State.setFiber_log, State.emit_log, milestones_append, inOrder.issued closing unclosed]
        rfl
      · intro _ outside
        obtain ⟨other, within⟩ := inside
        exact absurd (outside other) within

end Steps

/-! ## The destructor -/

/-- The fiber runs the destructor, inside its `close`. -/
def Fiber.InDestructor (fiber : Fiber Sock) : Prop :=
  ∃ serial promise, fiber = .wait (.closeHandle .destructor) serial promise

/-- The destructor has the object to itself. -/
structure Lifetime (state : State Fib Sock) : Prop where
  begun : ∀ fib, (state.fiber fib).InDestructor → state.life ≠ .alive
  alone : state.life ≠ .alive → ∀ fib, (state.fiber fib).isIdle = true ∨
    (state.fiber fib).InDestructor
  done : state.life = .destroyed → ∀ fib, (state.fiber fib).isIdle = true
  closed : state.life ≠ .alive → state.closed = true

theorem Fiber.outsideClose_notInDestructor {fiber : Fiber Sock} (outside : fiber.OutsideClose) :
    ¬ fiber.InDestructor := by
  rintro ⟨serial, promise, inside⟩
  exact outside _ _ _ inside

theorem Fiber.notify_inDestructor_iff {fiber : Fiber Sock} :
    fiber.notify.InDestructor ↔ fiber.InDestructor := by
  simp only [Fiber.InDestructor, Fiber.notify_eq_wait_iff]

theorem Fiber.notify_isIdle (fiber : Fiber Sock) : fiber.notify.isIdle = fiber.isIdle := by
  cases fiber <;> rfl

/-- The action enters the library. -/
def Action.isCall : Action Fib Sock → Bool
  | .bind _ _ _ _ | .listen _ _ | .accept _ _ _ | .close _ | .destroy _ => true
  | .resume _ _ | .unwound _ | .complete _ _ | .connectionCallback _ | .onHandleClosed => false

namespace Lifetime

variable {state after : State Fib Sock} {fib : Fib}

/-- Nobody is inside. -/
theorem vacant (idle : ∀ fib, (state.fiber fib).isIdle = true)
    (closed : state.life ≠ .alive → state.closed = true) : Lifetime state := by
  constructor
  · exact fun fib inside => absurd inside
      (Fiber.outsideClose_notInDestructor (Fiber.idle_outsideClose (idle fib)))
  · exact fun _ fib => .inl (idle fib)
  · exact fun _ => idle
  · exact closed

/-- A fiber that is inside an operation other than the destructor. -/
theorem alive (lifetime : Lifetime state) (inside : (state.fiber fib).isIdle = false)
    (outside : ¬ (state.fiber fib).InDestructor) : state.life = .alive := by
  by_contra dead
  rcases lifetime.alone dead fib with idle | destructor
  · exact absurd (inside.symm.trans idle) (by decide)
  · exact outside destructor

/-- Every fiber stays what it was: idle, or inside the destructor. -/
theorem same (lifetime : Lifetime state) (life : after.life = state.life)
    (closed : after.closed = state.closed)
    (idle : ∀ fib, (after.fiber fib).isIdle = (state.fiber fib).isIdle)
    (inside : ∀ fib, (after.fiber fib).InDestructor ↔ (state.fiber fib).InDestructor) :
    Lifetime after := by
  constructor
  · intro fib destructor
    rw [life]
    exact lifetime.begun fib ((inside fib).mp destructor)
  · intro dead fib
    rw [life] at dead
    rw [idle, inside]
    exact lifetime.alone dead fib
  · intro destroyed fib
    rw [idle]
    exact lifetime.done (life ▸ destroyed) fib
  · rw [life, closed]
    exact lifetime.closed

variable [DecidableEq Fib]

/-- A fiber moves on, outside the destructor, while the object is alive. -/
theorem move {fibers : Fib → Fiber Sock} {value : Fiber Sock} (lifetime : Lifetime state)
    (alive : state.life = .alive) (life : after.life = state.life)
    (moved : after.fiber = Function.update fibers fib value) (outside : ¬ value.InDestructor)
    (others : ∀ other, (fibers other).InDestructor → (state.fiber other).InDestructor) :
    Lifetime after := by
  have isAlive : after.life = .alive := life.trans alive
  constructor
  · intro other inside
    rw [moved] at inside
    by_cases same : other = fib
    · rw [same, Function.update_self] at inside
      exact absurd inside outside
    · rw [Function.update_of_ne same] at inside
      exact absurd alive (lifetime.begun other (others other inside))
  · exact fun dead => absurd isAlive dead
  · intro destroyed
    rw [isAlive] at destroyed
    cases destroyed
  · exact fun dead => absurd isAlive dead

end Lifetime

section Preservation

variable [DecidableEq Fib] {state after : State Fib Sock} {fib : Fib} {action : Action Fib Sock}

omit [DecidableEq Fib] in
theorem AcceptEntry.alive {status : Int} {socket : Sock}
    (entry : AcceptEntry state fib action status socket) (lifetime : Lifetime state)
    (enters : action.isCall = true → state.life = .alive) : state.life = .alive := by
  cases entry with
  | call _ => exact enters rfl
  | woken notified =>
      apply @lifetime.alive _ _ _ fib
      · rw [notified]
        rfl
      · rw [notified]
        rintro ⟨_, _, same⟩
        cases same

omit [DecidableEq Fib] in
theorem Ends.alive {operation : Operation} {outcome : Outcome Sock}
    {events : List (Event Fib Sock)} {host : String} {port : UInt16}
    (ends : Ends state fib action operation outcome events host port) (lifetime : Lifetime state)
    (enters : action.isCall = true → state.life = .alive) : state.life = .alive := by
  have notInDestructor := Fiber.outsideClose_notInDestructor ends.outsideClose
  cases ends with
  | lookupFails _ _ | listenFails _ _ | closesAgain _ _ => exact enters rfl
  | acceptStops entry _ => exact entry.alive lifetime enters
  | unresolved here | bindFails here _ | nameFails here _ _ | binds here _ _
  | acceptUnwinds here =>
      refine lifetime.alive ?_ notInDestructor
      rw [here]
      rfl

theorem Transition.lifetime (transition : Transition state action after) (owned : Owned state)
    (lifetime : Lifetime state) (enters : action.isCall = true → state.life = .alive) :
    Lifetime after := by
  have idle : ∀ last, ¬ (Fiber.idle last : Fiber Sock).InDestructor :=
    fun _ => Fiber.outsideClose_notInDestructor (Fiber.idle_outsideClose rfl)
  cases transition with
  | ends ends =>
      exact lifetime.move (ends.alive lifetime enters) rfl rfl (idle _) fun _ => id
  | resolves _ =>
      exact lifetime.move (enters rfl) rfl rfl (by simp [Fiber.InDestructor]) fun _ => id
  | listens _ => exact lifetime.move (enters rfl) rfl rfl (idle _) fun _ => id
  | waits entry _ _ =>
      exact lifetime.move (entry.alive lifetime enters) rfl rfl (by simp [Fiber.InDestructor])
        fun _ => id
  | accepts entry _ _ _ _ =>
      exact lifetime.move (entry.alive lifetime enters) rfl rfl (idle _) fun _ => id
  | acceptFails entry _ _ _ =>
      exact lifetime.move (entry.alive lifetime enters) rfl rfl (by simp [Fiber.InDestructor])
        fun _ => id
  | @closes fib _ closer life entry isOpen =>
      cases entry with
      | user _ =>
          exact lifetime.move (enters rfl) rfl rfl (by simp [Fiber.InDestructor]) fun _ => id
      | destructor allIdle =>
          constructor
          · exact fun _ _ => by simp
          · intro _ other
            show (Function.update state.fiber fib _ other).isIdle = true ∨
              (Function.update state.fiber fib _ other).InDestructor
            by_cases same : other = fib
            · rw [same, Function.update_self]
              exact .inr ⟨_, _, rfl⟩
            · rw [Function.update_of_ne same]
              exact .inl (allIdle other)
          · exact fun destroyed => by cases destroyed
          · exact fun _ => rfl
  | @closeReturns fib closer serial result answers ran =>
      cases closer with
      | user =>
          refine lifetime.move ?_ rfl rfl (idle _) ?_
          · apply @lifetime.alive _ _ _ fib
            · rw [ran]
              rfl
            · rw [ran]
              simp [Fiber.InDestructor]
          · exact fun _ => Fiber.notify_inDestructor_iff.mp
      | destructor =>
          -- Nobody else is inside, so the object is free.
          have dead := lifetime.begun fib ⟨_, _, ran⟩
          have allIdle : ∀ other,
              ((state.closeHandleDone fib .destructor).fiber other).isIdle = true := by
            intro other
            rw [closeHandleDone_fiber]
            by_cases same : other = fib
            · rw [same, Function.update_self]
              rfl
            · rw [Function.update_of_ne same, Fiber.notify_isIdle]
              refine (lifetime.alone dead other).resolve_right ?_
              exact Fiber.outsideClose_notInDestructor (owned.closer_unique ran same)
          exact .vacant allIdle fun _ => lifetime.closed dead
  | @destroysClosed fib allIdle closed =>
      have allIdle : ∀ other,
          (Function.update state.fiber fib (.idle (some .returned)) other).isIdle = true := by
        intro other
        by_cases same : other = fib
        · rw [same, Function.update_self]
          rfl
        · rw [Function.update_of_ne same]
          exact allIdle other
      exact .vacant allIdle fun _ => closed
  | @completes _ _ request _ awaits =>
      refine lifetime.move ?_ rfl rfl (by simp [Fiber.InDestructor]) fun _ => id
      apply @lifetime.alive _ _ _ request.data.fiber
      · rw [awaits]
        rfl
      · rw [awaits]
        simp [Fiber.InDestructor]
  | connects _ _ _ =>
      exact lifetime.same rfl rfl (fun _ => Fiber.notify_isIdle _)
        fun _ => Fiber.notify_inDestructor_iff
  | @handleCloses fib closer serial _ _ awaits =>
      refine lifetime.same rfl rfl ?_ ?_
      · intro other
        show (Function.update state.fiber fib _ other).isIdle = _
        by_cases same : other = fib
        · rw [same, Function.update_self, awaits]
          rfl
        · rw [Function.update_of_ne same]
      · intro other
        show (Function.update state.fiber fib _ other).InDestructor ↔ _
        by_cases same : other = fib
        · rw [same, Function.update_self, awaits]
          simp [Fiber.InDestructor]
        · rw [Function.update_of_ne same]

variable [Fintype Fib]

/-- Only an object that is alive can be called. -/
theorem step_alive (stepped : (machine Fib Sock).step state action = some after)
    (call : action.isCall = true) : state.life = .alive := by
  have called : ∀ fib, state.canCall fib = true → state.life = .alive := by
    intro fib enabled
    rw [State.canCall, Bool.and_eq_true, decide_eq_true_eq] at enabled
    exact enabled.1
  cases action with
  | bind fib _ _ _ | listen fib _ | accept fib _ _ | close fib =>
      obtain ⟨enabled, _⟩ := Option.ite_none_right_eq_some.mp stepped
      exact called fib enabled
  | destroy fib =>
      obtain ⟨enabled, _⟩ := Option.ite_none_right_eq_some.mp stepped
      exact enabled.1
  | resume _ _ | unwound _ | complete _ _ | connectionCallback _ | onHandleClosed => cases call

end Preservation

/-! ## The end -/

section Reachable

variable [DecidableEq Fib] [Fintype Fib] {allowed : State Fib Sock → Action Fib Sock → Prop}
  {state : State Fib Sock}

theorem reachable_closesInOrder (reachable : (machine Fib Sock).Reachable allowed state) :
    ClosesInOrder state := by
  apply reachable_invariant reachable ClosesInOrder.initial
  intro before action after owned inOrder _ transition
  exact transition.closesInOrder owned inOrder

theorem reachable_lifetime (reachable : (machine Fib Sock).Reachable allowed state) :
    Lifetime state := by
  apply reachable.invariant_under (fun _ => reachable_owned)
  · intro state starts
    obtain ⟨port, rfl⟩ := starts
    exact .vacant (fun _ => rfl) fun dead => absurd rfl dead
  · intro before action after owned lifetime _ stepped
    exact (step_transition owned stepped).lifetime owned lifetime (step_alive stepped)

omit [DecidableEq Fib] [Fintype Fib] in
theorem Owned.no_requests (owned : Owned state) (idle : ∀ fib, (state.fiber fib).isIdle = true) :
    state.requests = [] := by
  apply List.eq_nil_iff_forall_not_mem.mpr
  intro request member
  have outside := idle request.data.fiber
  rw [(owned.pending request member).2] at outside
  cases outside

omit [DecidableEq Fib] [Fintype Fib] in
/-- When every fiber is outside, a close that was begun is over. -/
theorem ClosesInOrder.finished (inOrder : ClosesInOrder state) (owned : Owned state)
    (idle : ∀ fib, (state.fiber fib).isIdle = true) (closed : state.closed = true) :
    state.tcp.closed = true ∧
      milestones state.log = [.uvClose, .onHandleClosed, .closeReturned] := by
  have outside : ∀ fib, (state.fiber fib).OutsideClose :=
    fun fib => Fiber.idle_outsideClose (idle fib)
  have handleClosed : state.tcp.closed = true := by
    by_contra unclosed
    obtain ⟨fib, closer, serial, awaits⟩ :=
      owned.closing (owned.closed_eq.symm.trans closed) (by simpa using unclosed)
    exact outside fib _ _ _ awaits
  exact ⟨handleClosed, inOrder.returned handleClosed outside⟩

/-- `closed_` stays set over a whole run. -/
theorem Owned.closed_of_exec {final : State Fib Sock} {actions : List (Action Fib Sock)}
    (owned : Owned state) (run : (machine Fib Sock).exec state actions = some final)
    (closed : state.closed = true) : final.closed = true := by
  induction actions generalizing state with
  | nil =>
      cases run
      exact closed
  | cons action rest inductionHypothesis =>
      obtain ⟨after, stepped, tailRun⟩ := Machine.exec_cons_some run
      have transition := step_transition owned stepped
      exact inductionHypothesis (transition.owned owned) tailRun
        (transition.closed owned closed).1

/-- After its destructor no fiber is inside the object, libuv has no request
that points to it and its handle makes no more callbacks. -/
theorem step_of_destroyed (reachable : (machine Fib Sock).Reachable allowed state)
    (destroyed : state.life = .destroyed) (action : Action Fib Sock) :
    (machine Fib Sock).step state action = none := by
  have owned := reachable_owned reachable
  have lifetime := reachable_lifetime reachable
  have idle := lifetime.done destroyed
  have closed := lifetime.closed (by simp [destroyed])
  obtain ⟨handleClosed, _⟩ := (reachable_closesInOrder reachable).finished owned idle closed
  have closing : state.tcp.closing = true := owned.closed_eq.symm.trans closed
  have none : state.requests = [] := owned.no_requests idle
  have uncallable : ∀ fib, state.canCall fib = false := by
    intro fib
    simp [State.canCall, destroyed]
  show state.step action = .none
  cases action with
  | bind fib host port status => simp [State.step, uncallable]
  | listen fib status => simp [State.step, uncallable]
  | accept fib status socket => simp [State.step, uncallable]
  | close fib => simp [State.step, uncallable]
  | destroy fib => simp [State.step, destroyed]
  | resume fib answers =>
      have outside := idle fib
      cases here : state.fiber fib with
      | idle last => simp [State.step, State.resume, here]
      | waitAccept _ | unwinding _ _ | wait _ _ _ =>
          rw [here] at outside
          cases outside
  | unwound fib =>
      have outside := idle fib
      cases here : state.fiber fib with
      | idle last => simp [State.step, State.unwound, here]
      | waitAccept _ | unwinding _ _ | wait _ _ _ =>
          rw [here] at outside
          cases outside
  | complete id status => simp [State.step, State.complete, none]
  | connectionCallback status => simp [State.step, State.connectionCallback, closing]
  | onHandleClosed => simp [State.step, State.onHandleClosed, handleClosed]

/-- However the fibers and the callbacks interleave: `closed_` stays set once
it is set; the handle is closed at most once, its close callback follows and
then `close` returns; and when the destructor is over all of that has happened
and nothing can reach the object any more. -/
theorem server_closes_once_and_for_all
    (reachable : (machine Fib Sock).Reachable Machine.AnyStep state) :
    (∀ actions final, (machine Fib Sock).exec state actions = some final →
      state.closed = true → final.closed = true) ∧
    milestones state.log <+: [.uvClose, .onHandleClosed, .closeReturned] ∧
    (state.closed = true ↔ milestones state.log ≠ []) ∧
    (state.life = .destroyed →
      milestones state.log = [.uvClose, .onHandleClosed, .closeReturned] ∧
        ∀ action, (machine Fib Sock).step state action = none) := by
  have owned := reachable_owned reachable
  have inOrder := reachable_closesInOrder reachable
  refine ⟨?_, inOrder.prefix_all, inOrder.closed_iff owned, ?_⟩
  · intro actions final run closed
    exact owned.closed_of_exec run closed
  · intro destroyed
    have lifetime := reachable_lifetime reachable
    have closed := lifetime.closed (by simp [destroyed])
    exact ⟨(inOrder.finished owned (lifetime.done destroyed) closed).2,
      step_of_destroyed reachable destroyed⟩

/-- One fiber sleeps in `accept` and another resolves a name when a third
closes; a fourth closes again, and the server is destroyed. -/
theorem busy_server_closes_once :
    ∃ state : State (Fin 3) Unit, (machine (Fin 3) Unit).Reachable Machine.AnyStep state ∧
      state.life = .destroyed ∧
      milestones state.log = [.uvClose, .onHandleClosed, .closeReturned] ∧
        ∀ action, (machine (Fin 3) Unit).step state action = none := by
  have first : (machine (Fin 3) Unit).Reachable Machine.AnyStep (initial 0) := .start ⟨_, rfl⟩
  have reachable := first.exec (Machine.along_anyStep _ _)
    (rfl : (machine (Fin 3) Unit).exec (initial 0)
      [.listen 0 0, .accept 0 0 (), .bind 1 "localhost" 80 0, .close 2, .complete 0 0,
        .resume 1 ⟨uvEinval, 0, .other, ()⟩, .close 1, .onHandleClosed,
        .resume 2 ⟨0, 0, .other, ()⟩, .resume 0 ⟨0, 0, .other, ()⟩, .destroy 1] = some _)
  exact ⟨_, reachable, rfl, (server_closes_once_and_for_all reachable).2.2.2 rfl⟩

end Reachable

end Fiberio.Server
