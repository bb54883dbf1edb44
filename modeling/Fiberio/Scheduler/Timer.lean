import Fiberio.Scheduler.WakeUp

/-!
Owns the timer of `suspend_until` and the reasons for which it returns. The
timer's data pointer leads to a variable of one call, so the timer must be
stopped, or have fired, before that call is over; and a call returns because
a fiber is ready, because its own timer expired, or because some `notify` set
`wake_up_` since the last `suspend_exit`.

Does not own the wake-up guarantee.
-/

namespace Fiberio.Scheduler

open Fiberio.Foundation

variable {Thread Fiber : Type}

/-! ## What the log says about a call -/

/-- The events since the last `suspend_exit`, or since the construction. -/
def sinceExit (log : List (Event Thread)) : List (Event Thread) :=
  log.foldl
    (fun recent event =>
      match event with
      | .suspendExit => []
      | event => recent ++ [event]) []

/-- Some `notify` has set `wake_up_` since the last `suspend_exit`. -/
def Notified (log : List (Event Thread)) : Prop :=
  ∃ thread, .updateNotify thread ∈ sinceExit log

/-- The timer that the call armed has expired. -/
def Expired (log : List (Event Thread)) (call : Nat) : Prop :=
  (∃ milliseconds, .timerStart call milliseconds ∈ log) ∧ .timerFired call ∈ log

theorem notified_append_exit (log : List (Event Thread)) :
    ¬ Notified (log ++ [.suspendExit]) := by
  simp [Notified, sinceExit]

theorem notified_append_updateNotify (log : List (Event Thread)) (thread : Thread) :
    Notified (log ++ [.updateNotify thread]) := by
  refine ⟨thread, ?_⟩
  simp [sinceExit]

/-- The timer's own events do not set `wake_up_`. -/
theorem notified_append_timer {log : List (Event Thread)} {event : Event Thread}
    (timer : (∃ call milliseconds, event = .timerStart call milliseconds) ∨
      (∃ call, event = .timerFired call) ∨ ∃ call, event = .timerStop call) :
    Notified (log ++ [event]) ↔ Notified log := by
  rcases timer with ⟨call, milliseconds, rfl⟩ | ⟨call, rfl⟩ | ⟨call, rfl⟩ <;>
    simp [Notified, sinceExit]

theorem Expired.append {log : List (Event Thread)} {call : Nat} (expired : Expired log call)
    (events : List (Event Thread)) : Expired (log ++ events) call := by
  obtain ⟨⟨milliseconds, started⟩, fired⟩ := expired
  exact ⟨⟨milliseconds, List.mem_append_left _ started⟩, List.mem_append_left _ fired⟩

/-! ## The invariant -/

/-- The locals of the `suspend_until` call that is past its timer. -/
def Pc.locals : Pc Fiber → Option Locals
  | .uvRun locals | .shouldWakeUp locals | .loopTest locals _ _ | .stopTimer locals => some locals
  | _ => none

/-- The number of the call in progress. -/
def Pc.call : Pc Fiber → Option Nat
  | .setTimer _ call => some call
  | pc => pc.locals.map Locals.call

/-- Why the call in progress may return. -/
def Cause (state : State Thread Fiber) (call : Nat) : Prop :=
  state.queue ≠ [] ∨ Expired state.log call ∨ Notified state.log

structure TimerInvariant (state : State Thread Fiber) : Prop where
  active : state.timerActive = true → ∃ locals, state.pc.locals = some locals ∧
    locals.timerSet = true ∧ locals.timerDone = false ∧ state.timerData = some locals.call
  counted : ∀ call, state.pc.call = some call → call + 1 = state.calls
  armed : ∀ locals, state.pc.locals = some locals → locals.timerSet = true →
    ∃ milliseconds, .timerStart locals.call milliseconds ∈ state.log
  fired : ∀ locals, state.pc.locals = some locals → locals.timerDone = true →
    Expired state.log locals.call
  notified : state.wakeUp = true ↔ Notified state.log
  tested : ∀ locals readyFibers wakeUp, state.pc = .loopTest locals readyFibers wakeUp →
    (readyFibers = true → state.queue ≠ []) ∧ (wakeUp = true → Notified state.log)
  left : ∀ locals, state.pc = .stopTimer locals → Cause state locals.call
  exits : state.pc = .suspendExit → ∃ call, call + 1 = state.calls ∧ Cause state call
  direct : state.pc = .wakeUpDirectly → Notified state.log
  sound : state.fault = false

theorem timerInvariant_initial : TimerInvariant (initial : State Thread Fiber) where
  active := by simp [initial]
  counted := by simp [initial, Pc.call, Pc.locals]
  armed := by simp [initial, Pc.locals]
  fired := by simp [initial, Pc.locals]
  notified := by simp [initial, Notified, sinceExit]
  tested := by simp [initial]
  left := by simp [initial]
  exits := by simp [initial]
  direct := by simp [initial]
  sound := rfl

/-! ## Steps that leave the dispatcher where it is -/

section Aside

variable {before after : State Thread Fiber}

/-- A thread notifies, or a fiber becomes ready: the dispatcher stays. -/
theorem TimerInvariant.aside (invariant : TimerInvariant before) (events : List (Event Thread))
    (log : after.log = before.log ++ events) (pc : after.pc = before.pc)
    (active : after.timerActive = before.timerActive) (data : after.timerData = before.timerData)
    (calls : after.calls = before.calls) (queue : before.queue ≠ [] → after.queue ≠ [])
    (notified : after.wakeUp = true ↔ Notified after.log)
    (stays : Notified before.log → Notified after.log) (sound : after.fault = before.fault) :
    TimerInvariant after := by
  have cause : ∀ call, Cause before call → Cause after call := by
    intro call caused
    rcases caused with ready | expired | set
    · exact .inl (queue ready)
    · refine .inr (.inl ?_)
      rw [log]
      exact expired.append events
    · exact .inr (.inr (stays set))
  constructor
  · rw [active, pc, data]
    exact invariant.active
  · rw [pc, calls]
    exact invariant.counted
  · rw [pc, log]
    intro locals isLocals isSet
    obtain ⟨milliseconds, started⟩ := invariant.armed locals isLocals isSet
    exact ⟨milliseconds, List.mem_append_left _ started⟩
  · rw [pc, log]
    intro locals isLocals done
    exact (invariant.fired locals isLocals done).append events
  · exact notified
  · rw [pc]
    intro locals readyFibers wakeUp testing
    obtain ⟨ready, set⟩ := invariant.tested locals readyFibers wakeUp testing
    exact ⟨fun isReady => queue (ready isReady), fun isSet => stays (set isSet)⟩
  · rw [pc]
    exact fun locals leaving => cause _ (invariant.left locals leaving)
  · rw [pc, calls]
    intro exiting
    obtain ⟨call, counted, caused⟩ := invariant.exits exiting
    exact ⟨call, counted, cause call caused⟩
  · rw [pc]
    exact fun direct => stays (invariant.direct direct)
  · rw [sound]
    exact invariant.sound

variable [DecidableEq Thread]

theorem timerInvariant_push {thread : Thread} {fiber : Fiber}
    (invariant : TimerInvariant before) (stepped : before.push thread fiber = some after) :
    TimerInvariant after := by
  unfold State.push at stepped
  split at stepped <;> try contradiction
  cases stepped
  exact invariant.aside [] (by simp [State.setNotifier]) rfl rfl rfl rfl id invariant.notified id
    rfl

theorem timerInvariant_updateNotify {thread : Thread} (invariant : TimerInvariant before)
    (stepped : before.updateNotify thread = some after) : TimerInvariant after := by
  unfold State.updateNotify at stepped
  split at stepped <;> try contradiction
  cases stepped
  have notified := notified_append_updateNotify before.log thread
  exact invariant.aside [.updateNotify thread] rfl rfl rfl rfl rfl id (by simp [notified])
    (fun _ => notified) rfl

theorem timerInvariant_endNotify {thread : Thread} (invariant : TimerInvariant before)
    (stepped : before.endNotify thread = some after) : TimerInvariant after := by
  unfold State.endNotify at stepped
  split at stepped <;> try contradiction
  cases stepped
  exact invariant.aside [] (by simp [State.setNotifier]) rfl rfl rfl rfl id invariant.notified id
    rfl

omit [DecidableEq Thread] in
theorem timerInvariant_awakened {fiber : Fiber} (invariant : TimerInvariant before)
    (stepped : before.awakened fiber = some after) : TimerInvariant after := by
  unfold State.awakened at stepped
  split at stepped <;> try contradiction
  all_goals
    cases stepped
    exact invariant.aside [] (by simp) rfl rfl rfl rfl (by simp) invariant.notified id rfl

end Aside

/-! ## Steps of the dispatcher -/

section Dispatcher

variable {before after : State Thread Fiber}

/-- Outside `suspend_until` the timer is off. -/
theorem TimerInvariant.inactive (invariant : TimerInvariant before)
    (outside : before.pc.locals = none) : before.timerActive = false := by
  by_contra active
  obtain ⟨locals, isLocals, _⟩ := invariant.active (by simpa using active)
  rw [outside] at isLocals
  cases isLocals

/-- With the timer off and no call in progress only the flags count. -/
theorem timerInvariant_outside (inactive : after.timerActive = false)
    (outside : ¬ after.pc.InsideSuspend) (notified : after.wakeUp = true ↔ Notified after.log)
    (sound : after.fault = false) : TimerInvariant after := by
  constructor
  · intro active
    exact absurd (inactive.symm.trans active) (by decide)
  · intro call isCall
    cases pc : after.pc <;> simp_all [Pc.call, Pc.locals, Pc.InsideSuspend]
  · intro locals isLocals
    cases pc : after.pc <;> simp_all [Pc.locals, Pc.InsideSuspend]
  · intro locals isLocals
    cases pc : after.pc <;> simp_all [Pc.locals, Pc.InsideSuspend]
  · exact notified
  · intro locals readyFibers wakeUp testing
    simp [testing, Pc.InsideSuspend] at outside
  · intro locals leaving
    simp [leaving, Pc.InsideSuspend] at outside
  · intro exiting
    simp [exiting, Pc.InsideSuspend] at outside
  · intro direct
    simp [direct, Pc.InsideSuspend] at outside
  · exact sound

theorem timerInvariant_drain (invariant : TimerInvariant before)
    (stepped : before.drain = some after) : TimerInvariant after := by
  unfold State.drain at stepped
  split at stepped <;> try contradiction
  rename_i draining
  cases stepped
  exact timerInvariant_outside (invariant.inactive (by rw [draining]; rfl)) id
    invariant.notified invariant.sound

theorem timerInvariant_pickNext {absTime : TimePoint} (invariant : TimerInvariant before)
    (stepped : before.pickNext absTime = some after) : TimerInvariant after := by
  unfold State.pickNext at stepped
  split at stepped <;> try contradiction
  rename_i picking
  have inactive := invariant.inactive (by rw [picking]; rfl)
  split at stepped <;> cases stepped <;>
    exact timerInvariant_outside inactive id invariant.notified invariant.sound

theorem timerInvariant_yield (invariant : TimerInvariant before)
    (stepped : before.yield = some after) : TimerInvariant after := by
  unfold State.yield at stepped
  split at stepped <;> try contradiction
  rename_i running
  cases stepped
  exact timerInvariant_outside (invariant.inactive (by rw [running]; rfl)) id
    invariant.notified invariant.sound

theorem timerInvariant_suspendEnter (invariant : TimerInvariant before)
    (stepped : before.suspendEnter = some after) : TimerInvariant after := by
  unfold State.suspendEnter at stepped
  split at stepped <;> try contradiction
  rename_i entering
  cases stepped
  have inactive := invariant.inactive (by rw [entering]; rfl)
  cases set : before.wakeUp with
  | true =>
      have notified := invariant.notified.mp set
      constructor <;> simp [inactive, notified, Pc.call, Pc.locals, invariant.sound]
  | false =>
      have unset : ¬ Notified before.log := by
        rw [← invariant.notified, set]
        decide
      constructor <;> simp [inactive, unset, Pc.call, Pc.locals, invariant.sound]

theorem timerInvariant_setTimer {now : TimePoint} (invariant : TimerInvariant before)
    (stepped : before.setTimer now = some after) : TimerInvariant after := by
  unfold State.setTimer at stepped
  split at stepped <;> try contradiction
  rename_i absTime call arming
  have counted : call + 1 = before.calls := invariant.counted call (by rw [arming]; rfl)
  split at stepped
  · cases stepped
    have inactive := invariant.inactive (by rw [arming]; rfl)
    constructor <;>
      simp [inactive, counted, Pc.call, Pc.locals, invariant.sound, invariant.notified]
  · cases stepped
    have notified := invariant.notified
    rw [← notified_append_timer (.inl ⟨call, max 1 (millisecondsUntil now absTime), rfl⟩)]
      at notified
    constructor <;> simp [counted, Pc.call, Pc.locals, invariant.sound, notified]

theorem timerInvariant_timerFires (invariant : TimerInvariant before)
    (stepped : before.timerFires = some after) : TimerInvariant after := by
  unfold State.timerFires at stepped
  split at stepped <;> try contradiction
  rename_i locals running
  split at stepped <;> try contradiction
  rename_i active
  obtain ⟨owner, isOwner, isSet, _, data⟩ := invariant.active active
  have same : owner = locals := by
    rw [running] at isOwner
    exact (Option.some.inj isOwner).symm
  subst same
  rw [if_pos data] at stepped
  cases stepped
  have counted : owner.call + 1 = before.calls :=
    invariant.counted owner.call (by rw [running]; rfl)
  have armed : ∃ milliseconds, .timerStart owner.call milliseconds ∈ before.log :=
    invariant.armed owner (by rw [running]; rfl) isSet
  have expired : Expired (before.log ++ [.timerFired owner.call]) owner.call :=
    ⟨armed.imp fun _ => List.mem_append_left _, by simp⟩
  have notified := invariant.notified
  rw [← notified_append_timer (.inr (.inl ⟨owner.call, rfl⟩))] at notified
  constructor <;> simp [counted, Pc.call, Pc.locals, invariant.sound, notified, expired, armed]

/-- The call in progress goes on with the same locals. -/
theorem TimerInvariant.proceed {locals : Locals} (invariant : TimerInvariant before)
    (from_locals : before.pc.locals = some locals) (to_locals : after.pc.locals = some locals)
    (log : after.log = before.log) (active : after.timerActive = before.timerActive)
    (data : after.timerData = before.timerData) (calls : after.calls = before.calls)
    (wakeUp : after.wakeUp = before.wakeUp)
    (tested : ∀ locals readyFibers wakeUp, after.pc = .loopTest locals readyFibers wakeUp →
      (readyFibers = true → after.queue ≠ []) ∧ (wakeUp = true → Notified after.log))
    (left : after.pc = .stopTimer locals → Cause after locals.call)
    (sound : after.fault = before.fault) : TimerInvariant after := by
  have isLocals : after.pc.locals = before.pc.locals := to_locals.trans from_locals.symm
  have isCall : after.pc.call = some locals.call := by
    cases pc : after.pc <;> simp_all [Pc.call, Pc.locals]
  have counted : locals.call + 1 = before.calls := by
    apply invariant.counted
    cases pc : before.pc <;> simp_all [Pc.call, Pc.locals]
  constructor
  · rw [active, isLocals, data]
    exact invariant.active
  · intro call same
    rw [isCall] at same
    cases same
    rw [calls]
    exact counted
  · rw [isLocals, log]
    exact invariant.armed
  · rw [isLocals, log]
    exact invariant.fired
  · rw [wakeUp, log]
    exact invariant.notified
  · exact tested
  · intro other leaving
    have same : other = locals := by
      rw [leaving] at to_locals
      exact Option.some.inj to_locals
    rw [same]
    exact left (same ▸ leaving)
  · intro exiting
    rw [exiting] at to_locals
    cases to_locals
  · intro direct
    rw [direct] at to_locals
    cases to_locals
  · rw [sound]
    exact invariant.sound

theorem timerInvariant_uvRunReturns {consumes : Bool} (invariant : TimerInvariant before)
    (stepped : before.uvRunReturns consumes = some after) : TimerInvariant after := by
  unfold State.uvRunReturns at stepped
  split at stepped <;> try contradiction
  rename_i locals running
  cases stepped
  exact invariant.proceed (by rw [running]; rfl) rfl rfl rfl rfl rfl rfl (by simp) (by simp) rfl

theorem timerInvariant_shouldWakeUp (invariant : TimerInvariant before)
    (stepped : before.shouldWakeUp = some after) : TimerInvariant after := by
  unfold State.shouldWakeUp at stepped
  split at stepped <;> try contradiction
  rename_i locals returned
  cases stepped
  refine invariant.proceed (by rw [returned]; rfl) rfl rfl rfl rfl rfl rfl ?_ (by simp) rfl
  intro other readyFibers wakeUp testing
  cases testing
  refine ⟨?_, invariant.notified.mp⟩
  intro ready empty
  have empty : before.queue = [] := empty
  simp [empty] at ready

theorem timerInvariant_loopTest (invariant : TimerInvariant before)
    (stepped : before.loopTest = some after) : TimerInvariant after := by
  unfold State.loopTest at stepped
  split at stepped <;> try contradiction
  rename_i locals readyFibers wakeUp testing
  obtain ⟨ready, set⟩ := invariant.tested locals readyFibers wakeUp testing
  have isLocals : before.pc.locals = some locals := by rw [testing]; rfl
  split at stepped
  · rename_i leaves
    cases stepped
    refine invariant.proceed isLocals rfl rfl rfl rfl rfl rfl (by simp) ?_ rfl
    intro _
    rw [Bool.or_eq_true, Bool.or_eq_true] at leaves
    rcases leaves with (isReady | done) | isSet
    · exact .inl (ready isReady)
    · exact .inr (.inl (invariant.fired locals isLocals done))
    · exact .inr (.inr (set isSet))
  · cases stepped
    exact invariant.proceed isLocals rfl rfl rfl rfl rfl rfl (by simp) (by simp) rfl

/-- The timer is off and the call is about to return. -/
theorem timerInvariant_exiting {call : Nat} (exiting : after.pc = .suspendExit)
    (inactive : after.timerActive = false) (counted : call + 1 = after.calls)
    (cause : Cause after call) (notified : after.wakeUp = true ↔ Notified after.log)
    (sound : after.fault = false) : TimerInvariant after := by
  constructor
  · intro active
    exact absurd (inactive.symm.trans active) (by decide)
  · simp [exiting, Pc.call, Pc.locals]
  · simp [exiting, Pc.locals]
  · simp [exiting, Pc.locals]
  · exact notified
  · simp [exiting]
  · simp [exiting]
  · exact fun _ => ⟨call, counted, cause⟩
  · simp [exiting]
  · exact sound

theorem timerInvariant_stopTimer (invariant : TimerInvariant before)
    (stepped : before.stopTimer = some after) : TimerInvariant after := by
  unfold State.stopTimer at stepped
  split at stepped <;> try contradiction
  rename_i locals leaving
  have isLocals : before.pc.locals = some locals := by
    rw [leaving]
    rfl
  have counted : locals.call + 1 = before.calls := invariant.counted _ (by rw [leaving]; rfl)
  have cause := invariant.left locals leaving
  split at stepped
  · cases stepped
    have stopped : Notified (before.log ++ [.timerStop locals.call]) ↔ Notified before.log :=
      notified_append_timer (.inr (.inr ⟨locals.call, rfl⟩))
    refine timerInvariant_exiting rfl rfl counted ?_ ?_ invariant.sound
    · rcases cause with ready | expired | set
      · exact .inl ready
      · exact .inr (.inl (expired.append _))
      · exact .inr (.inr (stopped.mpr set))
    · exact invariant.notified.trans stopped.symm
  · -- The timer was not set, or has fired.
    rename_i kept
    cases stepped
    refine timerInvariant_exiting rfl ?_ counted cause invariant.notified invariant.sound
    by_contra active
    obtain ⟨owner, isOwner, isSet, notDone, _⟩ := invariant.active (by simpa using active)
    rw [isLocals] at isOwner
    cases isOwner
    simp [isSet, notDone] at kept

theorem timerInvariant_suspendExit (invariant : TimerInvariant before)
    (stepped : before.suspendExit = some after) : TimerInvariant after := by
  unfold State.suspendExit at stepped
  split at stepped <;> try contradiction
  all_goals
    rename_i pc
    cases stepped
    refine timerInvariant_outside (invariant.inactive (by rw [pc]; rfl)) id ?_ invariant.sound
    simp [notified_append_exit]

end Dispatcher

/-! ## Every reachable state -/

variable [DecidableEq Thread]

/-- One step, of any thread, keeps the timer with its call. -/
theorem timerInvariant_step {before after : State Thread Fiber} {action : Action Thread Fiber}
    (invariant : TimerInvariant before) (stepped : before.step action = some after) :
    TimerInvariant after := by
  cases action with
  | push thread fiber => exact timerInvariant_push invariant stepped
  | updateNotify thread => exact timerInvariant_updateNotify invariant stepped
  | endNotify thread => exact timerInvariant_endNotify invariant stepped
  | drain => exact timerInvariant_drain invariant stepped
  | pickNext absTime => exact timerInvariant_pickNext invariant stepped
  | awakened fiber => exact timerInvariant_awakened invariant stepped
  | yield => exact timerInvariant_yield invariant stepped
  | suspendEnter => exact timerInvariant_suspendEnter invariant stepped
  | setTimer now => exact timerInvariant_setTimer invariant stepped
  | timerFires => exact timerInvariant_timerFires invariant stepped
  | uvRunReturns consumes => exact timerInvariant_uvRunReturns invariant stepped
  | shouldWakeUp => exact timerInvariant_shouldWakeUp invariant stepped
  | loopTest => exact timerInvariant_loopTest invariant stepped
  | stopTimer => exact timerInvariant_stopTimer invariant stepped
  | suspendExit => exact timerInvariant_suspendExit invariant stepped

theorem timerInvariant_reachable {state : State Thread Fiber}
    (reachable : (machine Thread Fiber).Reachable Machine.AnyStep state) :
    TimerInvariant state :=
  reachable.invariant (fun _ initial => initial ▸ timerInvariant_initial)
    (fun _ _ _ invariant _ stepped => timerInvariant_step invariant stepped)

/-- The timer is active only while the call that armed it is executing, and
its callback writes the flag of that call. A call leaves its loop only because
its last check found a ready fiber, its own timer expired or `wake_up_` set by
a `notify` since the last `suspend_exit`, and it returns without having run
the loop only in the last case; so it never returns without a cause. -/
theorem suspend_until_owns_timer_and_has_cause {state : State Thread Fiber}
    (reachable : (machine Thread Fiber).Reachable Machine.AnyStep state) :
    (state.timerActive = true → ∃ locals, state.pc.locals = some locals ∧
      state.timerData = some locals.call ∧
        ∃ milliseconds, .timerStart locals.call milliseconds ∈ state.log) ∧
    (∀ after, (machine Thread Fiber).step state .timerFires = some after →
      after.fault = false ∧ ∃ locals, state.pc = .uvRun locals ∧
        state.timerData = some locals.call ∧
        after.pc = .uvRun { locals with timerDone := true }) ∧
    (∀ locals readyFibers wakeUp after, state.pc = .loopTest locals readyFibers wakeUp →
      (machine Thread Fiber).step state .loopTest = some after →
      after.pc = .stopTimer locals →
        (readyFibers = true ∧ state.queue ≠ []) ∨
        (locals.timerDone = true ∧ Expired state.log locals.call) ∨
        (wakeUp = true ∧ Notified state.log)) ∧
    (∀ after, (machine Thread Fiber).step state .suspendExit = some after →
      after.timerActive = false ∧
        ((state.pc = .wakeUpDirectly ∧ Notified state.log) ∨
          state.pc = .suspendExit ∧ ∃ call, call + 1 = state.calls ∧ Cause state call)) := by
  have invariant := timerInvariant_reachable reachable
  refine ⟨?_, ?_, ?_, ?_⟩
  · intro active
    obtain ⟨locals, isLocals, isSet, _, data⟩ := invariant.active active
    exact ⟨locals, isLocals, data, invariant.armed locals isLocals isSet⟩
  · intro after stepped
    have stepped : state.step .timerFires = some after := stepped
    have sound := (timerInvariant_step invariant stepped).sound
    have stepped : state.timerFires = some after := stepped
    unfold State.timerFires at stepped
    split at stepped <;> try contradiction
    rename_i locals running
    split at stepped <;> try contradiction
    simp only at stepped
    split at stepped
    · rename_i data
      cases stepped
      exact ⟨sound, locals, running, data, rfl⟩
    · cases stepped
      cases sound
  · intro locals readyFibers wakeUp after testing stepped leaves
    obtain ⟨ready, set⟩ := invariant.tested locals readyFibers wakeUp testing
    have stepped : state.loopTest = some after := stepped
    rw [State.loopTest, testing] at stepped
    simp only at stepped
    split at stepped
    · rename_i found
      rw [Bool.or_eq_true, Bool.or_eq_true] at found
      rcases found with (isReady | done) | isSet
      · exact .inl ⟨isReady, ready isReady⟩
      · exact .inr (.inl ⟨done, invariant.fired locals (by rw [testing]; rfl) done⟩)
      · exact .inr (.inr ⟨isSet, set isSet⟩)
    · cases stepped
      cases leaves
  · intro after stepped
    have stepped : state.step .suspendExit = some after := stepped
    have later := timerInvariant_step invariant stepped
    have stepped : state.suspendExit = some after := stepped
    unfold State.suspendExit at stepped
    split at stepped <;> try contradiction
    · rename_i exiting
      cases stepped
      exact ⟨later.inactive rfl, .inr ⟨exiting, invariant.exits exiting⟩⟩
    · rename_i direct
      cases stepped
      exact ⟨later.inactive rfl, .inl ⟨direct, invariant.direct direct⟩⟩

/-- The second call, whose timer expires together with a spurious return of
`uv_run`, returns because of its own timer. -/
theorem second_call_returns_by_its_timer :
    ∃ state : State (Fin 1) Nat, (machine (Fin 1) Nat).Reachable Machine.AnyStep state ∧
      ∃ after, (machine (Fin 1) Nat).step state .suspendExit = some after ∧
        after.timerActive = false ∧ Expired state.log 1 ∧ state.queue = [] ∧
        ∃ call, call + 1 = state.calls ∧ Cause state call := by
  have reachable := Machine.Reachable.exec (.start rfl) (Machine.along_anyStep _ _)
    (rfl : (machine (Fin 1) Nat).exec initial
      [.drain, .pickNext 2000000, .suspendEnter, .setTimer 0, .push 0 7, .updateNotify 0,
        .endNotify 0, .uvRunReturns true, .shouldWakeUp, .loopTest, .stopTimer, .suspendExit,
        .drain, .pickNext 0, .yield, .drain, .pickNext 5000000, .suspendEnter, .setTimer 0,
        .uvRunReturns true, .shouldWakeUp, .loopTest, .timerFires, .uvRunReturns true,
        .shouldWakeUp, .loopTest, .stopTimer] = some _)
  obtain ⟨inactive, direct | ⟨_, caused⟩⟩ :=
    (suspend_until_owns_timer_and_has_cause reachable).2.2.2 _ rfl
  · cases direct.1
  · exact ⟨_, reachable, _, rfl, inactive, ⟨⟨6, by decide⟩, by decide⟩, rfl, caused⟩

end Fiberio.Scheduler
