import Fiberio.Scheduler.ReadyQueue
import Fiberio.Runtime.OneCall

/-!
Owns the hand-over between the library and the scheduler, over whole runs of a
thread. A fiber that a promise or a condition variable has woken is in the
ready queue, once, until it runs; nothing else that is inside the library is
ever in it.

Does not own what libuv still has in hand when the thread blocks, nor how long
a ready fiber waits.
-/

namespace Fiberio

open Fiberio.Foundation

/-! ## The fibers that the scheduler has -/

namespace Scheduler

variable {Thread Fiber : Type} [DecidableEq Thread] {before after : State Thread Fiber}

/-- The running fiber, the ready ones and those that other threads have made
ready. -/
def State.fibers (state : State Thread Fiber) : List Fiber :=
  state.pc.fiber.toList ++ state.queue ++ state.remote

/-- What the dispatcher does by itself: the running fiber stays, and a ready
one is ready or runs. -/
structure Kept (before after : State Thread Fiber) : Prop where
  fibers : after.fibers = before.fibers
  running : ∀ fiber, before.pc.fiber = some fiber → after.pc.fiber = some fiber
  queue : ∀ fiber ∈ before.queue, after.pc.fiber = some fiber ∨ fiber ∈ after.queue

theorem kept_of_internal {action : Action Thread Fiber} (internal : action.internal = true)
    (stepped : before.step action = some after) : Kept before after := by
  cases action with
  | push _ _ | awakened _ | yield => cases internal
  | _ =>
      simp only [State.step, State.updateNotify, State.endNotify, State.drain, State.pickNext,
        State.suspendEnter, State.setTimer, State.timerFires, State.uvRunReturns,
        State.shouldWakeUp, State.loopTest, State.stopTimer, State.suspendExit] at stepped
      repeat' split at stepped
      all_goals cases stepped
      all_goals constructor
      all_goals simp_all [State.fibers, Pc.fiber, State.setNotifier]

theorem awakened_step {fiber : Fiber} (stepped : before.step (.awakened fiber) = some after) :
    after.queue = before.queue ++ [fiber] ∧ after.remote = before.remote ∧
      after.pc = before.pc := by
  simp only [State.step, State.awakened] at stepped
  split at stepped <;> cases stepped <;> exact ⟨rfl, rfl, rfl⟩

theorem exec_awakened {woken : List Fiber}
    (run : (machine Thread Fiber).exec before (woken.map .awakened) = some after) :
    after.queue = before.queue ++ woken ∧ after.remote = before.remote ∧ after.pc = before.pc := by
  induction woken generalizing before with
  | nil =>
      cases run
      simp
  | cons fiber rest inductionHypothesis =>
      obtain ⟨middle, stepped, tailRun⟩ := Machine.exec_cons_some run
      obtain ⟨queueFirst, remoteFirst, pcFirst⟩ := awakened_step stepped
      obtain ⟨queue, remote, pc⟩ := inductionHypothesis tailRun
      rw [queue, remote, pc, queueFirst, remoteFirst, pcFirst]
      simp

theorem yield_step (stepped : before.step .yield = some after) :
    after.queue = before.queue ∧ after.remote = before.remote ∧ after.pc = .drain := by
  simp only [State.step, State.yield] at stepped
  split at stepped <;> cases stepped
  exact ⟨rfl, rfl, rfl⟩

theorem push_step {thread : Thread} {fiber : Fiber}
    (stepped : before.step (.push thread fiber) = some after) :
    after.queue = before.queue ∧ after.remote = before.remote ++ [fiber] ∧
      after.pc = before.pc := by
  simp only [State.step, State.push] at stepped
  split at stepped <;> cases stepped
  exact ⟨rfl, rfl, rfl⟩

end Scheduler

/-! ## Fibers inside and outside the library -/

namespace World

variable {Fib Sock Serv : Type} [Fintype Sock] [Fintype Serv] {states : State Fib Sock Serv}
  {fib : Fib}

theorem asleep_iff : asleep states fib = true ↔
    ∃ object : Object Sock Serv, object.sleeps (states object) fib = true :=
  decide_eq_true_iff

theorem asleep_eq_false_iff : asleep states fib = false ↔
    ∀ object : Object Sock Serv, object.sleeps (states object) fib = false := by
  simp [asleep]

theorem outside_iff : outside states fib = true ↔
    ∀ object : Object Sock Serv, object.isIdle (states object) fib = true :=
  decide_eq_true_iff

theorem inside_of_suspended {object : Object Sock Serv}
    (suspended : object.isSuspended (states object) fib = true) :
    outside states fib = false := by
  by_contra free
  have idle := outside_iff.mp (by simpa using free) object
  exact absurd ((Object.isIdle_of_suspended suspended).symm.trans idle) (by decide)

theorem awake_of_outside (free : outside states fib = true) : asleep states fib = false := by
  rw [asleep_eq_false_iff]
  intro object
  by_contra sleeps
  have inside := inside_of_suspended (Object.isSuspended_of_sleeps (by simpa using sleeps))
  exact absurd (inside.symm.trans free) (by decide)

end World

namespace Runtime

open Fiberio.World (Object)

variable {Thread Fib Sock Serv : Type} [DecidableEq Thread] [DecidableEq Fib] [Fintype Fib]
  [DecidableEq Sock] [Fintype Sock] [DecidableEq Serv] [Fintype Serv]
  {state before after : State Thread Fib Sock Serv}

/-! ## The invariant -/

/-- The ready queue and the library agree on which fibers can run. -/
structure Scheduled (state : State Thread Fib Sock Serv) : Prop where
  once : state.scheduler.fibers.Nodup
  ready : ∀ fib, fib ∈ state.scheduler.queue ∨ fib ∈ state.scheduler.remote →
    World.asleep state.objects fib = false
  queued : ∀ fib, World.outside state.objects fib = false →
    World.asleep state.objects fib = false →
      state.running = some fib ∨ fib ∈ state.scheduler.queue

namespace Scheduled

theorem initial (begun : (machine Thread Fib Sock Serv).Init state) : Scheduled state := by
  have free : ∀ fib, World.outside state.objects fib = true := by
    intro fib
    rw [World.outside_iff]
    exact fun object => World.isIdle_of_init begun.2 object fib
  constructor
  · rw [begun.1]
    exact List.nodup_nil
  · intro fib _
    exact World.awake_of_outside (free fib)
  · intro fib inside _
    exact absurd (inside.symm.trans (free fib)) (by decide)

omit [DecidableEq Thread] [DecidableEq Fib] [Fintype Fib] [DecidableEq Sock] [DecidableEq Serv] in
/-- The running fiber is not ready as well. -/
theorem notRunning (scheduled : Scheduled state) {fib : Fib}
    (ready : fib ∈ state.scheduler.queue ∨ fib ∈ state.scheduler.remote) :
    state.running ≠ some fib := by
  intro runs
  have once := scheduled.once
  have place : state.scheduler.pc.fiber = some fib := runs
  unfold Scheduler.State.fibers at once
  rw [place, Option.toList_some, List.singleton_append, List.cons_append,
    List.nodup_cons] at once
  exact once.1 (List.mem_append.mpr ready)

omit [DecidableEq Thread] [DecidableEq Fib] [Fintype Fib] [DecidableEq Sock] [DecidableEq Serv] in
theorem dispatch (scheduled : Scheduled before)
    (kept : Scheduler.Kept before.scheduler after.scheduler)
    (same : after.objects = before.objects) : Scheduled after := by
  constructor
  · rw [kept.fibers]
    exact scheduled.once
  · intro fib ready
    rw [same]
    apply scheduled.ready fib
    have has : fib ∈ before.scheduler.fibers := by
      rw [← kept.fibers]
      simp only [Scheduler.State.fibers, List.mem_append]
      tauto
    simp only [Scheduler.State.fibers, List.mem_append, Option.mem_toList] at has
    rcases has with (runs | queued) | pushed
    · -- It would still run, and the scheduler has no fiber twice.
      have once := scheduled.once
      rw [← kept.fibers] at once
      have runsOn := kept.running fib runs
      unfold Scheduler.State.fibers at once
      rw [runsOn, Option.toList_some, List.singleton_append, List.cons_append,
        List.nodup_cons] at once
      exact absurd (List.mem_append.mpr ready) once.1
    · exact .inl queued
    · exact .inr pushed
  · intro fib inside awake
    rw [same] at inside awake
    rcases scheduled.queued fib inside awake with runs | queued
    · exact .inl (kept.running fib runs)
    · exact kept.queue fib queued

omit [DecidableEq Thread] [Fintype Fib] [DecidableEq Sock] [DecidableEq Serv] in
/-- Fibers that were nowhere in the scheduler become ready here, or are pushed
by another thread, while the same fiber runs. -/
theorem enqueues {added pushed : List Fib} (scheduled : Scheduled before)
    (queue : after.scheduler.queue = before.scheduler.queue ++ added)
    (remote : after.scheduler.remote = before.scheduler.remote ++ pushed)
    (pc : after.scheduler.pc = before.scheduler.pc) (distinct : (added ++ pushed).Nodup)
    (new : ∀ fib ∈ added ++ pushed, fib ∉ before.scheduler.fibers)
    (woken : ∀ fib ∈ added ++ pushed, World.asleep after.objects fib = false)
    (awake : ∀ fib, fib ∈ before.scheduler.queue ∨ fib ∈ before.scheduler.remote →
      World.asleep after.objects fib = false)
    (covered : ∀ fib, World.outside after.objects fib = false →
      World.asleep after.objects fib = false →
        before.running = some fib ∨ fib ∈ before.scheduler.queue ∨ fib ∈ added) :
    Scheduled after := by
  constructor
  · have same : after.scheduler.fibers.Perm ((added ++ pushed) ++ before.scheduler.fibers) := by
      unfold Scheduler.State.fibers
      rw [queue, remote, pc, List.perm_iff_count]
      intro fib
      simp only [List.count_append]
      omega
    rw [same.nodup_iff, List.nodup_append]
    refine ⟨distinct, scheduled.once, ?_⟩
    rintro fib member _ has rfl
    exact new fib member has
  · intro fib ready
    rw [queue, remote, List.mem_append, List.mem_append] at ready
    rcases ready with (queued | member) | (earlier | member)
    · exact awake fib (.inl queued)
    · exact woken fib (List.mem_append_left _ member)
    · exact awake fib (.inr earlier)
    · exact woken fib (List.mem_append_right _ member)
  · intro fib inside up
    rw [queue, List.mem_append]
    have running : after.running = before.running := congrArg Scheduler.Pc.fiber pc
    rw [running]
    exact covered fib inside up

omit [DecidableEq Thread] [Fintype Fib] [DecidableEq Sock] [DecidableEq Serv] in
/-- A fiber that waits outside the library becomes ready. -/
theorem unpark {fib : Fib} {added pushed : List Fib} (scheduled : Scheduled before)
    (parked : before.parked fib = true) (single : added ++ pushed = [fib])
    (queue : after.scheduler.queue = before.scheduler.queue ++ added)
    (remote : after.scheduler.remote = before.scheduler.remote ++ pushed)
    (pc : after.scheduler.pc = before.scheduler.pc) (same : after.objects = before.objects) :
    Scheduled after := by
  simp only [State.parked, Bool.and_eq_true, decide_eq_true_eq] at parked
  obtain ⟨⟨⟨free, notRunning⟩, notQueued⟩, notPushed⟩ := parked
  refine scheduled.enqueues queue remote pc ?_ ?_ ?_ ?_ ?_
  · rw [single]
    exact List.nodup_singleton fib
  · intro other member has
    rw [single, List.mem_singleton] at member
    subst member
    simp only [Scheduler.State.fibers, List.mem_append, Option.mem_toList] at has
    rcases has with (runs | queued) | waits
    · exact notRunning runs
    · exact notQueued queued
    · exact notPushed waits
  · intro other member
    rw [single, List.mem_singleton] at member
    rw [same, member]
    exact World.awake_of_outside free
  · intro other ready
    rw [same]
    exact scheduled.ready other ready
  · intro other inside awake
    rw [same] at inside awake
    rcases scheduled.queued other inside awake with runs | queued
    · exact .inl runs
    · exact .inr (.inl queued)

omit [DecidableEq Thread] [Fintype Fib] [DecidableEq Sock] [DecidableEq Serv] in
/-- The running fiber gives the thread back. `added` is the fiber itself if it
is to run again. -/
theorem leave {fib : Fib} {added : List Fib} (scheduled : Scheduled before)
    (runs : before.running = some fib) (self : added = [] ∨ added = [fib])
    (queue : after.scheduler.queue = before.scheduler.queue ++ added)
    (remote : after.scheduler.remote = before.scheduler.remote)
    (pc : after.scheduler.pc = .drain) (same : after.objects = before.objects)
    (idle : added = [] → World.asleep before.objects fib = true ∨
      World.outside before.objects fib = true)
    (free : added = [fib] → World.outside before.objects fib = true) : Scheduled after := by
  have place : before.scheduler.pc.fiber = some fib := runs
  have gone : World.asleep before.objects fib = true ∨
      World.outside before.objects fib = true := by
    rcases self with none | again
    · exact idle none
    · exact .inr (free again)
  constructor
  · have once := scheduled.once
    rw [List.nodup_iff_count_le_one] at once ⊢
    intro other
    have bound := once other
    unfold Scheduler.State.fibers at bound ⊢
    rw [queue, remote, pc]
    rw [place] at bound
    rcases self with rfl | rfl <;>
      simp only [Scheduler.Pc.fiber, Option.toList_none, Option.toList_some, List.count_append,
        List.count_nil] at bound ⊢ <;> omega
  · intro other ready
    rw [same]
    rw [queue, remote, List.mem_append] at ready
    rcases ready with (queued | member) | pushed
    · exact scheduled.ready other (.inl queued)
    · rcases self with rfl | rfl
      · cases member
      · rw [List.mem_singleton] at member
        rw [member]
        exact World.awake_of_outside (free rfl)
    · exact scheduled.ready other (.inr pushed)
  · intro other inside up
    rw [same] at inside up
    rw [queue, List.mem_append]
    rcases scheduled.queued other inside up with others | queued
    · rw [runs] at others
      cases others
      -- It does not leave in the middle of a call that could go on.
      rcases gone with sleeps | free
      · exact absurd (up.symm.trans sleeps) (by decide)
      · exact absurd (inside.symm.trans free) (by decide)
    · exact .inr (.inl queued)

omit [DecidableEq Thread] [Fintype Fib] [DecidableEq Sock] [DecidableEq Serv] in
/-- A fiber that executes a step of the library has the thread. -/
theorem hosted {object : Object Sock Serv} {action : object.Action Fib} {fib : Fib}
    (hosted : before.hosts object action = true) (executes : object.actor action = some fib) :
    before.running = some fib ∧ World.asleep before.objects fib = false := by
  simpa [State.hosts, executes] using hosted

omit [DecidableEq Thread] [Fintype Fib] [DecidableEq Sock] [DecidableEq Serv] in
/-- A fiber that sleeps in the library is nowhere in the scheduler while a step
of the library runs. -/
theorem notHeld {object : Object Sock Serv} {action : object.Action Fib} {fib : Fib}
    (scheduled : Scheduled before) (hosts : before.hosts object action = true)
    (sleeps : World.asleep before.objects fib = true) : fib ∉ before.scheduler.fibers := by
  intro has
  simp only [Scheduler.State.fibers, List.mem_append, Option.mem_toList] at has
  rcases has with (runs | queued) | pushed
  · cases executes : object.actor action with
    | some mover =>
        obtain ⟨running, awake⟩ := hosted hosts executes
        have same : some mover = some fib := running.symm.trans runs
        cases same
        exact absurd (awake.symm.trans sleeps) (by decide)
    | none =>
        simp only [State.hosts, executes] at hosts
        have place : before.scheduler.pc.fiber = some fib := runs
        generalize before.scheduler.pc = pc at hosts place
        cases pc <;> simp [Scheduler.Pc.polls, Scheduler.Pc.fiber] at hosts place
  · exact absurd ((scheduled.ready fib (.inl queued)).symm.trans sleeps) (by decide)
  · exact absurd ((scheduled.ready fib (.inr pushed)).symm.trans sleeps) (by decide)

/-- A step of the library. -/
theorem library {object : Object Sock Serv} {action : object.Action Fib} {woken : List Fib}
    (scheduled : Scheduled before)
    (reachable : (World.machine Fib Sock Serv).Reachable Machine.AnyStep before.objects)
    (hosts : before.hosts object action = true)
    (stepped : (World.machine Fib Sock Serv).step before.objects ⟨object, action⟩ =
      some after.objects)
    (distinct : woken.Nodup)
    (wakes : ∀ fib, fib ∈ woken ↔
      State.wakes object (before.objects object) (after.objects object) fib = true)
    (run : (Scheduler.machine Thread Fib).exec before.scheduler (woken.map .awakened) =
      some after.scheduler) : Scheduled after := by
  have oneCall := World.reachable_oneCall reachable
  obtain ⟨queue, remote, pc⟩ := Scheduler.exec_awakened run
  have slept : ∀ fib ∈ woken, object.sleeps (before.objects object) fib = true ∧
      object.sleeps (after.objects object) fib = false := by
    intro fib member
    simpa [State.wakes] using (wakes fib).mp member
  have all : woken ++ [] = woken := List.append_nil woken
  have unpushed : after.scheduler.remote = before.scheduler.remote ++ [] := by
    rw [remote, List.append_nil]
  refine scheduled.enqueues queue unpushed pc (all.symm ▸ distinct) ?_ ?_ ?_ ?_
  · intro fib member
    rw [all] at member
    exact scheduled.notHeld hosts (World.asleep_iff.mpr ⟨object, (slept fib member).1⟩)
  · -- A woken fiber slept in this object, so in no other.
    intro fib member
    rw [all] at member
    rw [World.asleep_eq_false_iff]
    intro other
    by_cases same : other = object
    · rw [same]
      exact (slept fib member).2
    · rw [World.step_other stepped same]
      by_contra sleeps
      exact same (oneCall.suspended fib other object
        (Object.isSuspended_of_sleeps (by simpa using sleeps))
        (Object.isSuspended_of_sleeps (slept fib member).1))
  · -- A fiber that was ready before does not execute the step.
    intro fib ready
    have bystander : object.actor action ≠ some fib := by
      intro executes
      exact scheduled.notRunning ready (hosted hosts executes).1
    have awake := World.asleep_eq_false_iff.mp (scheduled.ready fib ready)
    rw [World.asleep_eq_false_iff]
    intro other
    by_contra sleeps
    have before := (World.step_spares reachable stepped bystander other).2.2 (by simpa using sleeps)
    exact absurd ((awake other).symm.trans before) (by decide)
  · intro fib inside awake
    by_cases executes : object.actor action = some fib
    · exact .inl (hosted hosts executes).1
    · have spared := World.step_spares reachable stepped executes
      have insideBefore : World.outside before.objects fib = false := by
        by_contra free
        have idle := World.outside_iff.mp (by simpa using free)
        have outside : World.outside after.objects fib = true := by
          rw [World.outside_iff]
          exact fun other => (spared other).1.trans (idle other)
        exact absurd (inside.symm.trans outside) (by decide)
      by_cases slept : World.asleep before.objects fib = true
      · -- The object in which it slept is the one that took the step.
        obtain ⟨other, sleeps⟩ := World.asleep_iff.mp slept
        have up := World.asleep_eq_false_iff.mp awake
        have same : other = object := by
          by_contra apart
          have still := up other
          rw [World.step_other stepped apart] at still
          exact absurd (still.symm.trans sleeps) (by decide)
        subst same
        refine .inr (.inr ((wakes fib).mpr ?_))
        simp [State.wakes, sleeps, up other]
      · rcases scheduled.queued fib insideBefore (by simpa using slept) with runs | queued
        · exact .inl runs
        · exact .inr (.inl queued)

/-- Every step keeps the scheduler and the library in agreement. -/
theorem step {action : Action Thread Fib Sock Serv} (scheduled : Scheduled before)
    (reachable : (World.machine Fib Sock Serv).Reachable Machine.AnyStep before.objects)
    (step : Step before after action) : Scheduled after := by
  cases step with
  | dispatch internal stepped same =>
      exact scheduled.dispatch (Scheduler.kept_of_internal internal stepped) same
  | library hosts stepped distinct wakes run =>
      exact scheduled.library reachable hosts stepped distinct wakes run
  | suspend runs waits stepped same =>
      obtain ⟨queue, remote, pc⟩ := Scheduler.yield_step stepped
      exact scheduled.leave runs (.inl rfl) (queue.trans (List.append_nil _).symm) remote pc same
        (fun _ => waits) (fun empty => by cases empty)
  | yield runs outside run same =>
      obtain ⟨middle, readied, rest⟩ := Machine.exec_cons_some run
      have first := Scheduler.awakened_step readied
      obtain ⟨queue, remote, pc⟩ := Scheduler.yield_step (Machine.exec_singleton_iff.mp rest)
      exact scheduled.leave runs (.inr rfl) (queue.trans first.1) (remote.trans first.2.1) pc same
        (fun empty => by cases empty) (fun _ => outside)
  | ready awakens parked stepped same =>
      obtain ⟨queue, remote, pc⟩ := Scheduler.awakened_step stepped
      exact scheduled.unpark parked (List.append_nil _) queue
        (remote.trans (List.append_nil _).symm) pc same
  | push parked stepped same =>
      obtain ⟨queue, remote, pc⟩ := Scheduler.push_step stepped
      exact scheduled.unpark parked (List.nil_append _) (queue.trans (List.append_nil _).symm)
        remote pc same

end Scheduled

theorem reachable_scheduled {allowed : State Thread Fib Sock Serv →
      Action Thread Fib Sock Serv → Prop}
    (reachable : (machine Thread Fib Sock Serv).Reachable allowed state) : Scheduled state := by
  apply reachable.invariant_under (fun _ reached => objects_reachable reached)
  · intro state begun
    exact .initial begun
  · intro before action after reached scheduled _ stepped
    exact scheduled.step reached (step_inversion stepped)

/-! ## No wake-up is lost or doubled -/

/-- The scheduler has no fiber twice, and of the fibers that are suspended in a
call of a socket or a server socket exactly the woken ones are ready: one that
is not running is in `queue_` if and only if the promise or the condition
variable it waits for has woken it. -/
theorem woken_fibers_are_ready_once
    (reachable : (machine Thread Fib Sock Serv).Reachable Machine.AnyStep state) :
    (state.running.toList ++ state.scheduler.queue ++ state.scheduler.remote).Nodup ∧
      ∀ (fib : Fib) (object : Object Sock Serv),
        object.isSuspended (state.objects object) fib = true → state.running ≠ some fib →
          (fib ∈ state.scheduler.queue ↔ object.sleeps (state.objects object) fib = false) ∧
            fib ∉ state.scheduler.remote := by
  have scheduled := reachable_scheduled reachable
  have oneCall := World.reachable_oneCall (objects_reachable reachable)
  refine ⟨scheduled.once, ?_⟩
  intro fib object suspended notRunning
  have inside := World.inside_of_suspended suspended
  by_cases sleeps : object.sleeps (state.objects object) fib = true
  · -- Nobody has woken it, so the scheduler does not know it.
    have asleep := World.asleep_iff.mpr ⟨object, sleeps⟩
    have unknown : ¬ (fib ∈ state.scheduler.queue ∨ fib ∈ state.scheduler.remote) := by
      intro ready
      exact absurd ((scheduled.ready fib ready).symm.trans asleep) (by decide)
    rw [not_or] at unknown
    exact ⟨⟨fun queued => absurd queued unknown.1, fun awake => absurd (awake.symm.trans sleeps)
      (by decide)⟩, unknown.2⟩
  · have awake : World.asleep state.objects fib = false := by
      rw [World.asleep_eq_false_iff]
      intro other
      by_contra sleepsThere
      have same := oneCall.suspended fib other object
        (Object.isSuspended_of_sleeps (by simpa using sleepsThere)) suspended
      subst same
      exact sleepsThere (by simpa using sleeps)
    have queued : fib ∈ state.scheduler.queue := by
      rcases scheduled.queued fib inside awake with runs | queued
      · exact absurd runs notRunning
      · exact queued
    refine ⟨⟨fun _ => by simpa using sleeps, fun _ => queued⟩, fun pushed => ?_⟩
    have once : (state.running.toList ++ state.scheduler.queue ++
      state.scheduler.remote).Nodup := scheduled.once
    exact (List.nodup_append.mp once).2.2 fib (List.mem_append_right _ queued) fib pushed rfl

/-- One fiber is blocked in `accept` and one reads; the bytes arrive. -/
theorem reader_ready_and_accepter_not :
    ∃ state : State Unit (Fin 2) (Fin 1) (Fin 1),
      (machine Unit (Fin 2) (Fin 1) (Fin 1)).Reachable Machine.AnyStep state ∧
      state.running = none ∧ 1 ∈ state.scheduler.queue ∧ 0 ∉ state.scheduler.queue := by
  have first : (machine Unit (Fin 2) (Fin 1) (Fin 1)).Reachable Machine.AnyStep
      ⟨Scheduler.initial, World.initially (fun _ => 0) 0⟩ :=
    .start ⟨rfl, World.initially_init _ _⟩
  have reachable := first.exec (Machine.along_anyStep _ _)
    (rfl : (machine Unit (Fin 2) (Fin 1) (Fin 1)).exec
      ⟨Scheduler.initial, World.initially (fun _ => 0) 0⟩
      [.push () 0, .dispatch .drain, .dispatch (.pickNext 0), .ready 1,
        .library (.server 0) (Server.Action.accept 0 0 0) [], .suspend, .dispatch .drain,
        .dispatch (.pickNext 0), .library (.socket 0) (Socket.Action.read 1 (.read 100 4) 0) [],
        .suspend, .dispatch .drain, .dispatch (.pickNext 0), .dispatch .suspendEnter,
        .dispatch (.setTimer 0),
        .library (.socket 0) (Socket.Action.readCallback 2 [7, 8]) [1]] = some _)
  have ready := (woken_fibers_are_ready_once reachable).2
  exact ⟨_, reachable, rfl, (ready 1 (.socket 0) rfl (by decide)).1.mpr rfl,
    fun queued => by
      have awake := (ready 0 (.server 0) rfl (by decide)).1.mp queued
      cases awake⟩

end Runtime

end Fiberio
