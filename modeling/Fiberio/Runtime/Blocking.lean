import Fiberio.Runtime.WakeUp
import Fiberio.Socket.Lending
import Fiberio.Server.Accepting

/-!
Owns when the thread blocks and how long a woken call waits for it. The thread
enters `uv_run` only when every fiber inside the library sleeps there, and then
libuv has something in hand for each of them, unless it accepts where nobody
has listened. A call that was woken goes on after the fibers ahead of it in the
ready queue have had the thread.

Does not own whether libuv runs the callbacks that are due.
-/

namespace Fiberio

open Fiberio.Foundation

/-! ## What a sleeping fiber waits for -/

namespace Socket

variable {Fib : Type} {state : State Fib} {fib : Fib}

/-- libuv has something in hand that wakes the fiber: its own request, the read
of which it is the reader, or the close of the handle, after which `close`
notifies all. -/
inductive Awaited (state : State Fib) (fib : Fib) : Prop where
  | request {request : Request Fib} {waiting : Waiting}
      (suspended : state.fiber fib = .wait waiting request.id .unset)
      (registered : request ∈ state.requests) : Awaited state fib
  | reading {call : ReadCall} (suspended : state.fiber fib = .waitRead false call)
      (watching : state.tcp.watching = true) : Awaited state fib
  | closing (closing : state.tcp.closing = true) (pending : state.tcp.closed = false)
      (suspended : (∃ closer serial, state.fiber fib = .wait (.closeHandle closer) serial .unset) ∨
        ∃ call, state.fiber fib = .waitRead false call) : Awaited state fib

/-- Where nobody inside is awake, libuv has the next word. -/
theorem awaited_of_sleeps (owned : Owned state) (lends : Lends state)
    (still : ∀ other, (state.fiber other).isIdle = false → (state.fiber other).sleeps = true)
    (sleeps : (state.fiber fib).sleeps = true) : Awaited state fib := by
  cases place : state.fiber fib with
  | idle last =>
      rw [place] at sleeps
      cases sleeps
  | waitRead notified call =>
      cases notified with
      | true =>
          rw [place] at sleeps
          cases sleeps
      | false =>
          rcases (lends.blocked fib call place).2.2 with
            watching | ⟨other, closer, serial, promise, closes⟩
          · exact .reading place watching
          · -- The closing fiber sleeps too, so the close callback is still to come.
            obtain ⟨closing, _, ran⟩ := owned.handle _ _ _ _ closes
            have unset : promise = .unset := by
              have quiet := still other (by rw [closes]; rfl)
              rw [closes] at quiet
              cases promise with
              | unset => rfl
              | set result => cases quiet
            exact .closing closing (by simpa [unset] using ran) (.inr ⟨call, place⟩)
  | wait waiting serial promise =>
      cases promise with
      | set result =>
          rw [place] at sleeps
          cases sleeps
      | unset =>
          rcases owned.registered fib waiting serial place with
            ⟨closer, rfl⟩ | ⟨request, registered, same, _⟩
          · obtain ⟨closing, _, ran⟩ := owned.handle _ _ _ _ place
            exact .closing closing (by simpa using ran) (.inl ⟨closer, serial, place⟩)
          · exact .request (by rw [same]; exact place) registered

end Socket

namespace Server

variable {Fib Sock : Type} {state : State Fib Sock} {fib : Fib}

/-- libuv has something in hand that wakes the fiber: its own request, the
close of the handle, or the next connection of a listening server when there is
none to accept. -/
inductive Awaited (state : State Fib Sock) (fib : Fib) : Prop where
  | request {request : Request Fib}
      (suspended : state.fiber fib = .wait .getaddrinfo request.id .unset)
      (registered : request ∈ state.requests) : Awaited state fib
  | accepting (suspended : state.fiber fib = .waitAccept false) (isOpen : state.closed = false)
      (listening : state.tcp.listening = true) (none : state.pending = 0) : Awaited state fib
  | closing (closing : state.tcp.closing = true) (pending : state.tcp.closed = false)
      (suspended : (∃ closer serial, state.fiber fib = .wait (.closeHandle closer) serial .unset) ∨
        state.fiber fib = .waitAccept false) : Awaited state fib

/-- The fiber accepts on an open server on which nobody has listened. libuv
knows nothing of it; another fiber may still call `listen` or `close`. -/
structure Unheard (state : State Fib Sock) (fib : Fib) : Prop where
  suspended : state.fiber fib = .waitAccept false
  isOpen : state.closed = false
  unheard : state.tcp.listening = false

theorem awaited_of_sleeps (owned : Owned state) (attentive : Attentive state)
    (still : ∀ other, (state.fiber other).isSuspended = true → (state.fiber other).sleeps = true)
    (sleeps : (state.fiber fib).sleeps = true) : Awaited state fib ∨ Unheard state fib := by
  cases place : state.fiber fib with
  | idle last =>
      rw [place] at sleeps
      cases sleeps
  | unwinding socket exc =>
      rw [place] at sleeps
      cases sleeps
  | waitAccept notified =>
      cases notified with
      | true =>
          rw [place] at sleeps
          cases sleeps
      | false =>
          obtain ⟨unreturned, none⟩ := attentive.asleep fib place
          cases closed : state.closed with
          | false =>
              cases listening : state.tcp.listening with
              | true => exact .inl (.accepting place closed listening (none closed))
              | false => exact .inr ⟨place, closed, listening⟩
          | true =>
              left
              obtain ⟨other, closer, serial, promise, closes⟩ := attentive.closer closed unreturned
              obtain ⟨closing, _, ran⟩ := owned.handle _ _ _ _ closes
              have unset : promise = .unset := by
                have quiet := still other (by rw [closes]; rfl)
                rw [closes] at quiet
                cases promise with
                | unset => rfl
                | set result => cases quiet
              exact .closing closing (by simpa [unset] using ran) (.inr place)
  | wait waiting serial promise =>
      cases promise with
      | set result =>
          rw [place] at sleeps
          cases sleeps
      | unset =>
          cases waiting with
          | getaddrinfo =>
              obtain ⟨request, registered, same, _⟩ := owned.registered fib serial place
              exact .inl (.request (by rw [same]; exact place) registered)
          | closeHandle closer =>
              obtain ⟨closing, _, ran⟩ := owned.handle _ _ _ _ place
              exact .inl (.closing closing (by simpa using ran) (.inl ⟨closer, serial, place⟩))

end Server

/-! ## The thread blocks -/

namespace Runtime

open Fiberio.World (Object)

variable {Thread Fib Sock Serv : Type} [DecidableEq Thread] [DecidableEq Fib] [Fintype Fib]
  [DecidableEq Sock] [Fintype Sock] [DecidableEq Serv] [Fintype Serv]
  {state before after final : State Thread Fib Sock Serv}
  {action : Action Thread Fib Sock Serv}

/-- The dispatcher enters `uv_run` by a step of its own, with nothing ready. -/
theorem Step.enters (step : Step before after action)
    (invariant : Scheduler.ReadyInvariant before.scheduler)
    (outside : before.scheduler.pc.polls = false) (entered : after.scheduler.pc.polls = true) :
    after.scheduler.queue = [] := by
  have notThere : ∀ locals, before.scheduler.pc ≠ .uvRun locals := by
    intro locals place
    rw [place] at outside
    cases outside
  have there : ∃ locals, after.scheduler.pc = .uvRun locals := by
    generalize after.scheduler.pc = pc at entered
    cases pc <;> first | exact ⟨_, rfl⟩ | cases entered
  obtain ⟨locals, there⟩ := there
  have stays : after.scheduler.pc = before.scheduler.pc → after.scheduler.queue = [] := by
    intro same
    exact absurd (same.symm.trans there) (notThere locals)
  have leaves : after.scheduler.pc = .drain → after.scheduler.queue = [] := by
    intro drains
    cases drains.symm.trans there
  cases step with
  | dispatch internal stepped same => exact (invariant.enters stepped notThere there).1
  | library hosts stepped distinct wakes run => exact stays (Scheduler.exec_awakened run).2.2
  | suspend runs waits stepped same => exact leaves (Scheduler.yield_step stepped).2.2
  | yield runs free run same =>
      obtain ⟨middle, _, rest⟩ := Machine.exec_cons_some run
      exact leaves (Scheduler.yield_step (Machine.exec_singleton_iff.mp rest)).2.2
  | ready awakens parked stepped same => exact stays (Scheduler.awakened_step stepped).2.2
  | push parked stepped same => exact stays (Scheduler.push_step stepped).2.2

/-- A fiber that is suspended where nobody inside the library is awake sleeps in
the object that holds it. -/
theorem sleeps_of_still
    (reachable : (machine Thread Fib Sock Serv).Reachable Machine.AnyStep state)
    (still : ∀ fib, World.outside state.objects fib = false →
      World.asleep state.objects fib = true) (object : Object Sock Serv) {fib : Fib}
    (suspended : object.isSuspended (state.objects object) fib = true) :
    object.sleeps (state.objects object) fib = true := by
  have inside := World.inside_of_suspended suspended
  obtain ⟨other, sleeps⟩ := World.asleep_iff.mp (still fib inside)
  have oneCall := World.reachable_oneCall (objects_reachable reachable)
  have same := oneCall.suspended fib other object (Object.isSuspended_of_sleeps sleeps) suspended
  subst same
  exact sleeps

/-- The thread blocks only for libuv. Whenever it enters `uv_run`, every fiber
inside the library sleeps there, none has been woken and forgotten, and libuv
has something in hand that wakes each of them, except a fiber that accepts on a
server on which nobody has listened. -/
theorem thread_blocks_only_for_libuv
    (reachable : (machine Thread Fib Sock Serv).Reachable Machine.AnyStep before)
    (stepped : (machine Thread Fib Sock Serv).step before action = some after)
    (outside : before.scheduler.pc.polls = false) (entered : after.scheduler.pc.polls = true) :
    (∀ fib, World.outside after.objects fib = false → World.asleep after.objects fib = true) ∧
      (∀ name fib, ((World.socketOf after.objects name).fiber fib).sleeps = true →
        Socket.Awaited (World.socketOf after.objects name) fib) ∧
      ∀ name fib, ((World.serverOf after.objects name).fiber fib).sleeps = true →
        Server.Awaited (World.serverOf after.objects name) fib ∨
          Server.Unheard (World.serverOf after.objects name) fib := by
  have later : (machine Thread Fib Sock Serv).Reachable Machine.AnyStep after :=
    .next reachable trivial stepped
  have empty := (step_inversion stepped).enters
    (Scheduler.readyInvariant_reachable (scheduler_reachable reachable)) outside entered
  have idle : after.running = none := by
    unfold State.running
    generalize after.scheduler.pc = pc at entered
    cases pc <;> first | rfl | cases entered
  have still : ∀ fib, World.outside after.objects fib = false →
      World.asleep after.objects fib = true := by
    intro fib inside
    by_contra awake
    rcases (reachable_scheduled later).queued fib inside (by simpa using awake) with runs | queued
    · cases idle.symm.trans runs
    · rw [empty] at queued
      cases queued
  have objects := objects_reachable later
  refine ⟨still, fun name fib sleeps => ?_, fun name fib sleeps => ?_⟩
  · have socket := World.socket_reachable objects World.each_anyStep name
    apply Socket.awaited_of_sleeps (Socket.reachable_owned socket) (Socket.reachable_lends socket)
      _ sleeps
    intro other inside
    exact sleeps_of_still later still (.socket name) (congrArg Bool.not inside)
  · have server := World.server_reachable objects World.each_anyStep name
    apply Server.awaited_of_sleeps (Server.reachable_owned server)
      (Server.reachable_attentive server) _ sleeps
    intro other suspended
    exact sleeps_of_still later still (.server name) suspended

/-- A reader, a writer and a fiber that listens and accepts wait when the thread
blocks. -/
theorem thread_blocks_for_reader_writer_and_accepter :
    ∃ before after : State Unit (Fin 3) (Fin 2) (Fin 1),
      (machine Unit (Fin 3) (Fin 2) (Fin 1)).Reachable Machine.AnyStep before ∧
      (machine Unit (Fin 3) (Fin 2) (Fin 1)).step before (.dispatch (.setTimer 0)) = some after ∧
      World.asleep after.objects 0 = true ∧
      Socket.Awaited (World.socketOf after.objects 0) 0 ∧
      Socket.Awaited (World.socketOf after.objects 0) 1 ∧
      Server.Awaited (World.serverOf after.objects 0) 2 := by
  have first : (machine Unit (Fin 3) (Fin 2) (Fin 1)).Reachable Machine.AnyStep
      ⟨Scheduler.initial, World.initially (fun _ => 0) 0⟩ :=
    .start ⟨rfl, World.initially_init _ _⟩
  have reachable := first.exec (Machine.along_anyStep _ _)
    (rfl : (machine Unit (Fin 3) (Fin 2) (Fin 1)).exec
      ⟨Scheduler.initial, World.initially (fun _ => 0) 0⟩
      [.push () 0, .dispatch .drain, .dispatch (.pickNext 0), .ready 1, .ready 2,
        .library (.socket 0) (Socket.Action.read 0 (.read 100 4) 0) [], .suspend,
        .dispatch .drain, .dispatch (.pickNext 0),
        .library (.socket 0) (Socket.Action.write 1 [1, 2] 0) [], .suspend,
        .dispatch .drain, .dispatch (.pickNext 0),
        .library (.server 0) (Server.Action.listen 2 0) [],
        .library (.server 0) (Server.Action.accept 2 0 1) [], .suspend,
        .dispatch .drain, .dispatch (.pickNext 0), .dispatch .suspendEnter] = some _)
  have blocks := thread_blocks_only_for_libuv reachable
    (rfl : (machine Unit (Fin 3) (Fin 2) (Fin 1)).step _ (.dispatch (.setTimer 0)) = some _)
    rfl rfl
  exact ⟨_, _, reachable, rfl, blocks.1 0 rfl, blocks.2.1 0 0 rfl, blocks.2.1 0 1 rfl,
    (blocks.2.2 0 2 rfl).resolve_right fun unheard => by cases unheard.unheard⟩

/-! ## The turn of a woken call -/

/-- The dispatcher takes a step of its own, or the running fiber gives the
thread back to it. -/
def Action.dispatches : Action Thread Fib Sock Serv → Bool
  | .dispatch action => action.dispatches
  | .suspend | .yield => true
  | .library _ _ _ | .ready _ | .push _ _ => false

/-- The fiber takes a step in the library. -/
def Action.actor : Action Thread Fib Sock Serv → Option Fib
  | .library object action _ => object.actor action
  | .dispatch _ | .suspend | .yield | .ready _ | .push _ _ => none

/-- The fiber is in a call of the library and could go on with it. -/
structure CanGoOn (state : State Thread Fib Sock Serv) (fib : Fib) : Prop where
  inside : World.outside state.objects fib = false
  awake : World.asleep state.objects fib = false

/-- Only the fiber itself ends that. -/
theorem CanGoOn.step {fib : Fib} (ready : CanGoOn before fib)
    (reachable : (World.machine Fib Sock Serv).Reachable Machine.AnyStep before.objects)
    (step : Step before after action) (other : action.actor ≠ some fib) : CanGoOn after fib := by
  cases step with
  | library hosts stepped distinct wakes run =>
      have spared := World.step_spares reachable stepped other
      constructor
      · by_contra free
        have idle := World.outside_iff.mp (by simpa using free)
        have before : World.outside before.objects fib = true := by
          rw [World.outside_iff]
          exact fun object => (spared object).1.symm.trans (idle object)
        exact absurd (ready.inside.symm.trans before) (by decide)
      · rw [World.asleep_eq_false_iff]
        intro object
        by_contra sleeps
        have slept := (spared object).2.2 (by simpa using sleeps)
        have awake := World.asleep_eq_false_iff.mp ready.awake object
        exact absurd (awake.symm.trans slept) (by decide)
  | dispatch _ _ same | suspend _ _ _ same | yield _ _ _ same | ready _ _ _ same
  | push _ _ same => exact ⟨same ▸ ready.inside, same ▸ ready.awake⟩

omit [DecidableEq Fib] [Fintype Fib] in
/-- While a fiber runs, the dispatcher does nothing. -/
theorem dispatches_of_running {action : Scheduler.Action Thread Fib}
    {before after : Scheduler.State Thread Fib} {fib : Fib} (internal : action.internal = true)
    (stepped : before.step action = some after) (runs : before.pc.fiber = some fib) :
    action.dispatches = false := by
  have place : before.pc = .running fib := by
    generalize before.pc = pc at runs
    cases pc <;> simp_all [Scheduler.Pc.fiber]
  cases action with
  | push _ _ | awakened _ | yield => cases internal
  | updateNotify _ | endNotify _ | timerFires => rfl
  | _ =>
      simp [Scheduler.State.step, Scheduler.State.drain, Scheduler.State.pickNext,
        Scheduler.State.suspendEnter, Scheduler.State.setTimer, Scheduler.State.uvRunReturns,
        Scheduler.State.shouldWakeUp, Scheduler.State.loopTest, Scheduler.State.stopTimer,
        Scheduler.State.suspendExit, place] at stepped

omit [DecidableEq Thread] [DecidableEq Fib] [Fintype Fib] [DecidableEq Sock] [Fintype Sock]
  [DecidableEq Serv] [Fintype Serv] in
theorem distance_of_running {fib : Fib} (runs : state.running = some fib) :
    state.scheduler.pc.distance = 3 := by
  unfold State.running at runs
  generalize state.scheduler.pc = pc at runs
  cases pc <;> first | rfl | cases runs

/-- A fiber that has the thread and could go on keeps it until it does. -/
theorem Step.keeps {fib : Fib} (step : Step before after action) (ready : CanGoOn before fib)
    (runs : before.running = some fib) :
    action.dispatches = false ∧ after.running = some fib := by
  have stays : after.scheduler.pc = before.scheduler.pc → after.running = some fib := by
    intro same
    rw [← runs]
    exact congrArg Scheduler.Pc.fiber same
  have others : ∀ other, before.running = some other →
      World.asleep before.objects other = false ∧ World.outside before.objects other = false := by
    intro other same
    cases runs.symm.trans same
    exact ⟨ready.awake, ready.inside⟩
  cases step with
  | dispatch internal stepped same =>
      exact ⟨dispatches_of_running internal stepped runs,
        (Scheduler.kept_of_internal internal stepped).running fib runs⟩
  | library hosts stepped distinct wakes run =>
      exact ⟨rfl, stays (Scheduler.exec_awakened run).2.2⟩
  | suspend running waits stepped same =>
      obtain ⟨awake, inside⟩ := others _ running
      rw [awake, inside] at waits
      simp at waits
  | yield running free run same =>
      exact absurd ((others _ running).2.symm.trans free) (by decide)
  | ready awakens parked stepped same =>
      exact ⟨rfl, stays (Scheduler.awakened_step stepped).2.2⟩
  | push parked stepped same => exact ⟨rfl, stays (Scheduler.push_step stepped).2.2⟩

/-- The fiber is still in the queue, and its turn has come closer if the
dispatcher took a step. -/
def Nearer (before after : State Thread Fib Sock Serv) (action : Action Thread Fib Sock Serv)
    (fib : Fib) (ahead : List Fib) : Prop :=
  ∃ fewer more, after.scheduler.queue = fewer ++ fib :: more ∧
    (if action.dispatches then 1 else 0) + (after.scheduler.pc.distance + 7 * fewer.length) ≤
      before.scheduler.pc.distance + 7 * ahead.length

/-- The fiber gets the thread after those ahead of it. -/
theorem Step.turn {fib : Fib} {ahead behind : List Fib} (step : Step before after action)
    (invariant : Scheduler.ReadyInvariant before.scheduler)
    (queued : before.scheduler.queue = ahead ++ fib :: behind) :
    after.running = some fib ∨ Nearer before after action fib ahead := by
  have nonempty : before.scheduler.queue ≠ [] := by
    rw [queued]
    simp
  -- The queue only grows at its end, and the running fiber is the same.
  have grows : ∀ added, after.scheduler.queue = before.scheduler.queue ++ added →
      action.dispatches = false → after.scheduler.pc.distance = before.scheduler.pc.distance →
        Nearer before after action fib ahead := by
    intro added queue quiet near
    refine ⟨ahead, behind ++ added, by rw [queue, queued]; simp, ?_⟩
    rw [quiet, near]
    simp
  -- The running fiber gives the thread back.
  have leaves : ∀ other added, before.running = some other → after.scheduler.pc = .drain →
      after.scheduler.queue = before.scheduler.queue ++ added →
        Nearer before after action fib ahead := by
    intro other added runs pc queue
    refine ⟨ahead, behind ++ added, by rw [queue, queued]; simp, ?_⟩
    rw [pc, distance_of_running runs]
    simp only [Scheduler.Pc.distance]
    split <;> omega
  cases step with
  | dispatch internal stepped same =>
      cases Scheduler.step_ready stepped with
      | outside other none queue pc =>
          exact .inr (grows [] (by rw [queue, List.append_nil]) other (by rw [pc]))
      | hosted other queue pc => exact .inr (grows _ queue other pc.distance_eq)
      | drains place queue pc =>
          refine .inr ⟨ahead, behind ++ before.scheduler.remote, by rw [queue, queued]; simp, ?_⟩
          rw [place, pc]
          simp only [Scheduler.Pc.distance]
          split <;> omega
      | picks fiber place queue pc =>
          rw [queued] at queue
          cases ahead with
          | nil =>
              rw [List.nil_append, List.cons.injEq] at queue
              exact .inl (by rw [State.running, pc, queue.1]; rfl)
          | cons first rest =>
              rw [List.cons_append, List.cons.injEq] at queue
              refine .inr ⟨rest, behind, queue.2.symm, ?_⟩
              rw [place, pc]
              simp only [Scheduler.Pc.distance, List.length_cons]
              split <;> omega
      | suspends place empty queue pc => exact absurd empty nonempty
      | moves own none queue pc =>
          have closer := pc.closer invariant nonempty
          refine .inr ⟨ahead, behind, by rw [queue, queued], ?_⟩
          split <;> omega
  | library hosts stepped distinct wakes run =>
      obtain ⟨queue, _, pc⟩ := Scheduler.exec_awakened run
      exact .inr (grows _ queue rfl (by rw [pc]))
  | suspend running waits stepped same =>
      obtain ⟨queue, _, pc⟩ := Scheduler.yield_step stepped
      exact .inr (leaves _ [] running pc (by rw [queue, List.append_nil]))
  | yield running free run same =>
      obtain ⟨middle, readied, rest⟩ := Machine.exec_cons_some run
      obtain ⟨queue, _, pc⟩ := Scheduler.yield_step (Machine.exec_singleton_iff.mp rest)
      exact .inr (leaves _ _ running pc (queue.trans (Scheduler.awakened_step readied).1))
  | ready awakens parked stepped same =>
      obtain ⟨queue, _, pc⟩ := Scheduler.awakened_step stepped
      exact .inr (grows _ queue rfl (by rw [pc]))
  | push parked stepped same =>
      obtain ⟨queue, _, pc⟩ := Scheduler.push_step stepped
      exact .inr (grows [] (by rw [queue, List.append_nil]) rfl (by rw [pc]))

/-- As long as the fiber does not go on with its call, the dispatcher runs out
of steps. -/
theorem dispatches_le {fib : Fib} {actions : List (Action Thread Fib Sock Serv)}
    (reachable : (machine Thread Fib Sock Serv).Reachable Machine.AnyStep state)
    (ready : CanGoOn state fib)
    (run : (machine Thread Fib Sock Serv).exec state actions = some final)
    (waits : ∀ action ∈ actions, action.actor ≠ some fib) :
    (state.running = some fib → actions.countP Action.dispatches = 0) ∧
      ∀ ahead behind, state.scheduler.queue = ahead ++ fib :: behind →
        actions.countP Action.dispatches ≤ state.scheduler.pc.distance + 7 * ahead.length := by
  induction actions generalizing state with
  | nil => exact ⟨fun _ => rfl, fun _ _ _ => Nat.zero_le _⟩
  | cons action rest inductionHypothesis =>
      obtain ⟨after, stepped, tailRun⟩ := Machine.exec_cons_some run
      have step := step_inversion stepped
      have kept := ready.step (objects_reachable reachable) step (waits action List.mem_cons_self)
      have later := inductionHypothesis (.next reachable trivial stepped) kept tailRun
        (fun other member => waits other (List.mem_cons_of_mem _ member))
      rw [List.countP_cons]
      constructor
      · intro runs
        obtain ⟨quiet, runsOn⟩ := step.keeps ready runs
        rw [later.1 runsOn, quiet]
        rfl
      · intro ahead behind queued
        have invariant := Scheduler.readyInvariant_reachable (scheduler_reachable reachable)
        rcases step.turn invariant queued with runs | ⟨fewer, more, queue, closer⟩
        · rw [later.1 runs]
          have positive := state.scheduler.pc.distance_pos
          split <;> omega
        · have bound := later.2 fewer more queue
          omega

/-- A woken call goes on in its turn. A fiber that is suspended in a call and
ready takes its next step in the library before the dispatcher has taken more
than seven steps for each fiber ahead of it in `queue_` and for the fiber
itself, whatever other fibers, callbacks and threads do. -/
theorem woken_call_goes_on_in_turn {fib : Fib} {object : Object Sock Serv}
    {actions : List (Action Thread Fib Sock Serv)} {ahead behind : List Fib}
    (reachable : (machine Thread Fib Sock Serv).Reachable Machine.AnyStep state)
    (suspended : object.isSuspended (state.objects object) fib = true)
    (queued : state.scheduler.queue = ahead ++ fib :: behind)
    (run : (machine Thread Fib Sock Serv).exec state actions = some final)
    (steps : 7 * (ahead.length + 1) < actions.countP Action.dispatches) :
    ∃ action ∈ actions, action.actor = some fib := by
  by_contra never
  have ready : CanGoOn state fib := by
    constructor
    · exact World.inside_of_suspended suspended
    · apply (reachable_scheduled reachable).ready fib
      rw [queued]
      exact .inl (by simp)
  have waits : ∀ action ∈ actions, action.actor ≠ some fib := by
    intro action member acts
    exact never ⟨action, member, acts⟩
  have bound := (dispatches_le reachable ready run waits).2 ahead behind queued
  have near := state.scheduler.pc.distance_le
  omega

/-- The bytes arrive while the thread is blocked, and the read returns. -/
theorem woken_reader_goes_on :
    ∃ (state final : State Unit (Fin 1) (Fin 1) (Fin 1))
      (actions : List (Action Unit (Fin 1) (Fin 1) (Fin 1))),
      (machine Unit (Fin 1) (Fin 1) (Fin 1)).Reachable Machine.AnyStep state ∧
      (machine Unit (Fin 1) (Fin 1) (Fin 1)).exec state actions = some final ∧
      actions.countP Action.dispatches = 8 ∧ ∃ action ∈ actions, action.actor = some 0 := by
  have first : (machine Unit (Fin 1) (Fin 1) (Fin 1)).Reachable Machine.AnyStep
      ⟨Scheduler.initial, World.initially (fun _ => 0) 0⟩ :=
    .start ⟨rfl, World.initially_init _ _⟩
  have reachable := first.exec (Machine.along_anyStep _ _)
    (rfl : (machine Unit (Fin 1) (Fin 1) (Fin 1)).exec
      ⟨Scheduler.initial, World.initially (fun _ => 0) 0⟩
      [.push () 0, .dispatch .drain, .dispatch (.pickNext 0),
        .library (.socket 0) (Socket.Action.read 0 (.read 100 4) 0) [], .suspend,
        .dispatch .drain, .dispatch (.pickNext 0), .dispatch .suspendEnter,
        .dispatch (.setTimer 0),
        .library (.socket 0) (Socket.Action.readCallback 2 [7, 8]) [0]] = some _)
  have woken : ∃ state : State Unit (Fin 1) (Fin 1) (Fin 1),
      (machine Unit (Fin 1) (Fin 1) (Fin 1)).Reachable Machine.AnyStep state ∧
      Object.isSuspended (.socket 0) (state.objects (.socket 0)) 0 = true ∧
      state.scheduler.queue = [] ++ 0 :: [] ∧
      ∃ final, (machine Unit (Fin 1) (Fin 1) (Fin 1)).exec state
        [.dispatch (.uvRunReturns true), .dispatch .shouldWakeUp, .dispatch .loopTest,
          .dispatch .stopTimer, .dispatch .suspendExit, .dispatch .drain,
          .dispatch (.pickNext 0), .library (.socket 0) (Socket.Action.resume 0 0) [],
          .suspend] = some final := ⟨_, reachable, rfl, rfl, _, rfl⟩
  obtain ⟨state, reachable, suspended, queued, final, run⟩ := woken
  exact ⟨state, final, _, reachable, run, rfl,
    woken_call_goes_on_in_turn reachable suspended queued run (by decide)⟩

end Runtime

end Fiberio
