import Fiberio.Runtime.Bystanders

/-!
Owns that a fiber is suspended in one object at a time. The guards of the
library say where a call may begin; the invariant over whole runs is that a
fiber that waits for one object waits for no other, and that it is in the calls
of one server socket at most.

Does not own when a suspended fiber is woken.
-/

namespace Fiberio

theorem Server.Fiber.isIdle_of_suspended {Sock : Type} {fiber : Server.Fiber Sock}
    (suspended : fiber.isSuspended = true) : fiber.isIdle = false := by
  cases fiber <;> first | rfl | cases suspended

namespace World

open Fiberio.Foundation

variable {Fib Sock Serv : Type} [DecidableEq Fib] [Fintype Fib] [DecidableEq Sock]
  [Fintype Sock] [DecidableEq Serv] [Fintype Serv] {before after states : State Fib Sock Serv}
  {object other : Object Sock Serv} {fib : Fib}

omit [DecidableEq Fib] [Fintype Fib] [DecidableEq Sock] [Fintype Sock] [DecidableEq Serv]
  [Fintype Serv] in
theorem Object.isIdle_of_suspended {state : object.State Fib}
    (suspended : object.isSuspended state fib = true) : object.isIdle state fib = false := by
  cases object with
  | socket name => simpa [Object.isIdle, Object.isSuspended] using suspended
  | server name => exact Server.Fiber.isIdle_of_suspended suspended

omit [DecidableEq Fib] [Fintype Fib] [DecidableEq Sock] [Fintype Sock] [DecidableEq Serv]
  [Fintype Serv] in
theorem Object.isSuspended_of_sleeps {state : object.State Fib}
    (sleeps : object.sleeps state fib = true) : object.isSuspended state fib = true := by
  cases object with
  | socket name =>
      simp only [Object.sleeps, Object.isSuspended] at sleeps ⊢
      generalize Socket.State.fiber state fib = fiber at sleeps ⊢
      cases fiber <;> first | rfl | cases sleeps
  | server name =>
      simp only [Object.sleeps, Object.isSuspended] at sleeps ⊢
      generalize Server.State.fiber state fib = fiber at sleeps ⊢
      cases fiber <;> first | rfl | cases sleeps

/-- A fiber is in one call at a time. An `accept` that is throwing holds its
fiber in the server socket while the destructor of a socket may suspend it. -/
structure OneCall (states : State Fib Sock Serv) : Prop where
  suspended : ∀ fib (first second : Object Sock Serv),
    first.isSuspended (states first) fib = true →
      second.isSuspended (states second) fib = true → first = second
  servers : ∀ fib first second, ((serverOf states first).fiber fib).isIdle = false →
    ((serverOf states second).fiber fib).isIdle = false → first = second

/-! ## Where the fiber of a step comes from -/

/-- A fiber in a step of a socket is suspended in no other object. -/
theorem OneCall.socket_actor {name : Sock} {action : Socket.Action Fib} (oneCall : OneCall before)
    (stepped : (machine Fib Sock Serv).step before ⟨.socket name, action⟩ = some after)
    (executes : Socket.Action.actor action = some fib) (apart : other ≠ .socket name) :
    other.isSuspended (before other) fib = false := by
  obtain ⟨admitted, taken⟩ := Option.ite_none_right_eq_some.mp stepped
  obtain ⟨moved, step, _⟩ := Option.map_eq_some_iff.mp taken
  obtain ⟨_, guard⟩ := Bool.and_eq_true_iff.mp admitted
  -- A call begins outside the objects, except for the destructor that `accept` runs.
  have called : action.caller = some fib → other.isSuspended (before other) fib = false := by
    intro caller
    simp only [socketEnabled, caller, Bool.and_eq_true, Bool.or_eq_true, decide_eq_true_eq]
      at guard
    obtain ⟨sockets, origin⟩ := guard
    simp only [outsideSockets, decide_eq_true_eq] at sockets
    cases other with
    | socket another =>
        have idle := sockets another (by
          rintro same
          exact apart (by rw [Option.some.inj same]))
        simp only [Object.isSuspended]
        exact congrArg Bool.not idle
    | server another =>
        by_contra suspended
        have inside := Object.isIdle_of_suspended (by simpa using suspended)
        rcases origin with ⟨servers, _⟩ | ⟨_, server, unwinds⟩
        · simp only [outsideServers, decide_eq_true_eq] at servers
          exact absurd (inside.symm.trans (servers another (by simp))) (by decide)
        · have unwinding : ((serverOf before server).fiber fib).isIdle = false ∧
              ((serverOf before server).fiber fib).isSuspended = false := by
            generalize (serverOf before server).fiber fib = fiber at unwinds
            cases fiber <;> first | exact ⟨rfl, rfl⟩ | cases unwinds
          have same := oneCall.servers fib server another unwinding.1 inside
          subst same
          exact suspended unwinding.2
  cases action with
  | resume mover status =>
      cases executes
      have here : (Object.socket name : Object Sock Serv).isSuspended
          (before (.socket name)) fib = true := congrArg Bool.not (Socket.inside_of_resume step)
      by_contra suspended
      exact apart (oneCall.suspended fib _ _ (by simpa using suspended) here)
  | connect _ _ | read _ _ _ | write _ _ _ | close _ _ | destroy _ _ => exact called executes
  | complete _ _ | readCallback _ _ | onHandleClosed => cases executes

/-- A fiber that a step of a server socket leaves suspended there, or in
`accept`, came from nowhere else. -/
theorem OneCall.server_actor {name : Serv} {action : Server.Action Fib Sock}
    (oneCall : OneCall before)
    (stepped : (machine Fib Sock Serv).step before ⟨.server name, action⟩ = some after)
    (executes : Server.Action.actor action = some fib)
    (inside : ((serverOf after name).fiber fib).isIdle = false) :
    (∀ other : Object Sock Serv, other ≠ .server name →
      other.isSuspended (before other) fib = false) ∧
    ∀ another, another ≠ name → ((serverOf before another).fiber fib).isIdle = true := by
  obtain ⟨admitted, taken⟩ := Option.ite_none_right_eq_some.mp stepped
  obtain ⟨moved, step, updated⟩ := Option.map_eq_some_iff.mp taken
  obtain ⟨_, guard⟩ := Bool.and_eq_true_iff.mp admitted
  have now : serverOf after name = moved := by
    rw [← updated]
    exact Function.update_self _ _ _
  have called : action.caller = some fib →
      (∀ other : Object Sock Serv, other ≠ .server name →
        other.isSuspended (before other) fib = false) ∧
      ∀ another, another ≠ name → ((serverOf before another).fiber fib).isIdle = true := by
    intro caller
    simp only [serverEnabled, caller, Bool.and_eq_true, outsideSockets, outsideServers,
      decide_eq_true_eq] at guard
    obtain ⟨⟨⟨sockets, servers⟩, _⟩, _⟩ := guard
    have idle : ∀ another, another ≠ name →
        ((serverOf before another).fiber fib).isIdle = true := by
      intro another different
      exact servers another (fun same => different (Option.some.inj same).symm)
    refine ⟨fun other apart => ?_, idle⟩
    by_contra suspended
    have inside := Object.isIdle_of_suspended (by simpa using suspended)
    cases other with
    | socket another =>
        exact absurd (inside.symm.trans (sockets another (by simp))) (by decide)
    | server another =>
        have different : another ≠ name := fun same => apart (by rw [same])
        exact absurd (inside.symm.trans (idle another different)) (by decide)
  cases action with
  | resume mover answers =>
      cases executes
      have here : ((serverOf before name).fiber fib).isSuspended = true := by
        have resumed : (serverOf before name).resume fib answers = some moved := step
        unfold Server.State.resume at resumed
        split at resumed
        · simp [*, Server.Fiber.isSuspended]
        · simp [*, Server.Fiber.isSuspended]
        · simp [*, Server.Fiber.isSuspended]
        · cases resumed
      constructor
      · intro other apart
        by_contra suspended
        exact apart (oneCall.suspended fib other (.server name) (by simpa using suspended) here)
      · intro another different
        by_contra entered
        exact different (oneCall.servers fib another name (by simpa using entered)
          (Server.Fiber.isIdle_of_suspended here))
  | unwound mover =>
      cases executes
      -- The exception leaves `accept`.
      have left : (serverOf before name).unwound fib = some moved := step
      unfold Server.State.unwound at left
      split at left
      · cases left
        have idle : ((serverOf after name).fiber fib).isIdle = true := by
          rw [now]
          simp [Server.Fiber.isIdle]
        exact absurd (inside.symm.trans idle) (by decide)
      · cases left
  | bind _ _ _ _ | listen _ _ | accept _ _ _ | close _ | destroy _ => exact called executes
  | complete _ _ | connectionCallback _ | onHandleClosed => cases executes

/-! ## Whole runs -/

/-- Every object begins without a fiber. -/
theorem isIdle_of_init
    (begun : (machine Fib Sock Serv).Init states) (object : Object Sock Serv) (fib : Fib) :
    object.isIdle (states object) fib = true := by
  have initial := begun object
  cases object with
  | socket name =>
      obtain ⟨memory, same⟩ := initial
      rw [same]
      rfl
  | server name =>
      obtain ⟨port, same⟩ := initial
      rw [same]
      rfl

theorem OneCall.initial (begun : (machine Fib Sock Serv).Init states) : OneCall states := by
  constructor
  · intro fib first second suspended _
    have inside := Object.isIdle_of_suspended suspended
    exact absurd (inside.symm.trans (isIdle_of_init begun first fib)) (by decide)
  · intro fib first second inside _
    exact absurd (inside.symm.trans (isIdle_of_init begun (.server first) fib)) (by decide)

/-- A fiber that a step leaves suspended is suspended nowhere else. -/
theorem OneCall.actor {action : object.Action Fib} (oneCall : OneCall before)
    (stepped : (machine Fib Sock Serv).step before ⟨object, action⟩ = some after)
    (executes : object.actor action = some fib)
    (here : object.isSuspended (after object) fib = true) (apart : other ≠ object) :
    other.isSuspended (after other) fib = false := by
  rw [step_other stepped apart]
  cases object with
  | socket name => exact oneCall.socket_actor stepped executes apart
  | server name =>
      exact (oneCall.server_actor stepped executes (Object.isIdle_of_suspended here)).1 other apart

theorem OneCall.step {action : object.Action Fib} (oneCall : OneCall before)
    (reachable : (machine Fib Sock Serv).Reachable Machine.AnyStep before)
    (stepped : (machine Fib Sock Serv).step before ⟨object, action⟩ = some after) :
    OneCall after := by
  constructor
  · intro fib first second firstHolds secondHolds
    by_cases executes : object.actor action = some fib
    · by_contra different
      rcases Decidable.em (first = object) with rfl | apart
      · have free := oneCall.actor stepped executes firstHolds (Ne.symm different)
        exact absurd (free.symm.trans secondHolds) (by decide)
      · rcases Decidable.em (second = object) with rfl | distant
        · have free := oneCall.actor stepped executes secondHolds different
          exact absurd (free.symm.trans firstHolds) (by decide)
        · rw [step_other stepped apart] at firstHolds
          rw [step_other stepped distant] at secondHolds
          exact different (oneCall.suspended fib first second firstHolds secondHolds)
    · have spared := step_spares reachable stepped executes
      rw [(spared first).2.1] at firstHolds
      rw [(spared second).2.1] at secondHolds
      exact oneCall.suspended fib first second firstHolds secondHolds
  · intro fib first second firstHolds secondHolds
    by_cases executes : object.actor action = some fib
    · have elsewhere : ∀ server, (Object.server server : Object Sock Serv) ≠ object →
          serverOf after server = serverOf before server := fun _ apart =>
        step_other stepped apart
      by_contra different
      rcases Decidable.em (.server first = object) with rfl | apart
      · have apart : second ≠ first := Ne.symm different
        have idle := (oneCall.server_actor stepped executes firstHolds).2 second apart
        rw [elsewhere second (fun same => apart (Object.server.inj same))] at secondHolds
        exact absurd (secondHolds.symm.trans idle) (by decide)
      · rcases Decidable.em (.server second = object) with rfl | distant
        · have idle := (oneCall.server_actor stepped executes secondHolds).2 first different
          rw [elsewhere first apart] at firstHolds
          exact absurd (firstHolds.symm.trans idle) (by decide)
        · rw [elsewhere first apart] at firstHolds
          rw [elsewhere second distant] at secondHolds
          exact different (oneCall.servers fib first second firstHolds secondHolds)
    · have spared := step_spares reachable stepped executes
      have same : ∀ server, ((serverOf after server).fiber fib).isIdle =
          ((serverOf before server).fiber fib).isIdle := fun server => (spared (.server server)).1
      rw [same] at firstHolds secondHolds
      exact oneCall.servers fib first second firstHolds secondHolds

theorem reachable_oneCall
    (reachable : (machine Fib Sock Serv).Reachable Machine.AnyStep states) : OneCall states := by
  apply reachable.invariant_under (fun _ reached => reached)
  · intro states begun
    exact .initial begun
  · rintro before ⟨object, action⟩ after reached oneCall _ stepped
    exact oneCall.step reached stepped

end World

end Fiberio
