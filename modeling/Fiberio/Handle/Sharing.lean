import Fiberio.Foundation.Pointers
import Fiberio.Runtime.Bystanders
import Fiberio.Socket.Lifetime

/-!
Owns `fiberio::socket` (`include/fiberio/socket.hpp`, `src/socket.cpp`) as a
handle: its constructors, its copies and moves, its destructor, and the calls
that go through `impl_`. Any number of fibers make and drop handles of any
number of sockets. The `socket_impl` is destroyed with its last handle, and
the theorem is that this destructor never finds a fiber inside, although no
call holds a reference of its own.

Does not own what a call does once it is inside, nor handles that were moved
from, which are not called.
-/

namespace Fiberio.Handle

open Fiberio.Foundation

/-! ## Handles -/

structure State (Fib Name Obj : Type) where
  /-- `impl_` of every handle -/
  impl : Pointers Name Obj
  /-- `make_shared` has made the object. -/
  made : Obj → Bool
  /-- The handle that the fiber's last call went through. -/
  through : Fib → Option Name
  objects : Obj → Socket.State Fib
  /-- A destructor has run while a fiber was inside the object. -/
  fault : Bool

/-- An operation that may drop the last handle of a socket carries the answer
of `uv_shutdown` to its destructor. -/
inductive Action (Fib Name Obj : Type) where
  /-- `socket()`, or the handle that `accept` returns. -/
  | make (name : Name) (obj : Obj)
  /-- `socket(const socket&)` and `operator=(const socket&)`. -/
  | copy (fib : Fib) (source target : Name) (status : Int)
  /-- `socket(socket&&)` and `operator=(socket&&)`. -/
  | move (fib : Fib) (source target : Name) (status : Int)
  /-- `~socket`. -/
  | drop (fib : Fib) (name : Name) (status : Int)
  | call (name : Name) (entry : Socket.Action Fib)
  /-- A suspended call goes on, or a callback runs. -/
  | goesOn (obj : Obj) (entry : Socket.Action Fib)

namespace State

variable {Fib Name Obj : Type} [DecidableEq Fib] [Fintype Fib] [DecidableEq Name]
  [Fintype Name] [DecidableEq Obj] [Fintype Obj]

def outside (state : State Fib Name Obj) (fib : Fib) : Bool :=
  decide (∀ obj, ((state.objects obj).fiber fib).isIdle = true)

/-- No exception has left a destructor. -/
def running (state : State Fib Name Obj) : Bool :=
  decide (∀ obj, (state.objects obj).life ≠ .terminated)

/-- What the handles point to after the operation. -/
def implAfter (state : State Fib Name Obj) : Action Fib Name Obj → Pointers Name Obj
  | .make name obj => state.impl.make name obj
  | .copy _ source target _ => state.impl.copy source target
  | .move _ source target _ => state.impl.move source target
  | .drop _ name _ => state.impl.drop name
  | .call _ _ | .goesOn _ _ => state.impl

/-- The handle `target` is overwritten. If it was the last of its object, the
object is destroyed. -/
def replace (state : State Fib Name Obj) (fib : Fib) (target : Name)
    (impl : Pointers Name Obj) (status : Int) : State Fib Name Obj :=
  let replaced := { state with impl := impl, through := Function.update state.through fib none }
  match state.impl target with
  | none => replaced
  | some obj =>
      if impl.Named obj then replaced
      else
        match (Socket.machine Fib).step (state.objects obj) (.destroy fib status) with
        | some destroyed =>
            { replaced with objects := Function.update state.objects obj destroyed }
        | none => { replaced with fault := true }

/-- A public member function is called through a handle. -/
def call (state : State Fib Name Obj) (name : Name) (entry : Socket.Action Fib) :
    Option (State Fib Name Obj) :=
  match state.impl name, entry.caller with
  | some obj, some fib =>
      if state.outside fib && !entry.isDestroy then
        ((Socket.machine Fib).step (state.objects obj) entry).map fun entered =>
          { state with
            objects := Function.update state.objects obj entered
            through := Function.update state.through fib (some name) }
      else none
  | _, _ => none

def goesOn (state : State Fib Name Obj) (obj : Obj) (entry : Socket.Action Fib) :
    Option (State Fib Name Obj) :=
  if state.made obj && entry.caller.isNone then
    ((Socket.machine Fib).step (state.objects obj) entry).map fun moved =>
      { state with objects := Function.update state.objects obj moved }
  else none

def step (state : State Fib Name Obj) (action : Action Fib Name Obj) :
    Option (State Fib Name Obj) :=
  if state.running then
    match action with
    | .make name obj =>
        if state.impl name = none ∧ state.made obj = false then
          some { state with
            impl := state.implAfter action, made := Function.update state.made obj true }
        else none
    | .copy fib _ target status | .move fib _ target status | .drop fib target status =>
        if state.outside fib then
          some (state.replace fib target (state.implAfter action) status)
        else none
    | .call name entry => state.call name entry
    | .goesOn obj entry => state.goesOn obj entry
  else none

/-- A call through the handle is in progress. -/
def InUse (state : State Fib Name Obj) (name : Name) : Prop :=
  ∃ fib, state.through fib = some name ∧ state.outside fib = false

/-- No operation changes a handle while a call through it is in progress. It
may be copied then. -/
def Keeps (state : State Fib Name Obj) (action : Action Fib Name Obj) : Prop :=
  ∀ name, state.InUse name → state.implAfter action name = state.impl name

instance (state : State Fib Name Obj) (name : Name) : Decidable (state.InUse name) :=
  inferInstanceAs (Decidable (∃ _, _))

instance (state : State Fib Name Obj) (action : Action Fib Name Obj) :
    Decidable (state.Keeps action) :=
  inferInstanceAs (Decidable (∀ _, _))

end State

/-- The handles of a program, with the sockets behind them. -/
def machine (Fib Name Obj : Type) [DecidableEq Fib] [Fintype Fib] [DecidableEq Name]
    [Fintype Name] [DecidableEq Obj] [Fintype Obj] :
    Machine (State Fib Name Obj) (Action Fib Name Obj) where
  Init := fun state => (∀ name, state.impl name = none) ∧ (∀ obj, state.made obj = false) ∧
    (∀ obj, (Socket.machine Fib).Init (state.objects obj)) ∧ state.fault = false
  step := State.step

variable {Fib Name Obj : Type} [DecidableEq Fib] [Fintype Fib] [DecidableEq Name]
  [Fintype Name] [DecidableEq Obj] [Fintype Obj] {state before after : State Fib Name Obj}
  {action : Action Fib Name Obj}

/-! ## Steps -/

/-- What one step does to the handles and to one of the objects. -/
inductive Step (before after : State Fib Name Obj) : Prop where
  | makes {name : Name} {obj : Obj} (free : before.impl name = none)
      (unmade : before.made obj = false)
      (same : after = { before with
        impl := before.impl.make name obj, made := Function.update before.made obj true })
  | replaces {fib : Fib} {target : Name} (outside : before.outside fib = true)
      (releases : before.impl.Releases after.impl target)
      (survives : ∀ obj, before.impl target = some obj → after.impl.Named obj)
      (same : after = { before with
        impl := after.impl, through := Function.update before.through fib none })
  | destroys {fib : Fib} {target : Name} {obj : Obj} {status : Int} {destroyed : Socket.State Fib}
      (stepped : (Socket.machine Fib).step (before.objects obj) (.destroy fib status) =
        some destroyed)
      (outside : before.outside fib = true) (releases : before.impl.Releases after.impl target)
      (pointed : before.impl target = some obj) (last : ¬ after.impl.Named obj)
      (same : after = { before with
        impl := after.impl, through := Function.update before.through fib none,
        objects := Function.update before.objects obj destroyed })
  | crashes {fib : Fib} {target : Name} {obj : Obj} {status : Int}
      (refused : (Socket.machine Fib).step (before.objects obj) (.destroy fib status) = none)
      (pointed : before.impl target = some obj) (last : ¬ after.impl.Named obj)
      (same : after.objects = before.objects)
  | calls {fib : Fib} {name : Name} {obj : Obj} {entry : Socket.Action Fib}
      {entered : Socket.State Fib}
      (stepped : (Socket.machine Fib).step (before.objects obj) entry = some entered)
      (pointed : before.impl name = some obj) (caller : entry.caller = some fib)
      (outside : before.outside fib = true) (notDestroy : entry.isDestroy = false)
      (same : after = { before with
        objects := Function.update before.objects obj entered,
        through := Function.update before.through fib (some name) })
  | moves {obj : Obj} {entry : Socket.Action Fib} {moved : Socket.State Fib}
      (stepped : (Socket.machine Fib).step (before.objects obj) entry = some moved)
      (made : before.made obj = true) (inside : entry.caller = none)
      (same : after = { before with objects := Function.update before.objects obj moved })

theorem replace_inversion {fib : Fib} {target : Name} {impl : Pointers Name Obj} {status : Int}
    (outside : before.outside fib = true) (releases : before.impl.Releases impl target) :
    Step before (before.replace fib target impl status) ∧
      (before.replace fib target impl status).impl = impl := by
  unfold State.replace
  cases pointed : before.impl target with
  | none =>
      refine ⟨.replaces outside releases ?_ rfl, rfl⟩
      intro obj other
      rw [pointed] at other
      cases other
  | some obj =>
      by_cases named : impl.Named obj
      · simp only [if_pos named]
        refine ⟨.replaces outside releases ?_ rfl, trivial⟩
        intro other points
        rw [pointed] at points
        cases points
        exact named
      · simp only [if_neg named]
        cases stepped : (Socket.machine Fib).step (before.objects obj) (.destroy fib status) with
        | none => exact ⟨.crashes stepped pointed named rfl, rfl⟩
        | some destroyed =>
            exact ⟨.destroys stepped outside releases pointed named rfl, rfl⟩

/-- What a step does, and that the handles are what `implAfter` says. -/
theorem step_inversion (stepped : (machine Fib Name Obj).step before action = some after) :
    Step before after ∧ after.impl = before.implAfter action := by
  obtain ⟨_, stepped⟩ := Option.ite_none_right_eq_some.mp stepped
  cases action with
  | make name obj =>
      obtain ⟨⟨free, unmade⟩, made⟩ := Option.ite_none_right_eq_some.mp stepped
      cases made
      exact ⟨.makes free unmade rfl, rfl⟩
  | copy fib source target status =>
      obtain ⟨outside, replaced⟩ := Option.ite_none_right_eq_some.mp stepped
      cases replaced
      exact replace_inversion outside (before.impl.copy_releases source target)
  | move fib source target status =>
      obtain ⟨outside, replaced⟩ := Option.ite_none_right_eq_some.mp stepped
      cases replaced
      exact replace_inversion outside (before.impl.move_releases source target)
  | drop fib target status =>
      obtain ⟨outside, replaced⟩ := Option.ite_none_right_eq_some.mp stepped
      cases replaced
      exact replace_inversion outside (before.impl.drop_releases target)
  | call name entry =>
      have called : before.call name entry = some after := stepped
      unfold State.call at called
      split at called
      · rename_i obj fib pointed caller
        obtain ⟨guard, called⟩ := Option.ite_none_right_eq_some.mp called
        obtain ⟨entered, taken, rfl⟩ := Option.map_eq_some_iff.mp called
        obtain ⟨outside, notDestroy⟩ := Bool.and_eq_true_iff.mp guard
        exact ⟨.calls taken pointed caller outside (by simpa using notDestroy) rfl, rfl⟩
      · cases called
  | goesOn obj entry =>
      obtain ⟨guard, moved⟩ := Option.ite_none_right_eq_some.mp stepped
      obtain ⟨later, taken, rfl⟩ := Option.map_eq_some_iff.mp moved
      obtain ⟨made, inside⟩ := Bool.and_eq_true_iff.mp guard
      exact ⟨.moves taken made (Option.isNone_iff_eq_none.mp inside) rfl, rfl⟩

/-- A run of the program, seen from one of its sockets. -/
theorem object_reachable {allowed : State Fib Name Obj → Action Fib Name Obj → Prop}
    (reachable : (machine Fib Name Obj).Reachable allowed state) (obj : Obj) :
    (Socket.machine Fib).Reachable Machine.AnyStep (state.objects obj) := by
  apply reachable.project
  · intro state begun
    exact begun.2.2.1 obj
  · intro before action after _ stepped
    have updated : ∀ {other : Obj} {entry : Socket.Action Fib} {moved : Socket.State Fib},
        (Socket.machine Fib).step (before.objects other) entry = some moved →
        after.objects = Function.update before.objects other moved →
        after.objects obj = before.objects obj ∨ ∃ move, Machine.AnyStep (before.objects obj) move ∧
          (Socket.machine Fib).step (before.objects obj) move = some (after.objects obj) := by
      intro other entry moved taken same
      rw [same]
      by_cases here : obj = other
      · subst here
        rw [Function.update_self]
        exact .inr ⟨entry, trivial, taken⟩
      · exact .inl (Function.update_of_ne here _ _)
    cases (step_inversion stepped).1 with
    | makes free unmade same => exact .inl (by rw [same])
    | replaces outside releases survives same => exact .inl (by rw [same])
    | destroys taken outside releases pointed last same => exact updated taken (by rw [same])
    | crashes refused pointed last same => exact .inl (by rw [same])
    | calls taken pointed caller outside notDestroy same => exact updated taken (by rw [same])
    | moves taken made inside same => exact updated taken (by rw [same])

/-! ## Handles and the life of their sockets -/

/-- Every object lives exactly as long as it has a handle, and a fiber is inside
an object that lives only by a call through a handle that still names it. -/
structure Held (state : State Fib Name Obj) : Prop where
  safe : state.fault = false
  fresh : ∀ obj, state.made obj = false → ∃ memory, state.objects obj = Socket.initial memory
  made : ∀ obj, state.impl.Named obj → state.made obj = true
  alive : ∀ obj, state.made obj = true →
    ((state.objects obj).life = .alive ↔ state.impl.Named obj)
  inside : ∀ fib obj, (state.objects obj).life = .alive →
    ((state.objects obj).fiber fib).isIdle = false →
      ∃ name, state.through fib = some name ∧ state.impl name = some obj

omit [DecidableEq Fib] [Fintype Fib] [DecidableEq Name] [Fintype Name] [DecidableEq Obj] in
theorem outside_eq_false {fib : Fib} {obj : Obj}
    (inside : ((state.objects obj).fiber fib).isIdle = false) : state.outside fib = false := by
  rw [State.outside, decide_eq_false_iff_not]
  intro idle
  exact absurd (inside.symm.trans (idle obj)) (by decide)

omit [DecidableEq Fib] [Fintype Fib] [DecidableEq Name] [Fintype Name] [DecidableEq Obj] in
/-- A fiber that is inside some object is not the one that is outside all. -/
theorem ne_of_outside {fib other : Fib} {obj : Obj} (outside : state.outside fib = true)
    (inside : ((state.objects obj).fiber other).isIdle = false) : other ≠ fib := by
  rintro rfl
  exact absurd ((outside_eq_false inside).symm.trans outside) (by decide)

namespace Held

theorem initial (begun : (machine Fib Name Obj).Init state) : Held state := by
  obtain ⟨unnamed, unmade, objects, safe⟩ := begun
  refine ⟨safe, fun obj _ => objects obj, ?_, ?_, ?_⟩
  · rintro obj ⟨name, points⟩
    rw [unnamed] at points
    cases points
  · intro obj made
    rw [unmade] at made
    cases made
  · intro fib obj _ inside
    obtain ⟨memory, same⟩ := objects obj
    rw [same] at inside
    cases inside

omit [DecidableEq Fib] [Fintype Fib] [Fintype Name] [Fintype Obj] in
theorem makes {name : Name} {obj : Obj} (held : Held before) (free : before.impl name = none)
    (unmade : before.made obj = false) :
    Held { before with
      impl := before.impl.make name obj, made := Function.update before.made obj true } := by
  obtain ⟨memory, initial⟩ := held.fresh obj unmade
  have named : ∀ other, (before.impl.make name obj).Named other ↔
      other = obj ∨ before.impl.Named other := fun _ => Pointers.named_make_iff free
  refine ⟨held.safe, ?_, ?_, ?_, ?_⟩
  · intro other otherUnmade
    by_cases same : other = obj
    · subst same
      exact ⟨memory, initial⟩
    · exact held.fresh other ((Function.update_of_ne same _ _).symm.trans otherUnmade)
  · intro other isNamed
    show Function.update before.made obj true other = true
    by_cases same : other = obj
    · rw [same, Function.update_self]
    · rw [Function.update_of_ne same]
      rcases (named other).mp isNamed with new | old
      · exact absurd new same
      · exact held.made other old
  · intro other otherMade
    rw [named]
    by_cases same : other = obj
    · subst same
      exact ⟨fun _ => .inl rfl, fun _ => by rw [initial]; rfl⟩
    · rw [held.alive other ((Function.update_of_ne same _ _).symm.trans otherMade)]
      exact ⟨.inr, fun either => either.resolve_left same⟩
  · intro fib other living inside
    obtain ⟨another, through, points⟩ := held.inside fib other living inside
    refine ⟨another, through, ?_⟩
    have apart : another ≠ name := by
      rintro rfl
      rw [free] at points
      cases points
    exact (Function.update_of_ne apart _ _).trans points

omit [Fintype Fib] [DecidableEq Name] [Fintype Name] [DecidableEq Obj] in
/-- The handles that are in use keep naming the objects that fibers are in. -/
theorem inside_kept {fib mover : Fib} {obj : Obj} (held : Held before)
    (outside : before.outside mover = true)
    (kept : ∀ name, before.InUse name → after.impl name = before.impl name)
    (living : (before.objects obj).life = .alive)
    (inside : ((before.objects obj).fiber fib).isIdle = false) :
    ∃ name, Function.update before.through mover none fib = some name ∧
      after.impl name = some obj := by
  obtain ⟨name, through, points⟩ := held.inside fib obj living inside
  refine ⟨name, ?_, ?_⟩
  · rw [Function.update_of_ne (ne_of_outside outside inside), through]
  · rw [kept name ⟨fib, through, outside_eq_false inside⟩, points]

omit [Fintype Fib] [DecidableEq Name] [Fintype Name] [DecidableEq Obj] in
/-- A handle is overwritten whose object has another one. -/
theorem replaces {fib : Fib} {target : Name} (held : Held before)
    (outside : before.outside fib = true)
    (releases : before.impl.Releases after.impl target)
    (survives : ∀ obj, before.impl target = some obj → after.impl.Named obj)
    (kept : ∀ name, before.InUse name → after.impl name = before.impl name)
    (same : after = { before with
      impl := after.impl, through := Function.update before.through fib none }) :
    Held after := by
  have named : ∀ obj, after.impl.Named obj ↔ before.impl.Named obj := by
    intro obj
    refine ⟨releases.named obj, fun isNamed => ?_⟩
    exact (releases.kept obj isNamed).elim id (survives obj)
  rw [same]
  refine ⟨held.safe, held.fresh, ?_, ?_, ?_⟩
  · exact fun obj isNamed => held.made obj ((named obj).mp isNamed)
  · exact fun obj made => (held.alive obj made).trans (named obj).symm
  · exact fun other obj living inside => held.inside_kept outside kept living inside

omit [DecidableEq Name] [Fintype Name] in
/-- The last handle of an object is overwritten, and its destructor runs. -/
theorem destroys {fib : Fib} {target : Name} {obj : Obj} {status : Int}
    {destroyed : Socket.State Fib} (held : Held before)
    (stepped : (Socket.machine Fib).step (before.objects obj) (.destroy fib status) =
      some destroyed)
    (outside : before.outside fib = true) (releases : before.impl.Releases after.impl target)
    (pointed : before.impl target = some obj) (last : ¬ after.impl.Named obj)
    (kept : ∀ name, before.InUse name → after.impl name = before.impl name)
    (same : after = { before with
      impl := after.impl, through := Function.update before.through fib none,
      objects := Function.update before.objects obj destroyed }) : Held after := by
  have dead : destroyed.life ≠ .alive := Socket.destroy_life stepped
  have made : before.made obj = true := held.made obj ⟨target, pointed⟩
  rw [same]
  refine ⟨held.safe, ?_, ?_, ?_, ?_⟩
  · intro other unmade
    have apart : other ≠ obj := by
      rintro rfl
      exact absurd (unmade.symm.trans made) (by decide)
    show ∃ memory, Function.update before.objects obj destroyed other = _
    rw [Function.update_of_ne apart]
    exact held.fresh other unmade
  · exact fun other isNamed => held.made other (releases.named other isNamed)
  · intro other otherMade
    show (Function.update before.objects obj destroyed other).life = .alive ↔ _
    by_cases here : other = obj
    · subst here
      rw [Function.update_self]
      exact ⟨fun living => absurd living dead, fun isNamed => absurd isNamed last⟩
    · rw [Function.update_of_ne here, held.alive other otherMade]
      refine ⟨fun isNamed => ?_, releases.named other⟩
      rcases releases.kept other isNamed with still | points
      · exact still
      · rw [pointed] at points
        exact absurd (Option.some.inj points).symm here
  · intro another other living inside
    have apart : other ≠ obj := by
      rintro rfl
      have ended : (Function.update before.objects other destroyed other).life = .alive := living
      rw [Function.update_self] at ended
      exact dead ended
    have unchanged : Function.update before.objects obj destroyed other = before.objects other :=
      Function.update_of_ne apart _ _
    exact held.inside_kept outside kept (congrArg Socket.State.life unchanged ▸ living)
      (congrArg (fun object => (Socket.State.fiber object another).isIdle) unchanged ▸ inside)

omit [DecidableEq Fib] [Fintype Fib] [DecidableEq Name] [Fintype Name] [DecidableEq Obj] in
/-- Where the last handle of an object goes, no fiber is inside. -/
theorem idle_of_last {target : Name} {obj : Obj} (held : Held before)
    (pointed : before.impl target = some obj) (last : ¬ after.impl.Named obj)
    (kept : ∀ name, before.InUse name → after.impl name = before.impl name) :
    (before.objects obj).life = .alive ∧
      ∀ fib, ((before.objects obj).fiber fib).isIdle = true := by
  have living : (before.objects obj).life = .alive :=
    (held.alive obj (held.made obj ⟨target, pointed⟩)).mpr ⟨target, pointed⟩
  refine ⟨living, fun fib => ?_⟩
  by_contra busy
  have inside : ((before.objects obj).fiber fib).isIdle = false := by simpa using busy
  obtain ⟨name, through, points⟩ := held.inside fib obj living inside
  -- The call's own handle is in use, so it still names the object.
  have inUse : before.InUse name := ⟨fib, through, outside_eq_false inside⟩
  exact last ⟨name, (kept name inUse).trans points⟩

omit [DecidableEq Name] [Fintype Name] [Fintype Obj] in
/-- A step inside one object that is not its destructor. -/
theorem touches {obj : Obj} {entry : Socket.Action Fib} {moved : Socket.State Fib}
    {through : Fib → Option Name} (held : Held before)
    (reachable : (Socket.machine Fib).Reachable Machine.AnyStep (before.objects obj))
    (stepped : (Socket.machine Fib).step (before.objects obj) entry = some moved)
    (made : before.made obj = true) (notDestroy : entry.isDestroy = false)
    (inside : ∀ fib other, (before.objects other).life = .alive →
      ((Function.update before.objects obj moved other).fiber fib).isIdle = false →
        ∃ name, through fib = some name ∧ before.impl name = some other) :
    Held { before with
      objects := Function.update before.objects obj moved, through := through } := by
  have transition := Socket.step_transition (Socket.reachable_owned reachable) stepped
  have notDestroyed : ∀ fib status, entry ≠ .destroy fib status := by
    rintro fib status rfl
    cases notDestroy
  have life : ∀ other, (Function.update before.objects obj moved other).life = .alive ↔
      (before.objects other).life = .alive := by
    intro other
    by_cases here : other = obj
    · subst here
      rw [Function.update_self]
      constructor
      · intro living
        rcases transition.life_cases with same | dead
        · exact same.symm.trans living
        · exact absurd living dead
      · intro living
        exact transition.stays_alive (Socket.reachable_lifetime reachable) living notDestroyed
    · rw [Function.update_of_ne here]
  refine ⟨held.safe, ?_, held.made, ?_, ?_⟩
  · intro other unmade
    have apart : other ≠ obj := by
      rintro rfl
      exact absurd (unmade.symm.trans made) (by decide)
    show ∃ memory, Function.update before.objects obj moved other = _
    rw [Function.update_of_ne apart]
    exact held.fresh other unmade
  · exact fun other otherMade => (life other).trans (held.alive other otherMade)
  · exact fun fib other living busy => inside fib other ((life other).mp living) busy

omit [DecidableEq Name] [Fintype Name] in
/-- A call begins. -/
theorem calls {fib : Fib} {name : Name} {obj : Obj} {entry : Socket.Action Fib}
    {entered : Socket.State Fib} (held : Held before)
    (reachable : (Socket.machine Fib).Reachable Machine.AnyStep (before.objects obj))
    (stepped : (Socket.machine Fib).step (before.objects obj) entry = some entered)
    (pointed : before.impl name = some obj) (caller : entry.caller = some fib)
    (outside : before.outside fib = true) (notDestroy : entry.isDestroy = false) :
    Held { before with
      objects := Function.update before.objects obj entered,
      through := Function.update before.through fib (some name) } := by
  have transition := Socket.step_transition (Socket.reachable_owned reachable) stepped
  have actor : entry.actor = some fib := by
    cases entry <;> first | exact caller | cases caller
  apply held.touches reachable stepped (held.made obj ⟨name, pointed⟩) notDestroy
  intro other another living busy
  by_cases mover : other = fib
  · subst mover
    rw [Function.update_self]
    -- The caller was outside all objects, so it can only be in this one.
    have here : another = obj := by
      by_contra apart
      rw [Function.update_of_ne apart] at busy
      exact ne_of_outside outside busy rfl
    exact ⟨name, rfl, here ▸ pointed⟩
  · rw [Function.update_of_ne mover]
    have notActor : entry.actor ≠ some other := by
      rw [actor]
      exact fun same => mover (Option.some.inj same).symm
    apply held.inside other another living
    by_cases here : another = obj
    · subst here
      rw [Function.update_self] at busy
      rw [← (transition.spares notActor).idle]
      exact busy
    · rw [Function.update_of_ne here] at busy
      exact busy

omit [DecidableEq Name] [Fintype Name] [Fintype Obj] in
/-- A suspended call goes on, or a callback runs. -/
theorem moves {obj : Obj} {entry : Socket.Action Fib} {moved : Socket.State Fib}
    (held : Held before)
    (reachable : (Socket.machine Fib).Reachable Machine.AnyStep (before.objects obj))
    (stepped : (Socket.machine Fib).step (before.objects obj) entry = some moved)
    (made : before.made obj = true) (begun : entry.caller = none) :
    Held { before with objects := Function.update before.objects obj moved } := by
  have transition := Socket.step_transition (Socket.reachable_owned reachable) stepped
  have notDestroy : entry.isDestroy = false := by
    cases entry <;> first | rfl | cases begun
  apply held.touches reachable stepped made notDestroy
  intro fib other living busy
  apply held.inside fib other living
  by_cases here : other = obj
  · subst here
    rw [Function.update_self] at busy
    by_cases actor : entry.actor = some fib
    · -- Only a fiber that was inside goes on.
      cases entry with
      | resume mover status =>
          cases actor
          exact Socket.inside_of_resume stepped
      | connect _ _ | read _ _ _ | write _ _ _ | close _ _ | destroy _ _ => cases begun
      | complete _ _ | readCallback _ _ | onHandleClosed => cases actor
    · rw [← (transition.spares actor).idle]
      exact busy
  · rw [Function.update_of_ne here] at busy
    exact busy

omit [Fintype Name] in
theorem step (held : Held before)
    (reachable : ∀ obj, (Socket.machine Fib).Reachable Machine.AnyStep (before.objects obj))
    (kept : ∀ name, before.InUse name → after.impl name = before.impl name)
    (step : Step before after) : Held after := by
  cases step with
  | makes free unmade same =>
      rw [same]
      exact held.makes free unmade
  | replaces outside releases survives same =>
      exact held.replaces outside releases survives kept same
  | destroys stepped outside releases pointed last same =>
      exact held.destroys stepped outside releases pointed last kept same
  | crashes refused pointed last same =>
      obtain ⟨living, idle⟩ := held.idle_of_last pointed last kept
      rw [Socket.destroy_enabled living idle] at refused
      cases refused
  | calls stepped pointed caller outside notDestroy same =>
      rw [same]
      exact held.calls (reachable _) stepped pointed caller outside notDestroy
  | moves stepped made begun same =>
      rw [same]
      exact held.moves (reachable _) stepped made begun

end Held

theorem reachable_held (reachable : (machine Fib Name Obj).Reachable State.Keeps state) :
    Held state := by
  apply reachable.invariant_under (fun _ reached => object_reachable reached)
  · intro state begun
    exact .initial begun
  · intro before action after objects held keeps stepped
    obtain ⟨step, impl⟩ := step_inversion stepped
    apply held.step objects _ step
    intro name inUse
    rw [impl]
    exact keeps name inUse

/-- As long as no handle is changed while a call through it is in progress, a
socket lives exactly as long as it has a handle, and no destructor ever runs
while a fiber is inside: whoever is inside a living socket came through a handle
that still names it. -/
theorem socket_lives_as_long_as_its_handles
    (reachable : (machine Fib Name Obj).Reachable State.Keeps state) :
    state.fault = false ∧
      (∀ obj, state.made obj = true →
        ((state.objects obj).life = .alive ↔ ∃ name, state.impl name = some obj)) ∧
      ∀ fib obj, ((state.objects obj).fiber fib).isIdle = false →
        (∃ name, state.through fib = some name ∧ state.impl name = some obj) ∨
          ((state.objects obj).fiber fib).InDestructor := by
  have held := reachable_held reachable
  refine ⟨held.safe, held.alive, fun fib obj inside => ?_⟩
  by_cases living : (state.objects obj).life = .alive
  · exact .inl (held.inside fib obj living inside)
  · have lifetime := Socket.reachable_lifetime (object_reachable reachable obj)
    rcases lifetime.alone living fib with idle | destructor
    · exact absurd (inside.symm.trans idle) (by decide)
    · exact .inr destructor

/-- A handle is copied and a fiber reads through the copy. A new socket is then
moved into the first handle, which is dropped. -/
theorem reader_keeps_copied_socket_alive :
    ∃ state : State (Fin 2) (Fin 3) (Fin 2),
      (machine (Fin 2) (Fin 3) (Fin 2)).Reachable State.Keeps state ∧
      state.impl 0 = none ∧ ((state.objects 0).fiber 1).isIdle = false ∧
      (state.objects 0).life = .alive ∧ (state.objects 1).life ≠ .alive := by
  have first : (machine (Fin 2) (Fin 3) (Fin 2)).Reachable State.Keeps
      ⟨fun _ => none, fun _ => false, fun _ => none, fun _ => Socket.initial fun _ => 0, false⟩ :=
    .start ⟨fun _ => rfl, fun _ => rfl, fun _ => ⟨_, rfl⟩, rfl⟩
  have reachable := first.exec (by decide +kernel)
    (rfl : (machine (Fin 2) (Fin 3) (Fin 2)).exec
      ⟨fun _ => none, fun _ => false, fun _ => none, fun _ => Socket.initial fun _ => 0, false⟩
      [.make 0 0, .copy 0 0 1 0, .call 1 (.read 1 (.readExactly 100 8) 0), .make 2 1,
        .move 0 2 0 0, .drop 0 0 uvEnotconn] = some _)
  obtain ⟨_, lives, _⟩ := socket_lives_as_long_as_its_handles reachable
  refine ⟨_, reachable, rfl, rfl, (lives 0 rfl).mpr ⟨1, rfl⟩, ?_⟩
  rw [ne_eq, lives 1 rfl]
  rintro ⟨name, points⟩
  revert points
  revert name
  decide

end Fiberio.Handle
