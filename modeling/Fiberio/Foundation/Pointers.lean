import Mathlib.Data.Fintype.Basic

/-!
Owns shared pointers: names that point to objects, and what copying, moving and
dropping a pointer does to the objects that some name still points to. At most
one object loses its last pointer in one of these operations, the one that the
overwritten name pointed to.

Does not own what happens to an object that has lost its last pointer.
-/

namespace Fiberio.Foundation

universe u v

/-- What each name points to. A name that is not in use, or that was moved
from, points nowhere. -/
abbrev Pointers (Name : Type u) (Object : Type v) := Name → Option Object

namespace Pointers

variable {Name : Type u} {Object : Type v} {pointers later : Pointers Name Object}

/-- Some name points to the object. -/
def Named (pointers : Pointers Name Object) (object : Object) : Prop :=
  ∃ name, pointers name = some object

instance [Fintype Name] [DecidableEq Object] (object : Object) :
    Decidable (pointers.Named object) :=
  inferInstanceAs (Decidable (∃ name, pointers name = some object))

/-! ## Operations -/

variable [DecidableEq Name]

def make (pointers : Pointers Name Object) (name : Name) (object : Object) :
    Pointers Name Object :=
  Function.update pointers name (some object)

def copy (pointers : Pointers Name Object) (source target : Name) : Pointers Name Object :=
  Function.update pointers target (pointers source)

/-- A pointer that is moved to itself keeps its object. -/
def move (pointers : Pointers Name Object) (source target : Name) : Pointers Name Object :=
  Function.update (Function.update pointers source none) target (pointers source)

def drop (pointers : Pointers Name Object) (name : Name) : Pointers Name Object :=
  Function.update pointers name none

theorem named_make_iff {name : Name} {object other : Object} (free : pointers name = none) :
    (pointers.make name object).Named other ↔ other = object ∨ pointers.Named other := by
  constructor
  · rintro ⟨another, points⟩
    by_cases same : another = name
    · subst same
      rw [make, Function.update_self] at points
      exact .inl (Option.some.inj points).symm
    · rw [make, Function.update_of_ne same] at points
      exact .inr ⟨another, points⟩
  · rintro (rfl | ⟨another, points⟩)
    · exact ⟨name, Function.update_self _ _ _⟩
    · refine ⟨another, ?_⟩
      rw [make, Function.update_of_ne, points]
      rintro rfl
      rw [free] at points
      cases points

/-! ## Objects that lose their last pointer -/

/-- No object gains its first pointer, and only the object of `target` can lose
its last one. -/
structure Releases (pointers later : Pointers Name Object) (target : Name) : Prop where
  named : ∀ object, later.Named object → pointers.Named object
  kept : ∀ object, pointers.Named object → later.Named object ∨ pointers target = some object

/-- One name is overwritten, with a pointer to an object that had one. -/
theorem update_releases {target : Name} {value : Option Object}
    (known : ∀ object, value = some object → pointers.Named object) :
    pointers.Releases (Function.update pointers target value) target := by
  constructor
  · rintro object ⟨name, points⟩
    by_cases same : name = target
    · subst same
      rw [Function.update_self] at points
      exact known object points
    · rw [Function.update_of_ne same] at points
      exact ⟨name, points⟩
  · rintro object ⟨name, points⟩
    by_cases same : name = target
    · subst same
      exact .inr points
    · refine .inl ⟨name, ?_⟩
      rw [Function.update_of_ne same, points]

theorem drop_releases (pointers : Pointers Name Object) (target : Name) :
    pointers.Releases (pointers.drop target) target := by
  apply update_releases
  intro object none
  cases none

theorem copy_releases (pointers : Pointers Name Object) (source target : Name) :
    pointers.Releases (pointers.copy source target) target := by
  apply update_releases
  intro object points
  exact ⟨source, points⟩

theorem move_releases (pointers : Pointers Name Object) (source target : Name) :
    pointers.Releases (pointers.move source target) target := by
  constructor
  · rintro object ⟨name, points⟩
    by_cases same : name = target
    · subst same
      rw [move, Function.update_self] at points
      exact ⟨source, points⟩
    · rw [move, Function.update_of_ne same] at points
      exact (pointers.drop_releases source).named object ⟨name, points⟩
  · rintro object ⟨name, points⟩
    by_cases isSource : name = source
    · -- What the source pointed to is now the target's.
      subst isSource
      exact .inl ⟨target, (Function.update_self _ _ _).trans points⟩
    · by_cases same : name = target
      · subst same
        exact .inr points
      · refine .inl ⟨name, ?_⟩
        rw [move, Function.update_of_ne same, Function.update_of_ne isSource, points]

end Pointers

end Fiberio.Foundation
