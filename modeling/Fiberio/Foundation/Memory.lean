import Mathlib.Data.List.Basic

/-!
Owns a flat byte memory: loading a block, storing a block, and how the two
interact when the blocks are the same or do not overlap.

Does not own addresses of any program.
-/

namespace Fiberio.Foundation

universe u

/-- A memory cell for every address. -/
def Memory (Byte : Type u) := Nat → Byte

namespace Memory

variable {Byte : Type u}

/-- The `count` cells from `base` on. -/
def load (memory : Memory Byte) (base count : Nat) : List Byte :=
  (List.range count).map fun index => memory (base + index)

/-- Overwrite the cells from `base` on with `bytes`. -/
def store (memory : Memory Byte) (base : Nat) (bytes : List Byte) : Memory Byte :=
  fun address => if base ≤ address then bytes.getD (address - base) (memory address)
    else memory address

@[simp] theorem load_length (memory : Memory Byte) (base count : Nat) :
    (memory.load base count).length = count := by
  simp [load]

@[simp] theorem load_zero (memory : Memory Byte) (base : Nat) : memory.load base 0 = [] := rfl

@[simp] theorem store_nil (memory : Memory Byte) (base : Nat) : memory.store base [] = memory := by
  funext address
  simp [store]

/-- Two adjacent blocks load as one. -/
theorem load_add (memory : Memory Byte) (base first second : Nat) :
    memory.load base (first + second) =
      memory.load base first ++ memory.load (base + first) second := by
  have shifted : ∀ index, memory (base + (first + index)) = memory (base + first + index) :=
    fun index => by rw [Nat.add_assoc]
  simp [load, List.range_add, shifted, Function.comp_def]

/-- A stored block reads back. -/
theorem load_store_same (memory : Memory Byte) (base : Nat) (bytes : List Byte) :
    (memory.store base bytes).load base bytes.length = bytes := by
  apply List.ext_getElem (by simp)
  intro index below inside
  simp [load, store, inside]

/-- A block that ends where the stored one starts is unchanged. -/
theorem load_store_below (memory : Memory Byte) {base count target : Nat} (bytes : List Byte)
    (below : base + count ≤ target) :
    (memory.store target bytes).load base count = memory.load base count := by
  unfold load
  apply List.map_congr_left
  intro index member
  have inside : index < count := List.mem_range.mp member
  simp only [store]
  rw [if_neg (by omega)]

end Memory

end Fiberio.Foundation
