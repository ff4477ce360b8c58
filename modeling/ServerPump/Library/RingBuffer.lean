/-
**Ring buffers.**

A ring has a fixed number of cells, the index of the cell that is written next, and the number of cells
in use. A push into a full ring overwrites its oldest entry.

* `Holds`: the ring behind a list of pushes. The value with number `k` is in cell `k % capacity`, as
  long as it is not overwritten.
* `holds_push`: one more push.
* `oldestFirst_of_holds`: read from the oldest entry to the newest, the ring has the last values that
  were pushed.
-/

import Mathlib.Data.List.DropRight
import Mathlib.Data.Nat.ModEq

namespace RingBuffer

variable {α : Type*}

structure RingState (α : Type*) where
  items : List α
  count : ℕ
  index : ℕ

/-- The next cell is written, and counted until all are in use. -/
def RingState.push (capacity : ℕ) (value : α) (ring : RingState α) : RingState α where
  items := ring.items.set ring.index value
  count := if ring.count < capacity then ring.count + 1 else ring.count
  index := (ring.index + 1) % capacity

/-- The entries in use, from the oldest to the newest. -/
def RingState.oldestFirst (capacity : ℕ) (ring : RingState α) : List α :=
  (List.range ring.count).filterMap fun age =>
    ring.items[(ring.index + (capacity - ring.count + age)) % capacity]?

/-- **The ring behind these pushes.** -/
structure Holds (capacity : ℕ) (values : List α) (ring : RingState α) : Prop where
  size : ring.items.length = capacity
  count : ring.count = min values.length capacity
  index : ring.index = values.length % capacity
  cells : ∀ k < values.length, values.length ≤ k + capacity → ring.items[k % capacity]? = values[k]?

section Capacity

variable {capacity : ℕ}

/-- Nothing was pushed into a ring without an entry. -/
theorem holds_nil {items : List α} (size : items.length = capacity) :
    Holds capacity [] ⟨items, 0, 0⟩ where
  size := size
  count := (Nat.zero_min capacity).symm
  index := (Nat.zero_mod capacity).symm
  cells := fun _ inside => absurd inside (Nat.not_lt_zero _)

/-- Within one turn of the ring no two numbers share a cell. -/
theorem mod_ne_of_lt {k n : ℕ} (before : k < n) (turn : n < k + capacity) :
    k % capacity ≠ n % capacity := by
  intro same
  have divides : capacity ∣ n - k := (Nat.modEq_iff_dvd' before.le).mp same
  have large := Nat.le_of_dvd (Nat.sub_pos_of_lt before) divides
  omega

/-- **One more push.** -/
theorem holds_push (positive : 0 < capacity) {values : List α} {ring : RingState α}
    (holds : Holds capacity values ring) (value : α) :
    Holds capacity (values ++ [value]) (ring.push capacity value) where
  size := by
    rw [RingState.push, List.length_set]
    exact holds.size
  count := by
    rw [RingState.push, holds.count, List.length_append, List.length_singleton]
    dsimp only
    split <;> omega
  index := by
    rw [RingState.push, holds.index, List.length_append, List.length_singleton]
    exact Nat.mod_add_mod _ _ _
  cells := by
    intro k inside turn
    rw [List.length_append, List.length_singleton] at inside turn
    show (ring.items.set ring.index value)[k % capacity]? = _
    rw [holds.index]
    rcases Nat.lt_succ_iff_lt_or_eq.mp inside with older | rfl
    · have apart := mod_ne_of_lt older turn
      rw [List.getElem?_set_ne apart.symm, holds.cells k older (by omega),
        List.getElem?_append_left older]
    · have room : values.length % capacity < ring.items.length := by
        rw [holds.size]
        exact Nat.mod_lt _ positive
      rw [List.getElem?_set_self room, List.getElem?_concat_length]

/-- Reading a list cell by cell. -/
theorem filterMap_range_getElem? (values : List α) :
    ((List.range values.length).filterMap fun i => values[i]?) = values := by
  induction values with
  | nil => rfl
  | cons value rest ih =>
    rw [List.length_cons, List.range_succ_eq_map, List.filterMap_cons, List.filterMap_map]
    exact congrArg (value :: ·) ih

/-- **Read from the oldest entry to the newest, the ring has the last values.** -/
theorem oldestFirst_of_holds {values : List α} {ring : RingState α}
    (holds : Holds capacity values ring) :
    ring.oldestFirst capacity = values.rtake (min values.length capacity) := by
  have used : ring.count = (values.drop (values.length - ring.count)).length := by
    rw [List.length_drop, holds.count]
    omega
  have read : ∀ age ∈ List.range ring.count,
      ring.items[(ring.index + (capacity - ring.count + age)) % capacity]? =
        (values.drop (values.length - ring.count))[age]? := by
    intro age inRange
    have inside := List.mem_range.mp inRange
    have count := holds.count
    -- a whole turn before the next cell to write
    have cell : (ring.index + (capacity - ring.count + age)) % capacity =
        (values.length - ring.count + age) % capacity := by
      rw [holds.index, Nat.mod_add_mod, ← Nat.add_mod_right (values.length - ring.count + age)]
      congr 1
      omega
    rw [cell, holds.cells _ (by omega) (by omega), List.getElem?_drop]
  have newest := filterMap_range_getElem? (values.drop (values.length - ring.count))
  rw [← used] at newest
  unfold RingState.oldestFirst
  rw [List.filterMap_congr read, ← holds.count]
  exact newest

end Capacity

end RingBuffer
