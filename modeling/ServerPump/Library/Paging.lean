/-
**Pages of a list.**

A list is cut into pages of a fixed size, the last one perhaps shorter.

* `lt_pageCount_iff`, `pageAt_ne_nil`: the pages before the page count are the ones that are not
  empty.
* `flatMap_pageAt`: the pages, one after the other, are the list.
* `pageAt_append_drop`, `pageAt_last`: a page and what is behind it, for going on from any page.
-/

import Mathlib.Data.List.Basic

namespace Paging

variable {α : Type*} {size : ℕ}

/-- The number of pages: the length over the size, rounded up. -/
def pageCount (size : ℕ) (items : List α) : ℕ := (items.length + size - 1) / size

/-- A page; the first one has index 0. -/
def pageAt (size index : ℕ) (items : List α) : List α := (items.drop (index * size)).take size

theorem lt_pageCount_iff (positive : 0 < size) {index : ℕ} {items : List α} :
    index < pageCount size items ↔ index * size < items.length := by
  unfold pageCount
  rw [Nat.lt_iff_add_one_le, Nat.le_div_iff_mul_le positive, Nat.succ_mul]
  omega

theorem pageCount_nil (positive : 0 < size) : pageCount size ([] : List α) = 0 :=
  Nat.div_eq_of_lt (by rw [List.length_nil]; omega)

/-- **A page before the page count is not empty.** -/
theorem pageAt_ne_nil (positive : 0 < size) {index : ℕ} {items : List α}
    (inside : index < pageCount size items) : pageAt size index items ≠ [] := by
  have starts := (lt_pageCount_iff positive).mp inside
  unfold pageAt
  rw [Ne, List.take_eq_nil_iff, List.drop_eq_nil_iff]
  omega

theorem pageCount_pos (positive : 0 < size) {items : List α} (nonempty : items ≠ []) :
    0 < pageCount size items := by
  rw [lt_pageCount_iff positive, Nat.zero_mul]
  exact List.length_pos_iff.mpr nonempty

theorem flatMap_range_pageAt (count : ℕ) (items : List α) :
    (List.range count).flatMap (fun index => pageAt size index items) = items.take (count * size) := by
  induction count with
  | zero => simp
  | succ count ih =>
    rw [List.range_succ, List.flatMap_append, ih, List.flatMap_singleton, Nat.succ_mul, List.take_add]
    rfl

/-- **The pages, one after the other, are the list.** -/
theorem flatMap_pageAt (positive : 0 < size) (items : List α) :
    (List.range (pageCount size items)).flatMap (fun index => pageAt size index items) = items := by
  have all : items.length ≤ pageCount size items * size := by
    by_contra more
    exact absurd ((lt_pageCount_iff positive).mpr (Nat.lt_of_not_le more)) (Nat.lt_irrefl _)
  rw [flatMap_range_pageAt, List.take_of_length_le all]

/-- **A page, and what is behind it.** -/
theorem pageAt_append_drop (size index : ℕ) (items : List α) :
    pageAt size index items ++ items.drop ((index + 1) * size) = items.drop (index * size) := by
  unfold pageAt
  rw [Nat.succ_mul, ← List.drop_drop, List.take_append_drop]

/-- Nothing is behind the last page. -/
theorem pageAt_last (positive : 0 < size) {index : ℕ} {items : List α}
    (last : index + 1 = pageCount size items) : pageAt size index items = items.drop (index * size) := by
  have outside : ¬ index + 1 < pageCount size items := by omega
  rw [lt_pageCount_iff positive] at outside
  rw [← pageAt_append_drop, List.drop_eq_nil_iff.mpr (Nat.le_of_not_lt outside), List.append_nil]

end Paging
