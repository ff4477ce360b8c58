/-
**The order of the history table.**

`Array.prototype.sort` promises a sorted, stable result only for a comparator that is consistent on the
elements. The one of `applyLocalFilters` is never 0: of two records with the same value in the column
each comes before the other. Ties are the normal case in all columns but the time.

* `compareBy_neg_iff`, `compareBy_pos_iff`: what the comparator says.
* `consistentAcross_iff`: it is consistent on the entries of a list at different positions exactly if
  no two of them have the same value.
* `sortsByColumn_iff`: it is what `sort` asks for, also for a record and itself, on the empty list alone.
-/

import Mathlib.Data.List.NodupEquivFin
import ServerPump.Proof.HistoryPage

namespace ServerPump

/-! ### Comparators -/

/-- A comparator that is consistent on the elements of a list. -/
structure ConsistentOn (compare : HistoryRecord → HistoryRecord → ℤ) (data : List HistoryRecord) :
    Prop where
  self : ∀ a ∈ data, compare a a = 0
  antisymm : ∀ a ∈ data, ∀ b ∈ data, (compare a b < 0 ↔ 0 < compare b a)
  transLess : ∀ a ∈ data, ∀ b ∈ data, ∀ c ∈ data, compare a b < 0 → compare b c < 0 → compare a c < 0
  transEqual : ∀ a ∈ data, ∀ b ∈ data, ∀ c ∈ data, compare a b = 0 → compare b c = 0 → compare a c = 0

/-- **What `sort` promises**: the elements in some order, and the sorted one that keeps equal elements in
place, if the comparator is consistent on them. -/
structure SortContract
    (sort : (HistoryRecord → HistoryRecord → ℤ) → List HistoryRecord → List HistoryRecord) : Prop where
  permutes : ∀ compare data, (sort compare data).Perm data
  sorts : ∀ compare data, ConsistentOn compare data →
    sort compare data = data.mergeSort fun a b => compare a b ≤ 0

/-- A value may stand in front of another one. -/
def SortDirection.inOrder (first second : ℤ) : SortDirection → Prop
  | .asc => first ≤ second
  | .desc => second ≤ first

instance (first second : ℤ) : (direction : SortDirection) → Decidable (direction.inOrder first second)
  | .asc => inferInstanceAs (Decidable (first ≤ second))
  | .desc => inferInstanceAs (Decidable (second ≤ first))

/-- The order the table is for: sorted by the column, equal values as they were loaded. -/
def columnOrder (column : SortColumn) (direction : SortDirection) (data : List HistoryRecord) :
    List HistoryRecord :=
  data.mergeSort fun a b => direction.inOrder (column.valueOf a) (column.valueOf b)

/-- **The law**: the comparator is consistent and finds equal values equal, and the table is in
order. -/
structure SortsByColumn (browser : Browser) (column : SortColumn) (direction : SortDirection)
    (data : List HistoryRecord) : Prop where
  consistent : ConsistentOn (compareBy column direction) data
  ties : ∀ a ∈ data, ∀ b ∈ data, column.valueOf a = column.valueOf b →
    compareBy column direction a b = 0
  displayed : browser.sort (compareBy column direction) data = columnOrder column direction data

/-- The law for the comparator, of entries at different positions only. -/
structure ConsistentAcross (column : SortColumn) (direction : SortDirection)
    (data : List HistoryRecord) : Prop where
  antisymm : ∀ i j : Fin data.length, i ≠ j →
    (compareBy column direction (data.get i) (data.get j) < 0 ↔
      0 < compareBy column direction (data.get j) (data.get i))
  ties : ∀ i j : Fin data.length, i ≠ j →
    column.valueOf (data.get i) = column.valueOf (data.get j) →
      compareBy column direction (data.get i) (data.get j) = 0
  trans : ∀ i j k : Fin data.length, i ≠ j → j ≠ k → i ≠ k →
    compareBy column direction (data.get i) (data.get j) < 0 →
      compareBy column direction (data.get j) (data.get k) < 0 →
        compareBy column direction (data.get i) (data.get k) < 0

/-! ### What the comparator says -/

section Compare

variable {column : SortColumn} {direction : SortDirection}

theorem compareBy_neg_iff (a b : HistoryRecord) :
    compareBy column direction a b < 0 ↔
      direction.inOrder (column.valueOf a) (column.valueOf b) := by
  cases direction with
  | asc =>
    show (if _ then (1 : ℤ) else -1) < 0 ↔ column.valueOf a ≤ column.valueOf b
    by_cases later : column.valueOf a > column.valueOf b
    · rw [if_pos later]
      exact iff_of_false (by decide) (not_le.mpr later)
    · rw [if_neg later]
      exact iff_of_true (by decide) (not_lt.mp later)
  | desc =>
    show (if _ then (1 : ℤ) else -1) < 0 ↔ column.valueOf b ≤ column.valueOf a
    by_cases later : column.valueOf a < column.valueOf b
    · rw [if_pos later]
      exact iff_of_false (by decide) (not_le.mpr later)
    · rw [if_neg later]
      exact iff_of_true (by decide) (not_lt.mp later)

/-- **The comparator is never 0.** -/
theorem compareBy_ne_zero (a b : HistoryRecord) : compareBy column direction a b ≠ 0 := by
  unfold compareBy
  split <;> split <;> decide

theorem compareBy_pos_iff (a b : HistoryRecord) :
    0 < compareBy column direction a b ↔
      ¬ direction.inOrder (column.valueOf a) (column.valueOf b) := by
  rw [← compareBy_neg_iff, not_lt]
  exact ⟨le_of_lt, fun notNeg => lt_of_le_of_ne notNeg (compareBy_ne_zero a b).symm⟩

theorem inOrder_trans {first second third : ℤ} (before : direction.inOrder first second)
    (behind : direction.inOrder second third) : direction.inOrder first third := by
  cases direction with
  | asc => exact le_trans before behind
  | desc => exact le_trans behind before

/-- Of two different values one stands in front. -/
theorem inOrder_iff_of_ne {first second : ℤ} (differ : first ≠ second) :
    direction.inOrder first second ↔ ¬ direction.inOrder second first := by
  cases direction with
  | asc =>
    exact ⟨fun before => not_le.mpr (lt_of_le_of_ne before differ),
      fun behind => (not_le.mp behind).le⟩
  | desc =>
    exact ⟨fun before => not_le.mpr (lt_of_le_of_ne before differ.symm),
      fun behind => (not_le.mp behind).le⟩

theorem nodup_values_iff (data : List HistoryRecord) :
    (data.map column.valueOf).Nodup ↔ ∀ i j : Fin data.length, i ≠ j →
      column.valueOf (data.get i) ≠ column.valueOf (data.get j) := by
  unfold List.Nodup
  rw [List.pairwise_map, List.pairwise_iff_get]
  constructor
  · intro differ i j apart
    rcases lt_or_gt_of_ne apart with before | behind
    · exact differ i j before
    · exact (differ j i behind).symm
  · exact fun differ i j before => differ i j before.ne

/-- **The comparator is consistent on the entries of a list exactly if their values differ.** -/
theorem consistentAcross_iff (data : List HistoryRecord) :
    ConsistentAcross column direction data ↔ (data.map column.valueOf).Nodup := by
  rw [nodup_values_iff]
  constructor
  · intro consistent i j apart same
    exact compareBy_ne_zero _ _ (consistent.ties i j apart same)
  · intro differ
    refine ⟨fun i j apart => ?_, fun i j apart same => absurd same (differ i j apart), ?_⟩
    · rw [compareBy_neg_iff, compareBy_pos_iff]
      exact inOrder_iff_of_ne (differ i j apart)
    · intro i j k _ _ _ before behind
      rw [compareBy_neg_iff] at before behind ⊢
      exact inOrder_trans before behind

/-- **On a list with a record the comparator is not what `sort` asks for.** -/
theorem sortsByColumn_iff_nil {browser : Browser} (contract : SortContract browser.sort)
    (data : List HistoryRecord) : SortsByColumn browser column direction data ↔ data = [] := by
  constructor
  · intro sorts
    refine List.eq_nil_iff_forall_not_mem.mpr fun record member => ?_
    exact compareBy_ne_zero record record (sorts.consistent.self record member)
  · rintro rfl
    have nothing : browser.sort (compareBy column direction) [] = [] :=
      (contract.permutes _ []).eq_nil
    refine ⟨⟨nofun, nofun, nofun, nofun⟩, nofun, nothing.trans ?_⟩
    exact (List.mergeSort_perm [] _).eq_nil.symm

end Compare

/-- **The comparator is what `sort` asks for on the empty list alone.** Of entries at different positions
it is consistent exactly if no two have the same value in the column. -/
theorem sortsByColumn_iff (browser : Browser) (contract : SortContract browser.sort)
    (column : SortColumn) (direction : SortDirection) (data : List HistoryRecord) :
    (SortsByColumn browser column direction data ↔ data = []) ∧
      (ConsistentAcross column direction data ↔ (data.map column.valueOf).Nodup) :=
  ⟨sortsByColumn_iff_nil contract data, consistentAcross_iff data⟩

theorem sampleBrowser_contract : SortContract sampleBrowser.sort where
  permutes _ data := List.mergeSort_perm data _
  sorts _ _ _ := rfl

/-- Two snapshots of a running pump. -/
def tiedRecords : List HistoryRecord :=
  [⟨1700000060, 1, 1, 0, 2, 0, 1⟩, ⟨1700000000, 1, 1, 0, 2, 0, 0⟩]

theorem sortsByColumn_tiedRecords :
    SortContract sampleBrowser.sort ∧
      (SortsByColumn sampleBrowser .timestamp .desc tiedRecords ↔ tiedRecords = []) ∧
        (ConsistentAcross .timestamp .desc tiedRecords ↔
          (tiedRecords.map SortColumn.timestamp.valueOf).Nodup) :=
  ⟨sampleBrowser_contract,
    sortsByColumn_iff sampleBrowser sampleBrowser_contract .timestamp .desc tiedRecords⟩

/-- Each of them comes before the other. -/
theorem ties_inconsistent :
    ¬ ∀ (column : SortColumn) (direction : SortDirection) (data : List HistoryRecord),
      ConsistentAcross column direction data := by
  intro consistent
  have tied := (consistent .pump1 .desc tiedRecords).ties ⟨0, by decide⟩ ⟨1, by decide⟩
    (by decide) (by decide)
  exact compareBy_ne_zero _ _ tied

end ServerPump
