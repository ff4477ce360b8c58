/-
**Cleaning up: from 24856 days on, too much.**

`db_cleanup_old_records(days)` is to keep the last `days` days. The seconds of more than 24855 days do
not fit an `int`: the product wraps, the cutoff is later than it should be, or even in the future.

* `toInt_cleanupCutoff`: the cutoff, in exact integers.
* `cutoff_le_of_harmless`: where nothing is lost, the cutoff is not behind a second of the last days.
* `cleanupHarmless_iff_cutoff`: no query for the last `days` days loses a row exactly if the cutoff is
  not behind the positive part of them.
* `cleanupHarmless_iff`: the same, as a condition on the time and the number of days.
-/

import ServerPump.Proof.DateBounds

namespace ServerPump

/-- **The law**: a query that starts within the last `days` days is answered as before the cleanup, for
every content of the table. -/
def CleanupHarmless (now : Int64) (days : Int32) : Prop :=
  ∀ (sqlite : Sqlite) (prepared executed : Bool) (db : Option (List SnapshotRow)) (maxSize : ℕ)
    (limit : Int32) (dateFrom dateTo : Int64),
    0 < dateFrom → now.toInt - 86400 * days.toInt ≤ dateFrom.toInt →
      dbGetHistoryFiltered sqlite prepared (dbCleanupOldRecords executed now days db).2 maxSize limit
          dateFrom dateTo =
        dbGetHistoryFiltered sqlite prepared db maxSize limit dateFrom dateTo

/-- The seconds of the days, wrapped at 32 bits. -/
def wrappedSeconds (days : Int32) : ℤ := (86400 * days.toInt).bmod (2 ^ 32)

/-- **The days fit, or there is nothing to lose**: up to 24855 days the seconds do not wrap, and
otherwise the wrapped seconds reach back to the first second of 1970. The subtraction stays within 64
bits, or wraps to a time before 1970. -/
def DaysFit (now : Int64) (days : Int32) : Prop :=
  -2 ^ 63 ≤ now.toInt - wrappedSeconds days ∧
    (days.toInt ≤ 24855 ∨ now.toInt - wrappedSeconds days ≤ 1 ∨
      2 ^ 63 ≤ now.toInt - wrappedSeconds days)

/-! ### The cutoff -/

theorem toInt_cleanupCutoff (now : Int64) (days : Int32) :
    (cleanupCutoff now days).toInt = (now.toInt - wrappedSeconds days).bmod (2 ^ 64) := by
  unfold cleanupCutoff wrappedSeconds
  rw [Int64.toInt_sub, Int32.toInt_toInt64, Int32.toInt_mul, Int.mul_comm 86400]
  rfl

/-- **The cutoff is not too late exactly if the days fit.** -/
theorem cutoff_le_iff (now : Int64) {days : Int32} (nonneg : 0 ≤ days) :
    (cleanupCutoff now days).toInt ≤ max 1 (now.toInt - 86400 * days.toInt) ↔ DaysFit now days := by
  have low : 0 ≤ days.toInt := Int32.le_iff_toInt_le.mp nonneg
  have high := days.toInt_lt
  have nowLow := now.le_toInt
  have nowHigh := now.toInt_lt
  rw [toInt_cleanupCutoff]
  unfold DaysFit wrappedSeconds
  rw [Int.bmod_def, Int.bmod_def]
  omega

/-! ### The rows a query keeps -/

/-- A query from the cutoff on does not see the deleted rows. -/
theorem filter_inBounds_cleanup {cutoff dateFrom : Int64} (dateTo : Int64) (positive : 0 < dateFrom)
    (notBefore : cutoff ≤ dateFrom) (table : List SnapshotRow) :
    ((table.filter fun row => ¬ row.timestamp < cutoff).filter fun row => InBounds dateFrom dateTo row) =
      table.filter fun row => InBounds dateFrom dateTo row := by
  rw [List.filter_filter]
  apply List.filter_congr
  intro row _
  rw [Bool.and_eq_left_iff_imp]
  intro inBounds
  rcases (of_decide_eq_true inBounds).1 with isZero | late
  · exact absurd positive (Int64.not_lt.mpr isZero)
  · exact decide_eq_true (Int64.not_lt.mpr (Int64.le_trans notBefore late))

/-- **What is left of a query for one record**: none exactly if no row is in its bounds. -/
theorem exists_count (sqlite : Sqlite) (table : List SnapshotRow) (dateFrom dateTo : Int64) :
    ∃ count data,
      readHistory (dbGetHistoryFiltered sqlite true (some table) responseSize 1 dateFrom dateTo).2 =
          .json (.records count data) ∧
        (count = 0 ↔ ∀ row ∈ table, ¬ InBounds dateFrom dateTo row) := by
  obtain ⟨kept, loop⟩ := exists_kept
    (sqlite.rows (historySelect dateFrom dateTo) (historyBindings 1 dateFrom dateTo) table)
  refine ⟨kept.length, kept.map SnapshotRow.record, ?_, ?_⟩
  · rw [dbGetHistoryFiltered_eq sqlite table 1 dateFrom dateTo loop]
    exact readHistory_historyAnswer kept
  · have some_iff : kept = [] ↔
        sqlite.rows (historySelect dateFrom dateTo) (historyBindings 1 dateFrom dateTo) table = [] := by
      constructor
      · intro nothing
        by_contra nonempty
        exact loop.ne_nil nonempty nothing
      · intro nothing
        exact List.prefix_nil.mp (nothing ▸ loop.isPrefix)
    rw [List.length_eq_zero_iff, some_iff, rows_eq, limited_eq_take 1 (by decide),
      List.take_eq_nil_iff, ← List.length_eq_zero_iff, (sqlite.perm _).length_eq,
      List.length_eq_zero_iff, List.filter_eq_nil_iff]
    simp

/-! ### The law -/

/-- **Where the law holds, no second of the last days is before the cutoff**: a row of that second would
be deleted, and a query from there on would lose it. -/
theorem cutoff_le_of_harmless {now : Int64} {days : Int32} (harmless : CleanupHarmless now days)
    {time : ℤ} (positive : 1 ≤ time) (recent : now.toInt - 86400 * days.toInt ≤ time)
    (high : time < 2 ^ 63) : (cleanupCutoff now days).toInt ≤ time := by
  by_contra late
  let row := SnapshotRow.ofTime time
  have stamped : row.timestamp.toInt = time := toInt_ofTime (by omega) high
  have deleted : (dbCleanupOldRecords true now days (some [row])).2 = some [] := by
    have before : row.timestamp < cleanupCutoff now days :=
      Int64.lt_iff_toInt_lt.mpr (stamped ▸ not_le.mp late)
    simp [dbCleanupOldRecords, before]
  have inBounds : InBounds row.timestamp 0 row := ⟨.inr (Int64.le_refl _), .inl (Int64.le_refl _)⟩
  have same := harmless .stable true true (some [row]) responseSize 1 row.timestamp 0
    (Int64.lt_iff_toInt_lt.mpr (stamped ▸ positive)) (stamped ▸ recent)
  rw [deleted] at same
  obtain ⟨count, data, read, count_eq⟩ := exists_count .stable [] row.timestamp 0
  obtain ⟨count', data', read', count_eq'⟩ := exists_count .stable [row] row.timestamp 0
  rw [same, read'] at read
  obtain ⟨rfl, -⟩ : count' = count ∧ data' = data := by
    injection read with answer
    injection answer with counts records
    exact ⟨counts, records⟩
  have none : count' = 0 := count_eq.mpr fun _ member => absurd member List.not_mem_nil
  exact count_eq'.mp none row List.mem_cons_self inBounds

/-- **The law holds exactly if the cutoff is not behind the positive part of the last days.** -/
theorem cleanupHarmless_iff_cutoff (now : Int64) {days : Int32} (nonneg : 0 ≤ days) :
    CleanupHarmless now days ↔
      (cleanupCutoff now days).toInt ≤ max 1 (now.toInt - 86400 * days.toInt) := by
  constructor
  · intro harmless
    have low : 0 ≤ days.toInt := Int32.le_iff_toInt_le.mp nonneg
    have nowHigh := now.toInt_lt
    exact cutoff_le_of_harmless harmless (le_max_left _ _) (le_max_right _ _) (by omega)
  · intro early sqlite prepared executed db maxSize limit dateFrom dateTo positive recent
    cases db with
    | none => rfl
    | some table =>
      cases executed with
      | false => rfl
      | true =>
        have notBefore : cleanupCutoff now days ≤ dateFrom :=
          Int64.le_iff_toInt_le.mpr (early.trans (max_le (Int64.lt_iff_toInt_lt.mp positive) recent))
        show dbGetHistoryFiltered sqlite prepared
          (some (table.filter fun row => ¬ row.timestamp < cleanupCutoff now days)) maxSize limit
            dateFrom dateTo = _
        unfold dbGetHistoryFiltered
        simp only [rows_eq, filter_inBounds_cleanup dateTo positive notBefore]

/-- **The cleanup is harmless exactly if the days fit.** -/
theorem cleanupHarmless_iff (now : Int64) {days : Int32} (nonneg : 0 ≤ days) :
    CleanupHarmless now days ↔ DaysFit now days :=
  (cleanupHarmless_iff_cutoff now nonneg).trans (cutoff_le_iff now nonneg)

theorem cleanupHarmless_week : CleanupHarmless 1700000000 7 :=
  (cleanupHarmless_iff 1700000000 (by decide)).mpr ⟨by decide, .inl (by decide)⟩

/-- **At 24856 days the cutoff is in the future**, and the row of this very second is deleted. -/
theorem retention_in_future :
    (dbCleanupOldRecords true 1700000000 24856 (some [.ofTime 1700000000])).2 = some [] ∧
      ¬ CleanupHarmless 1700000000 24856 := by
  refine ⟨by decide, fun harmless => ?_⟩
  have early := (cleanupHarmless_iff_cutoff 1700000000 (by decide)).mp harmless
  exact absurd early (by decide)

end ServerPump
