/-
**The two history queries agree, as far as the smaller buffer goes.**

`db_get_history` and `db_get_history_filtered` run one loop over two buffers. With less room the loop does
the same steps until it stops, so that it writes a prefix of what the other one writes; without dates both
select the same rows.

* `writeRow_lower`: one iteration with less room.
* `PlainKept.isPrefix_kept`, `PlainKept.eq_kept_iff`: what it holds, and when that is all.
* `plain_history_isPrefix`: the two answers.
-/

import ServerPump.Proof.History

namespace ServerPump

open CText JsonText

/-! ### Less room -/

/-- A cursor in a buffer that is smaller by some bytes. -/
def Cursor.lower (amount : ℤ) (cursor : Cursor) : Cursor :=
  { cursor with remaining := cursor.remaining - amount }

/-- The loop condition in the smaller buffer, once these rows have been written. -/
def Roomy (amount : ℤ) (written : List SnapshotRow) : Prop :=
  200 < ((cursorOf written).lower amount).remaining

instance (amount : ℤ) (written : List SnapshotRow) : Decidable (Roomy amount written) :=
  inferInstanceAs (Decidable (200 < ((cursorOf written).lower amount).remaining))

section Lower

variable {amount : ℤ}

theorem roomy_iff {written : List SnapshotRow} :
    Roomy amount written ↔ ((rowTexts written).length : ℤ) + 200 < tempSize - amount := by
  unfold Roomy
  dsimp only [Cursor.lower, cursorOf]
  omega

/-- What is roomy is spacious. -/
theorem Roomy.spacious (nonneg : 0 ≤ amount) {written : List SnapshotRow} (roomy : Roomy amount written) :
    Spacious written := by
  have margin := roomy_iff.mp roomy
  unfold Spacious
  omega

theorem Roomy.mono {before rows : List SnapshotRow} (roomy : Roomy amount rows) (isPrefix : before <+: rows) :
    Roomy amount before := by
  have shorter := length_rowTexts_mono isPrefix
  have margin := roomy_iff.mp roomy
  exact roomy_iff.mpr (by omega)

/-- **One iteration**, with less room. -/
theorem writeRow_lower (nonneg : 0 ≤ amount) {written : List SnapshotRow} (roomy : Roomy amount written)
    (row : SnapshotRow) :
    writeRow ((cursorOf written).lower amount) row = (cursorOf (written ++ [row])).lower amount := by
  have entry := length_entryText_le written.length row
  have room : 200 < ((cursorOf written).lower amount).remaining := roomy
  have whole : snprintf ((cursorOf written).lower amount).remaining.toNat (entryText written.length row) =
      snprintf (cursorOf written).remaining.toNat (entryText written.length row) := by
    have more : ((cursorOf written).lower amount).remaining ≤ (cursorOf written).remaining :=
      Int.sub_le_self _ nonneg
    rw [snprintf_of_lt (by omega), snprintf_of_lt (by omega)]
  rw [← writeRow_cursorOf (roomy.spacious nonneg) row]
  unfold writeRow
  show Cursor.mk (storeAt _ (snprintf ((cursorOf written).lower amount).remaining.toNat
    (entryText written.length row)) _) _ _ _ = _
  rw [whole]
  unfold Cursor.lower
  congr 1
  exact sub_right_comm _ _ _

/-- What the loop leaves behind in the smaller buffer. -/
structure PlainKept (rows kept : List SnapshotRow) : Prop where
  isPrefix : kept <+: rows
  answer : historyAnswer (fillHistory { remaining := plainTempSize } rows) = historyAnswer (cursorOf kept)
  stopped : kept = rows ∨ ¬ Roomy (tempSize - plainTempSize) kept
  roomy : ∀ before row, before ++ [row] <+: kept → Roomy (tempSize - plainTempSize) before

theorem historyAnswer_lower (amount : ℤ) (cursor : Cursor) :
    historyAnswer (cursor.lower amount) = historyAnswer cursor := rfl

theorem exists_plainKept (rows : List SnapshotRow) : ∃ kept, PlainKept rows kept := by
  have nonneg : 0 ≤ tempSize - plainTempSize := by decide
  obtain ⟨kept, isPrefix, filled, stopped, roomy⟩ := fillHistory_of_writeRow
    (fun written row (roomy : Roomy _ written) => writeRow_lower nonneg roomy row) [] rows
  refine ⟨kept, isPrefix, ?_, stopped, roomy⟩
  have start : ({ remaining := plainTempSize } : Cursor) =
      (cursorOf []).lower (tempSize - plainTempSize) := by
    unfold Cursor.lower
    congr 1
  rw [start, filled, historyAnswer_lower, List.nil_append]

/-- What the smaller buffer holds leaves room in the larger one. -/
theorem PlainKept.spacious {rows plain : List SnapshotRow} (smaller : PlainKept rows plain) :
    Spacious plain := by
  rcases List.eq_nil_or_concat plain with rfl | ⟨written, row, rfl⟩
  · exact spacious_nil
  · rw [List.concat_eq_append] at smaller ⊢
    have margin := roomy_iff.mp (smaller.roomy written row List.prefix_rfl)
    have length := length_rowTexts_concat written row
    have entry := length_entryText_le written.length row
    have sizes : tempSize - (tempSize - plainTempSize) = 102400 ∧ tempSize = 409600 := ⟨rfl, rfl⟩
    unfold Spacious
    omega

/-- **The smaller buffer holds a prefix** of what the larger one holds. -/
theorem PlainKept.isPrefix_kept {rows plain kept : List SnapshotRow} (smaller : PlainKept rows plain)
    (larger : Kept rows kept) : plain <+: kept := by
  rcases larger.stopped with rfl | full
  · exact smaller.isPrefix
  · refine List.prefix_of_prefix_length_le smaller.isPrefix larger.isPrefix ?_
    by_contra longer
    have shorter := List.prefix_of_prefix_length_le larger.isPrefix smaller.isPrefix (by omega)
    exact full (smaller.spacious.mono shorter)

/-- **Both hold the same rows exactly if the rows before the last one are roomy.** -/
theorem PlainKept.eq_kept_iff {rows plain kept : List SnapshotRow} (smaller : PlainKept rows plain)
    (larger : Kept rows kept) : plain = kept ↔ Roomy (tempSize - plainTempSize) rows.dropLast := by
  have nothing : Roomy (tempSize - plainTempSize) [] := by decide
  constructor
  · rintro rfl
    obtain rfl := larger.stopped.resolve_right (not_not.mpr smaller.spacious)
    rcases List.eq_nil_or_concat plain with rfl | ⟨others, last, rfl⟩
    · exact nothing
    · rw [List.concat_eq_append] at smaller ⊢
      rw [List.dropLast_concat]
      exact smaller.roomy others last List.prefix_rfl
  · intro roomy
    have complete : plain = rows := by
      rcases List.eq_nil_or_concat rows with rfl | ⟨others, last, rfl⟩
      · exact List.prefix_nil.mp smaller.isPrefix
      · rw [List.concat_eq_append] at smaller roomy ⊢
        rw [List.dropLast_concat] at roomy
        rcases List.prefix_concat_iff.mp smaller.isPrefix with complete | shorter
        · exact complete
        · exact smaller.stopped.resolve_right (not_not.mpr (roomy.mono shorter))
    obtain rfl := complete
    exact (smaller.isPrefix_kept larger).eq_of_length_le larger.isPrefix.length_le

end Lower

/-! ### The answers -/

theorem records_historyAnswer (kept : List SnapshotRow) :
    records (historyAnswer (cursorOf kept)) = some (kept.map rowJson) := by
  rw [records, denotes_historyAnswer]
  rfl

/-- The text of the smaller buffer fits the output. -/
theorem PlainKept.length_lt {rows plain : List SnapshotRow} (smaller : PlainKept rows plain) :
    (historyAnswer (cursorOf plain)).length < responseSize := by
  obtain ⟨kept, larger⟩ := exists_kept plain
  obtain rfl := larger.stopped.resolve_right (not_not.mpr (smaller.spacious.mono larger.isPrefix))
  exact larger.length_historyAnswer_lt

/-- The newest rows, up to the limit. -/
def newestRows (sqlite : Sqlite) (limit : Int32) (table : List SnapshotRow) : List SnapshotRow :=
  limited (some limit.toInt64) (sqlite.descending table)

theorem rows_unfiltered (sqlite : Sqlite) (limit : Int32) (table : List SnapshotRow) :
    sqlite.rows ⟨[]⟩ [(1, limit.toInt64)] table = newestRows sqlite limit table := by
  have all : (table.filter fun row => meetsAll [(1, limit.toInt64)] row 1 []) = table := by
    simp [meetsAll]
  unfold Sqlite.rows
  dsimp only
  rw [all]
  rfl

theorem rows_withoutDates (sqlite : Sqlite) (limit : Int32) {dateFrom dateTo : Int64}
    (noFrom : dateFrom ≤ 0) (noTo : dateTo ≤ 0) (table : List SnapshotRow) :
    sqlite.rows (historySelect dateFrom dateTo) (historyBindings limit dateFrom dateTo) table =
      newestRows sqlite limit table := by
  have all : (table.filter fun row => InBounds dateFrom dateTo row) = table := by
    simp [InBounds, noFrom, noTo]
  rw [rows_eq, all]
  rfl

/-- **The query without dates answers with a prefix of what the filtered one answers with**, well formed and
with the same code; they answer the same exactly if the texts of the rows before the last one leave 200 of
the 102400 bytes free. -/
theorem plain_history_isPrefix (sqlite : Sqlite) (table : List SnapshotRow) (limit : Int32)
    (dateFrom dateTo : Int64) (noFrom : dateFrom ≤ 0) (noTo : dateTo ≤ 0) :
    ∃ plain filtered : List Json,
      records (dbGetHistory sqlite true (some table) responseSize limit).2 = some plain ∧
      records (dbGetHistoryFiltered sqlite true (some table) responseSize limit dateFrom dateTo).2 =
        some filtered ∧
      plain <+: filtered ∧
      (dbGetHistory sqlite true (some table) responseSize limit =
          dbGetHistoryFiltered sqlite true (some table) responseSize limit dateFrom dateTo ↔
        ((rowTexts (newestRows sqlite limit table).dropLast).length : ℤ) + 200 < plainTempSize) := by
  obtain ⟨plain, smaller⟩ := exists_plainKept (newestRows sqlite limit table)
  obtain ⟨kept, larger⟩ := exists_kept (newestRows sqlite limit table)
  have isPrefix := smaller.isPrefix_kept larger
  have plainAnswer : dbGetHistory sqlite true (some table) responseSize limit =
      (0, historyAnswer (cursorOf plain)) := by
    unfold dbGetHistory
    simp only [if_true]
    rw [rows_unfiltered, smaller.answer, snprintf_of_lt smaller.length_lt]
  have filteredAnswer : dbGetHistoryFiltered sqlite true (some table) responseSize limit dateFrom dateTo =
      (0, historyAnswer (cursorOf kept)) := by
    refine dbGetHistoryFiltered_eq sqlite table limit dateFrom dateTo ?_
    rwa [rows_withoutDates sqlite limit noFrom noTo]
  refine ⟨plain.map rowJson, kept.map rowJson, ?_, ?_, isPrefix.map rowJson, ?_⟩
  · rw [plainAnswer]
    exact records_historyAnswer plain
  · rw [filteredAnswer]
    exact records_historyAnswer kept
  · have same : plain = kept ↔ _ := (smaller.eq_kept_iff larger).trans roomy_iff
    have size : tempSize - (tempSize - plainTempSize) = plainTempSize := sub_sub_cancel _ _
    rw [plainAnswer, filteredAnswer, ← size, ← same]
    constructor
    · intro answers
      have counted := congrArg (fun answer : ℤ × List UInt8 => (records answer.2).map List.length) answers
      dsimp only at counted
      rw [records_historyAnswer, records_historyAnswer, Option.map_some, Option.map_some, List.length_map,
        List.length_map] at counted
      exact isPrefix.eq_of_length (Option.some.inj counted)
    · rintro rfl
      rfl

/-- Pump 1 is switched on and off. -/
def switchedRows : List SnapshotRow := [⟨1, 0, 0, 0, 0, 0, 100⟩, ⟨0, 0, 0, 0, 0, 0, 101⟩]

theorem plain_history_isPrefix_switched :
    ∃ plain filtered : List Json,
      records (dbGetHistory Sqlite.stable true (some switchedRows) responseSize 10).2 = some plain ∧
      records (dbGetHistoryFiltered Sqlite.stable true (some switchedRows) responseSize 10 0 (-1)).2 =
        some filtered ∧
      plain <+: filtered ∧
      (dbGetHistory Sqlite.stable true (some switchedRows) responseSize 10 =
          dbGetHistoryFiltered Sqlite.stable true (some switchedRows) responseSize 10 0 (-1) ↔
        ((rowTexts (newestRows Sqlite.stable 10 switchedRows).dropLast).length : ℤ) + 200 < plainTempSize) :=
  plain_history_isPrefix Sqlite.stable switchedRows 10 0 (-1) (by decide) (by decide)

end ServerPump
