/-
**The history answer: well formed, never truncated, and cut by a byte budget.**

The loop of `db_get_history_filtered` writes each row behind the last one as long as more than 200
of the 409600 bytes of its buffer remain.

* `writeRow_cursorOf` (one iteration) and `fillHistory_of_writeRow` (the loop): the buffer holds the
  texts of a prefix of the rows, separated by commas; position, remaining bytes and count agree with
  it. A text has at most 167 bytes, so the margin of 200 is enough.
* `rows_eq`: the four-way choice of the query and the four-way choice of the bindings agree.
* `historyAnswer_wellFormed`: the answer parses to an object with the count and the rows of a prefix
  of the selected ones.
* `complete_iff`: no row is lost exactly if the texts of all selected rows but the last leave the
  margin free.
-/

import Mathlib.Data.List.Induction
import ServerPump.Library.JsonDecode
import ServerPump.Proof.Update
import ServerPump.Server.HttpApi

namespace ServerPump

open CText JsonText

/-! ### One row -/

/-- The members of the object written for a row. -/
def rowMembers (row : SnapshotRow) : List (List UInt8 × ℤ) :=
  [(ascii "pump1", row.pump1Cmd.toInt), (ascii "pump1_status", row.pump1Status.toInt),
    (ascii "pump2", row.pump2Cmd.toInt), (ascii "pump2_status", row.pump2Status.toInt),
    (ascii "busy", row.busy.toInt), (ascii "alarm", row.alarm.toInt),
    (ascii "timestamp", row.timestamp.toInt)]

/-- The seven values of a row, as JSON. -/
def rowJson (row : SnapshotRow) : Json :=
  .obj ((rowMembers row).map fun member => (member.1, .num member.2 0))

theorem rowText_eq (row : SnapshotRow) :
    rowText row = renderObject ((rowMembers row).map fun member => (member.1, printInt member.2)) := by
  have first : ascii "\x7b\"pump1\":" = 123 :: 34 :: ascii "pump1" ++ [34, 58] := by decide
  have second : ascii ",\"pump1_status\":" = 44 :: 34 :: ascii "pump1_status" ++ [34, 58] := by decide
  have third : ascii ",\"pump2\":" = 44 :: 34 :: ascii "pump2" ++ [34, 58] := by decide
  have fourth : ascii ",\"pump2_status\":" = 44 :: 34 :: ascii "pump2_status" ++ [34, 58] := by decide
  have fifth : ascii ",\"busy\":" = 44 :: 34 :: ascii "busy" ++ [34, 58] := by decide
  have sixth : ascii ",\"alarm\":" = 44 :: 34 :: ascii "alarm" ++ [34, 58] := by decide
  have seventh : ascii ",\"timestamp\":" = 44 :: 34 :: ascii "timestamp" ++ [34, 58] := by decide
  have brace : ascii "\x7d" = [125] := by decide
  rw [rowText, first, second, third, fourth, fifth, sixth, seventh, brace]
  simp [renderObject, rowMembers, commaSep, renderMember]

theorem verbatim_of_mem_rowMembers (strict : Bool) {row : SnapshotRow} {member : List UInt8 × ℤ}
    (inside : member ∈ rowMembers row) : Verbatim strict member.1 := by
  have plain : ∀ name ∈ [ascii "pump1", ascii "pump1_status", ascii "pump2", ascii "pump2_status",
      ascii "busy", ascii "alarm", ascii "timestamp"], Verbatim strict name := by
    cases strict <;> decide
  have named : member.1 ∈ (rowMembers row).map Prod.fst := List.mem_map_of_mem inside
  exact plain member.1 named

/-- **The text of a row denotes its seven values.** -/
theorem denotes_rowText (strict : Bool) (row : SnapshotRow) :
    Denotes strict 9 (rowText row) (rowJson row) := by
  let members := (rowMembers row).map fun member =>
    (member.1, printInt member.2, Json.num member.2 0)
  have verbatim : ∀ member ∈ members, Verbatim strict member.1 := by
    intro member inside
    obtain ⟨source, sourceInside, rfl⟩ := List.mem_map.mp inside
    exact verbatim_of_mem_rowMembers strict sourceInside
  have numbers : ∀ member ∈ members, Denotes strict 1 member.2.1 member.2.2 := by
    intro member inside
    obtain ⟨source, -, rfl⟩ := List.mem_map.mp inside
    exact denotes_printInt source.2
  rw [rowText_eq]
  exact denotes_object members verbatim numbers (List.cons_ne_nil _ _)

theorem length_rowText (row : SnapshotRow) :
    (rowText row).length = 81 + (printInt row.pump1Cmd.toInt).length +
      (printInt row.pump1Status.toInt).length + (printInt row.pump2Cmd.toInt).length +
      (printInt row.pump2Status.toInt).length + (printInt row.busy.toInt).length +
      (printInt row.alarm.toInt).length + (printInt row.timestamp.toInt).length := by
  have literals : (ascii "\x7b\"pump1\":").length = 9 ∧ (ascii ",\"pump1_status\":").length = 16 ∧
      (ascii ",\"pump2\":").length = 9 ∧ (ascii ",\"pump2_status\":").length = 16 ∧
      (ascii ",\"busy\":").length = 8 ∧ (ascii ",\"alarm\":").length = 9 ∧
      (ascii ",\"timestamp\":").length = 13 ∧ (ascii "\x7d").length = 1 := by decide
  unfold rowText
  simp only [List.length_append]
  omega

/-- **A row has at most 167 bytes**: six numbers of 11 and one of 20 behind 81 bytes of text. -/
theorem length_rowText_le (row : SnapshotRow) : (rowText row).length ≤ 167 := by
  have pump1 := length_printInt32_le row.pump1Cmd
  have pump1Status := length_printInt32_le row.pump1Status
  have pump2 := length_printInt32_le row.pump2Cmd
  have pump2Status := length_printInt32_le row.pump2Status
  have busy := length_printInt32_le row.busy
  have alarm := length_printInt32_le row.alarm
  have timestamp := length_printInt64_le row.timestamp
  rw [length_rowText]
  omega

/-- A row has at least 88 bytes. -/
theorem length_rowText_ge (row : SnapshotRow) : 88 ≤ (rowText row).length := by
  have pump1 := length_printInt_pos row.pump1Cmd.toInt
  have pump1Status := length_printInt_pos row.pump1Status.toInt
  have pump2 := length_printInt_pos row.pump2Cmd.toInt
  have pump2Status := length_printInt_pos row.pump2Status.toInt
  have busy := length_printInt_pos row.busy.toInt
  have alarm := length_printInt_pos row.alarm.toInt
  have timestamp := length_printInt_pos row.timestamp.toInt
  rw [length_rowText]
  omega

/-! ### The loop -/

/-- The texts of some rows, separated by commas. -/
def rowTexts (rows : List SnapshotRow) : List UInt8 := commaSep (rows.map rowText)

/-- The loop condition, once these rows have been written: more than 200 bytes remain. -/
def Spacious (written : List SnapshotRow) : Prop := ((rowTexts written).length : ℤ) + 200 < tempSize

instance (written : List SnapshotRow) : Decidable (Spacious written) :=
  inferInstanceAs (Decidable (((rowTexts written).length : ℤ) + 200 < tempSize))

/-- The cursor once these rows have been written. -/
def cursorOf (written : List SnapshotRow) : Cursor where
  temp := rowTexts written
  ptr := (rowTexts written).length
  remaining := tempSize - (rowTexts written).length
  count := written.length

/-- The loop condition of the source. -/
theorem remaining_gt_iff (written : List SnapshotRow) :
    (cursorOf written).remaining > 200 ↔ Spacious written := by
  unfold Spacious
  dsimp only [cursorOf]
  omega

theorem rowTexts_concat (written : List SnapshotRow) (row : SnapshotRow) :
    rowTexts (written ++ [row]) = rowTexts written ++ entryText written.length row := by
  have comma : ascii "," = [44] := by decide
  have nothing : ascii "" = [] := by decide
  rw [rowTexts, List.map_append, List.map_singleton, commaSep_concat, entryText, comma, nothing]
  cases written with
  | nil => rfl
  | cons first rest => simp [rowTexts]

theorem length_entryText_le (count : ℕ) (row : SnapshotRow) : (entryText count row).length ≤ 168 := by
  have comma : (ascii ",").length = 1 := by decide
  have nothing : (ascii "").length = 0 := by decide
  have text := length_rowText_le row
  rw [entryText, List.length_append]
  split <;> omega

/-- The entry of a spacious iteration fits. -/
theorem entryText_lt {written : List SnapshotRow} (spacious : Spacious written) (row : SnapshotRow) :
    ((entryText written.length row).length : ℤ) < (cursorOf written).remaining := by
  have entry := length_entryText_le written.length row
  have margin := (remaining_gt_iff written).mpr spacious
  omega

/-- **One iteration writes one row.** -/
theorem writeRow_cursorOf {written : List SnapshotRow} (spacious : Spacious written)
    (row : SnapshotRow) : writeRow (cursorOf written) row = cursorOf (written ++ [row]) := by
  have fits := entryText_lt spacious row
  have whole : snprintf (cursorOf written).remaining.toNat (entryText written.length row) =
      entryText written.length row := by
    refine snprintf_of_lt ?_
    omega
  have stored : storeAt (rowTexts written).length (entryText written.length row) (rowTexts written) =
      rowTexts (written ++ [row]) := by
    rw [storeAt, if_pos le_rfl, List.take_length, rowTexts_concat]
  have length : (rowTexts (written ++ [row])).length =
      (rowTexts written).length + (entryText written.length row).length := by
    rw [rowTexts_concat, List.length_append]
  unfold writeRow
  show Cursor.mk (storeAt (rowTexts written).length
      (snprintf (cursorOf written).remaining.toNat (entryText written.length row)) (rowTexts written))
    ((rowTexts written).length + (entryText written.length row).length)
    (tempSize - (rowTexts written).length - (entryText written.length row).length)
    (written.length + 1) = _
  rw [whole, stored, cursorOf, length, List.length_append, List.length_singleton]
  congr 1
  push_cast
  exact Int.sub_sub _ _ _

/-- **The loop writes a prefix of the rows**, and stops at the first that finds no room. `cursor` is the cursor
once these rows have been written, in a buffer of any size. -/
theorem fillHistory_of_writeRow {cursor : List SnapshotRow → Cursor}
    (writes : ∀ written row, (cursor written).remaining > 200 →
      writeRow (cursor written) row = cursor (written ++ [row])) (written rows : List SnapshotRow) :
    ∃ kept, kept <+: rows ∧ fillHistory (cursor written) rows = cursor (written ++ kept) ∧
      (kept = rows ∨ ¬ (cursor (written ++ kept)).remaining > 200) ∧
      ∀ before row, before ++ [row] <+: kept → (cursor (written ++ before)).remaining > 200 := by
  induction rows generalizing written with
  | nil =>
    refine ⟨[], List.nil_prefix, by rw [List.append_nil]; rfl, .inl rfl, fun before row shorter => ?_⟩
    exact absurd (List.prefix_nil.mp shorter) (by simp)
  | cons row rest ih =>
    by_cases room : (cursor written).remaining > 200
    · obtain ⟨kept, isPrefix, filled, stopped, earlier⟩ := ih (written ++ [row])
      have shift : ∀ later, written ++ [row] ++ later = written ++ row :: later := by
        intro later
        rw [List.append_assoc, List.singleton_append]
      refine ⟨row :: kept, List.cons_prefix_cons.mpr ⟨rfl, isPrefix⟩, ?_, ?_, ?_⟩
      · rw [fillHistory, if_pos room, writes written row room, filled, shift]
      · rw [shift] at stopped
        exact stopped.imp (congrArg (List.cons row)) id
      · intro before last shorter
        cases before with
        | nil =>
          rw [List.append_nil]
          exact room
        | cons first later =>
          obtain ⟨rfl, shorterLater⟩ := List.cons_prefix_cons.mp shorter
          rw [← shift]
          exact earlier later last shorterLater
    · refine ⟨[], List.nil_prefix, ?_, .inr ?_, fun before last shorter => ?_⟩
      · rw [fillHistory, if_neg room, List.append_nil]
      · rw [List.append_nil]
        exact room
      · exact absurd (List.prefix_nil.mp shorter) (by simp)

theorem length_rowTexts_concat (written : List SnapshotRow) (row : SnapshotRow) :
    (rowTexts (written ++ [row])).length =
      (rowTexts written).length + (entryText written.length row).length := by
  rw [rowTexts_concat, List.length_append]

theorem length_rowTexts_mono {before rows : List SnapshotRow} (isPrefix : before <+: rows) :
    (rowTexts before).length ≤ (rowTexts rows).length := by
  obtain ⟨after, rfl⟩ := isPrefix
  induction after using List.reverseRecOn with
  | nil => rw [List.append_nil]
  | append_singleton after row ih =>
    rw [← List.append_assoc, length_rowTexts_concat]
    exact ih.trans (Nat.le_add_right _ _)

theorem spacious_nil : Spacious [] := by decide

theorem Spacious.mono {before rows : List SnapshotRow} (spacious : Spacious rows)
    (isPrefix : before <+: rows) : Spacious before := by
  have shorter := length_rowTexts_mono isPrefix
  unfold Spacious at *
  omega

/-- Each row takes at least 88 bytes. -/
theorem length_rowTexts_ge (rows : List SnapshotRow) : 88 * rows.length ≤ (rowTexts rows).length := by
  induction rows using List.reverseRecOn with
  | nil => exact Nat.zero_le _
  | append_singleton rows row ih =>
    have entry : 88 ≤ (entryText rows.length row).length := by
      rw [entryText, List.length_append]
      exact (length_rowText_ge row).trans (Nat.le_add_left _ _)
    rw [length_rowTexts_concat, List.length_append, List.length_singleton]
    omega

/-! ### The whole loop -/

/-- What the loop leaves behind when it is given these rows. -/
structure Kept (rows kept : List SnapshotRow) : Prop where
  isPrefix : kept <+: rows
  filled : fillHistory {} rows = cursorOf kept
  stopped : kept = rows ∨ ¬ Spacious kept
  spacious : ∀ before row, before ++ [row] <+: kept → Spacious before

theorem exists_kept (rows : List SnapshotRow) : ∃ kept, Kept rows kept := by
  obtain ⟨kept, isPrefix, filled, stopped, room⟩ := fillHistory_of_writeRow
    (fun written row room => writeRow_cursorOf ((remaining_gt_iff written).mp room) row) [] rows
  refine ⟨kept, isPrefix, filled, ?_, fun before row shorter => ?_⟩
  · exact stopped.imp_right (remaining_gt_iff kept).not.mp
  · exact (remaining_gt_iff before).mp (room before row shorter)

/-- **The buffer is never full.** -/
theorem Kept.remaining_pos {rows kept : List SnapshotRow} (loop : Kept rows kept) :
    0 < (cursorOf kept).remaining := by
  rcases List.eq_nil_or_concat kept with rfl | ⟨written, row, rfl⟩
  · decide
  · rw [List.concat_eq_append] at loop ⊢
    have fits := entryText_lt (loop.spacious written row List.prefix_rfl) row
    have length := length_rowTexts_concat written row
    dsimp only [cursorOf] at fits ⊢
    rw [length]
    push_cast
    omega

/-- **The loop writes every row exactly if the rows before the last one are spacious.** -/
theorem Kept.complete_iff {rows kept : List SnapshotRow} (loop : Kept rows kept) :
    kept = rows ↔ Spacious rows.dropLast := by
  rcases List.eq_nil_or_concat rows with rfl | ⟨others, last, rfl⟩
  · exact iff_of_true (List.prefix_nil.mp loop.isPrefix) spacious_nil
  · rw [List.concat_eq_append] at loop ⊢
    rw [List.dropLast_concat]
    constructor
    · rintro rfl
      exact loop.spacious others last List.prefix_rfl
    · intro spacious
      rcases List.prefix_concat_iff.mp loop.isPrefix with complete | shorter
      · exact complete
      · exact loop.stopped.resolve_right (not_not.mpr (spacious.mono shorter))

theorem length_historyAnswer (kept : List SnapshotRow) :
    (historyAnswer (cursorOf kept)).length =
      20 + (printInt (kept.length : ℤ)).length + (rowTexts kept).length := by
  have literals : (ascii "\x7b\"count\":").length = 9 ∧ (ascii ",\"data\":[").length = 9 ∧
      (ascii "]\x7d").length = 2 := by decide
  unfold historyAnswer
  simp only [List.length_append, cursorOf]
  omega

/-- **The final text fits the output.** -/
theorem Kept.length_historyAnswer_lt {rows kept : List SnapshotRow} (loop : Kept rows kept) :
    (historyAnswer (cursorOf kept)).length < responseSize := by
  have room := loop.remaining_pos
  have many := length_rowTexts_ge kept
  have size : tempSize = 409600 := rfl
  dsimp only [cursorOf] at room
  have digits : (printInt (kept.length : ℤ)).length ≤ 7 := length_printInt_le (by decide) (by omega)
  have length := length_historyAnswer kept
  unfold responseSize
  omega

/-- The text printed into the output denotes the count and the rows. -/
theorem denotes_historyAnswer (strict : Bool) (kept : List SnapshotRow) :
    parse strict (historyAnswer (cursorOf kept)) = some (.obj
      [(ascii "count", .num kept.length 0), (ascii "data", .arr (kept.map rowJson))]) := by
  let items := kept.map fun row => (rowText row, rowJson row)
  have array : Denotes strict (9 + items.length + 1) (renderArray (items.map Prod.fst))
      (.arr (items.map Prod.snd)) := by
    refine denotes_array items fun item inside => ?_
    obtain ⟨row, -, rfl⟩ := List.mem_map.mp inside
    exact denotes_rowText strict row
  let members := [(ascii "count", printInt kept.length, Json.num kept.length 0),
    (ascii "data", renderArray (items.map Prod.fst), Json.arr (items.map Prod.snd))]
  have object : Denotes strict (9 + items.length + 1 + 2 + 1)
      (renderObject (members.map fun member => (member.1, member.2.1)))
      (.obj (members.map fun member => (member.1, member.2.2))) := by
    refine denotes_object members ?_ ?_ (List.cons_ne_nil _ _)
    · have plain : ∀ name ∈ [ascii "count", ascii "data"], Verbatim strict name := by
        cases strict <;> decide
      exact fun member inside => plain member.1 (List.mem_map_of_mem (f := Prod.fst) inside)
    · intro member inside
      rcases List.mem_pair.mp inside with rfl | rfl
      · show Denotes strict _ (printInt kept.length) (.num kept.length 0)
        refine (denotes_printInt _).mono ?_
        omega
      · exact array
  have first : ascii "\x7b\"count\":" = 123 :: 34 :: ascii "count" ++ [34, 58] := by decide
  have second : ascii ",\"data\":[" = 44 :: 34 :: ascii "data" ++ [34, 58, 91] := by decide
  have close : ascii "]\x7d" = [93, 125] := by decide
  have layout : historyAnswer (cursorOf kept) =
      renderObject (members.map fun member => (member.1, member.2.1)) := by
    rw [historyAnswer, first, second, close]
    simp [members, items, renderObject, renderArray, commaSep, renderMember, cursorOf, rowTexts,
      Function.comp_def]
  have values : members.map (fun member => (member.1, member.2.2)) =
      [(ascii "count", .num kept.length 0), (ascii "data", .arr (kept.map rowJson))] := by
    simp [members, items, Function.comp_def]
  rw [← values, layout]
  refine parse_of_denotes object ?_
  have many := length_rowTexts_ge kept
  have counted : items.length = kept.length := List.length_map _
  rw [← layout, length_historyAnswer]
  omega

/-! ### The selected rows -/

/-- The row satisfies the bounds; a bound that is not positive is none. -/
def InBounds (dateFrom dateTo : Int64) (row : SnapshotRow) : Prop :=
  (dateFrom ≤ 0 ∨ dateFrom ≤ row.timestamp) ∧ (dateTo ≤ 0 ∨ row.timestamp ≤ dateTo)

instance (dateFrom dateTo : Int64) : DecidablePred (InBounds dateFrom dateTo) := fun row =>
  inferInstanceAs (Decidable
    ((dateFrom ≤ 0 ∨ dateFrom ≤ row.timestamp) ∧ (dateTo ≤ 0 ∨ row.timestamp ≤ dateTo)))

/-- **The query and its bindings agree**: together they select the rows in bounds, newest first, up
to the limit. -/
theorem rows_eq (sqlite : Sqlite) (table : List SnapshotRow) (limit : Int32) (dateFrom dateTo : Int64) :
    sqlite.rows (historySelect dateFrom dateTo) (historyBindings limit dateFrom dateTo) table =
      limited (some limit.toInt64)
        (sqlite.descending (table.filter fun row => InBounds dateFrom dateTo row)) := by
  have bounds : ∀ bindings conditions, (∀ row, meetsAll bindings row 1 conditions =
      decide (InBounds dateFrom dateTo row)) →
        (table.filter fun row => meetsAll bindings row 1 conditions) =
          table.filter fun row => InBounds dateFrom dateTo row := by
    intro bindings conditions same
    exact List.filter_congr fun row _ => same row
  unfold Sqlite.rows historySelect historyBindings
  by_cases from' : dateFrom > 0
  · have fromBound : ¬ dateFrom ≤ 0 := Int64.not_le.mpr from'
    by_cases to' : dateTo > 0
    · have toBound : ¬ dateTo ≤ 0 := Int64.not_le.mpr to'
      simp only [from', to', and_self, if_true]
      rw [bounds _ _ fun row => by
        simp [meetsAll, Comparison.holds, boundValue, InBounds, fromBound, toBound]]
      rfl
    · have toBound : dateTo ≤ 0 := Int64.not_lt.mp to'
      simp only [from', to', and_false, if_false, if_true]
      rw [bounds _ _ fun row => by
        simp [meetsAll, Comparison.holds, boundValue, InBounds, fromBound, toBound]]
      rfl
  · have fromBound : dateFrom ≤ 0 := Int64.not_lt.mp from'
    by_cases to' : dateTo > 0
    · have toBound : ¬ dateTo ≤ 0 := Int64.not_le.mpr to'
      simp only [from', to', false_and, if_false, if_true]
      rw [bounds _ _ fun row => by
        simp [meetsAll, Comparison.holds, boundValue, InBounds, fromBound, toBound]]
      rfl
    · have toBound : dateTo ≤ 0 := Int64.not_lt.mp to'
      simp only [from', to', false_and, if_false]
      rw [bounds _ _ fun row => by simp [meetsAll, InBounds, fromBound, toBound]]
      rfl

theorem limited_isInitial (limit : Option Int64) (rows : List SnapshotRow) : limited limit rows <+: rows := by
  unfold limited
  split
  · split
    · exact List.prefix_rfl
    · exact List.take_prefix _ _
  · exact List.nil_prefix

/-! ### The answer -/

/-- Whatever the loop has written, the next entry fits if the loop goes on, and there is room left. -/
theorem loop_untruncated (before : List SnapshotRow) :
    (∀ row, 200 < (fillHistory {} before).remaining →
      ((entryText (fillHistory {} before).count row).length : ℤ) < (fillHistory {} before).remaining) ∧
      0 < (fillHistory {} before).remaining := by
  obtain ⟨kept, loop⟩ := exists_kept before
  rw [loop.filled]
  refine ⟨fun row goesOn => ?_, loop.remaining_pos⟩
  exact entryText_lt ((remaining_gt_iff kept).mp goesOn) row

theorem dbGetHistoryFiltered_eq (sqlite : Sqlite) (table : List SnapshotRow) (limit : Int32)
    (dateFrom dateTo : Int64) {kept : List SnapshotRow}
    (loop : Kept (sqlite.rows (historySelect dateFrom dateTo)
      (historyBindings limit dateFrom dateTo) table) kept) :
    dbGetHistoryFiltered sqlite true (some table) responseSize limit dateFrom dateTo =
      (0, historyAnswer (cursorOf kept)) := by
  unfold dbGetHistoryFiltered
  simp only [if_true]
  rw [loop.filled, snprintf_of_lt loop.length_historyAnswer_lt]

/-- **The history answer is well formed.** It carries, with all seven values, the rows of a prefix of
those in bounds, newest first, and their number; nothing printed on the way is cut off. -/
theorem historyAnswer_wellFormed (sqlite : Sqlite) (table : List SnapshotRow) (limit : Int32)
    (dateFrom dateTo : Int64) :
    let rows := sqlite.rows (historySelect dateFrom dateTo) (historyBindings limit dateFrom dateTo) table
    let answer := dbGetHistoryFiltered sqlite true (some table) responseSize limit dateFrom dateTo
    ∃ ordered data : List SnapshotRow,
      ordered.Perm (table.filter fun row => InBounds dateFrom dateTo row) ∧
      ordered.Pairwise (fun newer older => older.timestamp ≤ newer.timestamp) ∧
      data <+: ordered ∧
      answer.1 = 0 ∧
      parse true answer.2 = some (.obj
        [(ascii "count", .num data.length 0), (ascii "data", .arr (data.map rowJson))]) ∧
      (∀ before row, before ++ [row] <+: rows → 200 < (fillHistory {} before).remaining →
        ((entryText (fillHistory {} before).count row).length : ℤ) <
          (fillHistory {} before).remaining) ∧
      (∀ before, before <+: rows → 0 < (fillHistory {} before).remaining) ∧
      (historyAnswer (fillHistory {} rows)).length < responseSize := by
  intro rows answer
  obtain ⟨kept, loop⟩ := exists_kept rows
  have answerEq : answer = (0, historyAnswer (cursorOf kept)) :=
    dbGetHistoryFiltered_eq sqlite table limit dateFrom dateTo loop
  have ofOrdered : kept <+: sqlite.descending (table.filter fun row => InBounds dateFrom dateTo row) := by
    refine loop.isPrefix.trans ?_
    rw [show rows = _ from rows_eq sqlite table limit dateFrom dateTo]
    exact limited_isInitial _ _
  refine ⟨_, kept, sqlite.perm _, sqlite.sorted _, ofOrdered, ?_, ?_, ?_, ?_, ?_⟩
  · rw [answerEq]
  · rw [answerEq]
    exact denotes_historyAnswer true kept
  · exact fun before row _ goesOn => (loop_untruncated before).1 row goesOn
  · exact fun before _ => (loop_untruncated before).2
  · rw [loop.filled]
    exact loop.length_historyAnswer_lt

/-! ### Lost records -/

/-- The records of a history answer. -/
def records (body : List UInt8) : Option (List Json) :=
  match (parse true body).bind (Json.member? (ascii "data")) with
  | some (.arr items) => some items
  | _ => none

/-- The clamped limit is in `1..5000`. -/
theorem historyLimit_range (params : QueryParams) :
    1 ≤ (historyLimit params).toInt ∧ (historyLimit params).toInt ≤ 5000 := by
  have one : (1 : Int32).toInt = 1 := by decide
  have most : (5000 : Int32).toInt = 5000 := by decide
  have usual : (1000 : Int32).toInt = 1000 := by decide
  have clamp : ∀ limit : Int32, let clamped := if limit > 5000 then 5000 else limit
      1 ≤ (if clamped < 1 then 1000 else clamped).toInt ∧
        (if clamped < 1 then 1000 else clamped).toInt ≤ 5000 := by
    intro limit clamped
    have upper : clamped.toInt ≤ 5000 := by
      show (if limit > 5000 then 5000 else limit).toInt ≤ 5000
      split
      · exact le_of_eq most
      · rename_i notMore
        rw [gt_iff_lt, Int32.lt_iff_toInt_lt, most] at notMore
        omega
    split
    · rw [usual]
      omega
    · rename_i notLess
      rw [Int32.lt_iff_toInt_lt, one] at notLess
      omega
  exact clamp _

theorem limited_eq_take (limit : Int32) (positive : 0 ≤ limit.toInt) (rows : List SnapshotRow) :
    limited (some limit.toInt64) rows = rows.take limit.toInt.toNat := by
  have same : limit.toInt64.toInt = limit.toInt := Int32.toInt_toInt64 limit
  have notNegative : ¬ limit.toInt64 < 0 := by
    rw [Int64.lt_iff_toInt_lt, same, show (0 : Int64).toInt = 0 from rfl]
    omega
  unfold limited
  dsimp only
  rw [if_neg notNegative, same]

theorem length_limited (limit : Int32) (positive : 0 ≤ limit.toInt) (rows : List SnapshotRow) :
    (limited (some limit.toInt64) rows).length = min limit.toInt.toNat rows.length := by
  rw [limited_eq_take limit positive, List.length_take]

/-- The rows the history handler selects. -/
def selectedRows (sqlite : Sqlite) (params : QueryParams) (table : List SnapshotRow) :
    List SnapshotRow :=
  sqlite.rows (historySelect (historyFrom params) (historyTo params))
    (historyBindings (historyLimit params) (historyFrom params) (historyTo params)) table

/-- The rows that satisfy the bounds of a request. -/
def matchingRows (params : QueryParams) (table : List SnapshotRow) : List SnapshotRow :=
  table.filter fun row => InBounds (historyFrom params) (historyTo params) row

/-- The records of an answer are the rows the loop has written. -/
theorem records_eq (sqlite : Sqlite) (table : List SnapshotRow)
    (arguments : List (String × Option (List UInt8))) {kept : List SnapshotRow}
    (loop : Kept (selectedRows sqlite (queryParams arguments) table) kept) :
    records (handlePumpHistory sqlite true (some table) arguments) = some (kept.map rowJson) := by
  have answerEq := dbGetHistoryFiltered_eq sqlite table (historyLimit (queryParams arguments))
    (historyFrom (queryParams arguments)) (historyTo (queryParams arguments)) loop
  have body : handlePumpHistory sqlite true (some table) arguments = historyAnswer (cursorOf kept) := by
    unfold handlePumpHistory
    dsimp only
    rw [answerEq, if_neg (not_not.mpr rfl)]
  rw [body, records, denotes_historyAnswer]
  rfl

theorem length_selectedRows (sqlite : Sqlite) (params : QueryParams) (table : List SnapshotRow) :
    (selectedRows sqlite params table).length =
      min (historyLimit params).toInt.toNat (matchingRows params table).length := by
  have ordered := (sqlite.perm (matchingRows params table)).length_eq
  rw [← ordered, ← length_limited (historyLimit params)
    (le_trans zero_le_one (historyLimit_range params).1)]
  exact congrArg List.length (rows_eq sqlite table _ _ _)

/-- **No record is lost exactly if all selected rows but the last leave the margin free.** -/
theorem all_records_iff (sqlite : Sqlite) (table : List SnapshotRow)
    (arguments : List (String × Option (List UInt8))) :
    let params := queryParams arguments
    (records (handlePumpHistory sqlite true (some table) arguments)).map List.length =
        some (min (historyLimit params).toInt.toNat (matchingRows params table).length) ↔
      Spacious (selectedRows sqlite params table).dropLast := by
  intro params
  obtain ⟨kept, loop⟩ := exists_kept (selectedRows sqlite params table)
  rw [records_eq sqlite table arguments loop, ← length_selectedRows sqlite, ← loop.complete_iff,
    Option.map_some, Option.some.injEq, List.length_map]
  exact ⟨loop.isPrefix.eq_of_length, fun complete => congrArg List.length complete⟩

/-! ### A history that loses records -/

def switchOn : Delivery :=
  ⟨.mqtt "pump/control" (ascii "\x7b\"pump_id\":1,\"state\":1\x7d"), .at 100⟩

def switchOff : Delivery :=
  ⟨.mqtt "pump/control" (ascii "\x7b\"pump_id\":1,\"state\":0\x7d"), .at 200⟩

/-- Pump 1 is switched on and off. -/
def toggles : ℕ → List Delivery
  | 0 => []
  | count + 1 => switchOn :: switchOff :: toggles count

/-- A text that commands pump 1 is a report of that command, whenever it comes. -/
theorem reports_switch {payload : List UInt8} {state : Int32}
    (commands : controlReports JsonC.reference { now := 0 } (mqttPayload payload) =
      [(.command 1 state, { now := 0 })])
    (now : Int64) (fields : PumpFields) :
    reports JsonC.reference ⟨.mqtt "pump/control" payload, .at now⟩ fields =
      [(.command 1 state, { now := now })] := by
  have later : controlReports JsonC.reference { now := now } (mqttPayload payload) =
      (controlReports JsonC.reference { now := 0 } (mqttPayload payload)).map fun report =>
        (report.1, { now := now }) := by
    unfold controlReports
    split
    · rfl
    · split <;> rfl
  rw [commands] at later
  exact later

/-- Every command is a change, and every change adds a snapshot. -/
theorem length_toggles (count : ℕ) (server : ServerState) (off : server.pumps.previous.pump1 = 0) :
    (Runs.run (handle JsonC.reference) server (toggles count)).pumps.tables.pumpSnapshots.length =
      server.pumps.tables.pumpSnapshots.length + 2 * count := by
  induction count generalizing server with
  | zero => rfl
  | succ count ih =>
    let on := applyUpdate { now := 100 } (.command 1 1) server.pumps
    let both := applyUpdate { now := 200 } (.command 1 0) on
    have started : Update.detects server.pumps.previous.toPumpFields (.command 1 1) = true := by
      simp [Update.detects, PumpFields.commandOf, off]
    have onPrevious : on.previous.toPumpFields =
        server.pumps.previous.toPumpFields.setCommand 1 1 := by
      rw [applyUpdate_previous, if_pos started]
      rfl
    have stopped : Update.detects on.previous.toPumpFields (.command 1 0) = true := by
      rw [onPrevious]
      rfl
    have offAgain : both.previous.pump1 = 0 := by
      have previous : both.previous.toPumpFields = on.previous.toPumpFields.setCommand 1 0 := by
        rw [applyUpdate_previous, if_pos stopped]
        rfl
      rw [previous]
      rfl
    have longer : both.tables.pumpSnapshots.length = server.pumps.tables.pumpSnapshots.length + 2 := by
      simp only [both, on, applyUpdate_pumpSnapshots, List.length_append] at stopped ⊢
      simp [started, stopped]
    have pumps : (handle JsonC.reference (handle JsonC.reference server switchOn) switchOff).pumps =
        both := by
      have switchesOff := reports_switch (show controlReports JsonC.reference { now := 0 } (mqttPayload
        (ascii "\x7b\"pump_id\":1,\"state\":0\x7d")) = [(.command 1 0, { now := 0 })] by decide +kernel) 200
      have switchesOn := reports_switch (show controlReports JsonC.reference { now := 0 } (mqttPayload
        (ascii "\x7b\"pump_id\":1,\"state\":1\x7d")) = [(.command 1 1, { now := 0 })] by decide +kernel) 100
      rw [handle_pumps, switchOff, switchesOff, handle_pumps, switchOn, switchesOn]
      rfl
    rw [toggles, Runs.run_cons, Runs.run_cons, ih _ (by rw [pumps]; exact offAgain), pumps, longer]
    omega

theorem succeeds_of_mem_toggles {count : ℕ} {delivery : Delivery} (member : delivery ∈ toggles count) :
    delivery.Succeeds := by
  induction count with
  | zero => cases member
  | succ count ih =>
    rcases List.mem_cons.mp member with rfl | member
    · decide
    · rcases List.mem_cons.mp member with rfl | member
      · decide
      · exact ih member

/-- Of 5000 snapshots the answer to `limit=5000` loses some. -/
theorem history_loses_records :
    ¬ ∀ (sqlite : Sqlite) (deliveries : List Delivery) (arguments : List (String × Option (List UInt8))),
      (∀ delivery ∈ deliveries, delivery.Succeeds) →
        let table := (Runs.run (handle JsonC.reference) {} deliveries).pumps.tables.pumpSnapshots
        let params := queryParams arguments
        (records (handlePumpHistory sqlite true (some table) arguments)).map List.length =
          some (min (historyLimit params).toInt.toNat (matchingRows params table).length) := by
  intro complete
  let arguments : List (String × Option (List UInt8)) := [("limit", some (ascii "5000"))]
  let params := queryParams arguments
  have answered := complete .stable (toggles 2500) arguments fun _ => succeeds_of_mem_toggles
  have stored := length_toggles 2500 {} rfl
  generalize (Runs.run (handle JsonC.reference) {} (toggles 2500)).pumps.tables.pumpSnapshots = table
    at answered stored
  obtain ⟨kept, loop⟩ := exists_kept (selectedRows .stable params table)
  have unbounded : historyFrom params = 0 ∧ historyTo params = 0 := by decide
  have matching : matchingRows params table = table := by
    refine List.filter_eq_self.mpr fun row _ => decide_eq_true ?_
    rw [unbounded.1, unbounded.2]
    exact ⟨.inl (Int64.le_refl 0), .inl (Int64.le_refl 0)⟩
  have limit : (historyLimit params).toInt.toNat = 5000 := by decide +kernel
  have size := length_selectedRows .stable params table
  rw [matching, limit] at size
  dsimp only at answered
  rw [records_eq .stable table arguments loop, Option.map_some, Option.some.injEq, List.length_map,
    ← length_selectedRows .stable] at answered
  have spacious := loop.complete_iff.mp (loop.isPrefix.eq_of_length answered)
  have many := length_rowTexts_ge (selectedRows .stable params table).dropLast
  have budget : tempSize = 409600 := rfl
  unfold Spacious at spacious
  rw [List.length_dropLast] at many
  have empty : ({} : ServerState).pumps.tables.pumpSnapshots.length = 0 := rfl
  omega

end ServerPump
