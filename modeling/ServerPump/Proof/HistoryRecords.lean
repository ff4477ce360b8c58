/-
**The records the page reads are rows of the table.**

* `readHistory_handlePumpHistory`: what the page reads out of an answer is an error object, or the
  records of a prefix of the selected rows.
* `exists_row_of_readHistory`, `exists_newest`: a record is a row in the bounds of the request, and to
  a row in bounds there is a record at least as new.
* `shown_eq`, `resJson_handlePumpHistory`: of the numbers of an answer only the times may be rounded.
* `searchFilter_eq`: the search is a filter on records whose statuses have a text.
-/

import ServerPump.Proof.History
import ServerPump.Web.HistoryAnswer

namespace ServerPump

open CText JsonText

/-- The record of a row. -/
def SnapshotRow.record (row : SnapshotRow) : HistoryRecord where
  timestamp := row.timestamp.toInt
  pump1 := row.pump1Cmd.toInt
  pump1Status := row.pump1Status.toInt
  pump2 := row.pump2Cmd.toInt
  pump2Status := row.pump2Status.toInt
  busy := row.busy.toInt
  alarm := row.alarm.toInt

theorem ofJson_rowJson (row : SnapshotRow) : HistoryRecord.ofJson (rowJson row) = some row.record := by
  rfl

theorem mapM_ofJson (rows : List SnapshotRow) :
    (rows.map rowJson).mapM HistoryRecord.ofJson = some (rows.map SnapshotRow.record) := by
  induction rows with
  | nil => rfl
  | cons row rest ih =>
    rw [List.map_cons, List.mapM_cons, ofJson_rowJson, ih]
    rfl

theorem readHistory_historyAnswer (kept : List SnapshotRow) :
    readHistory (historyAnswer (cursorOf kept)) =
      .json (.records kept.length (kept.map SnapshotRow.record)) := by
  unfold readHistory
  rw [denotes_historyAnswer]
  show HistoryAnswer.ofJson _ = _
  unfold HistoryAnswer.ofJson
  have count : (Json.obj [(ascii "count", .num kept.length 0),
      (ascii "data", .arr (kept.map rowJson))]).member? (ascii "count") =
        some (.num kept.length 0) := rfl
  have data : (Json.obj [(ascii "count", .num kept.length 0),
      (ascii "data", .arr (kept.map rowJson))]).member? (ascii "data") =
        some (.arr (kept.map rowJson)) := rfl
  rw [count, data]
  simp only [mapM_ofJson]
  rfl

/-- The records of a prepared query are the rows the loop has written. -/
theorem readHistory_of_kept {sqlite : Sqlite} {table : List SnapshotRow}
    {arguments : List (String × Option (List UInt8))} {kept : List SnapshotRow}
    (loop : Kept (selectedRows sqlite (queryParams arguments) table) kept) :
    readHistory (handlePumpHistory sqlite true (some table) arguments) =
      .json (.records kept.length (kept.map SnapshotRow.record)) := by
  unfold handlePumpHistory
  dsimp only
  rw [dbGetHistoryFiltered_eq sqlite table _ _ _ loop]
  exact readHistory_historyAnswer kept

/-- **What the page reads out of an answer.** -/
theorem readHistory_handlePumpHistory (sqlite : Sqlite) (prepared : Bool)
    (db : Option (List SnapshotRow)) (arguments : List (String × Option (List UInt8))) :
    readHistory (handlePumpHistory sqlite prepared db arguments) = .json .error ∨
      ∃ table kept, db = some table ∧
        kept <+: selectedRows sqlite (queryParams arguments) table ∧
        readHistory (handlePumpHistory sqlite prepared db arguments) =
          .json (.records kept.length (kept.map SnapshotRow.record)) := by
  have failed : readHistory (ascii "\x7b\"error\":\"Database failed\"\x7d") = .json .error := by
    decide +kernel
  cases db with
  | none => exact .inl failed
  | some table =>
    cases prepared with
    | false => exact .inl failed
    | true =>
      obtain ⟨kept, loop⟩ := exists_kept (selectedRows sqlite (queryParams arguments) table)
      exact .inr ⟨table, kept, rfl, loop.isPrefix, readHistory_of_kept loop⟩

/-- A selected row is one of the table, in bounds. -/
theorem of_mem_selectedRows {sqlite : Sqlite} {params : QueryParams} {table : List SnapshotRow}
    {row : SnapshotRow} (member : row ∈ selectedRows sqlite params table) :
    row ∈ table ∧ InBounds (historyFrom params) (historyTo params) row := by
  rw [selectedRows, rows_eq] at member
  have ordered := (limited_isInitial _ _).subset member
  obtain ⟨inTable, inBounds⟩ := List.mem_filter.mp ((sqlite.perm _).mem_iff.mp ordered)
  exact ⟨inTable, of_decide_eq_true inBounds⟩

/-- **A record of an answer is a row of the table**, in the bounds of the request. -/
theorem exists_row_of_readHistory {sqlite : Sqlite} {prepared : Bool} {db : Option (List SnapshotRow)}
    {arguments : List (String × Option (List UInt8))} {count : ℕ} {data : List HistoryRecord}
    (read : readHistory (handlePumpHistory sqlite prepared db arguments) = .json (.records count data))
    {record : HistoryRecord} (member : record ∈ data) :
    ∃ table row, db = some table ∧ row ∈ table ∧ record = row.record ∧
      InBounds (historyFrom (queryParams arguments)) (historyTo (queryParams arguments)) row := by
  rcases readHistory_handlePumpHistory sqlite prepared db arguments with
    failed | ⟨table, kept, isSome, isPrefix, answer⟩
  · rw [failed] at read
    cases read
  · rw [answer] at read
    cases read
    obtain ⟨row, inKept, rfl⟩ := List.mem_map.mp member
    obtain ⟨inTable, inBounds⟩ := of_mem_selectedRows (isPrefix.subset inKept)
    exact ⟨table, row, isSome, inTable, rfl, inBounds⟩

theorem Kept.ne_nil {rows kept : List SnapshotRow} (loop : Kept rows kept) (nonempty : rows ≠ []) :
    kept ≠ [] := by
  rintro rfl
  rcases loop.stopped with complete | full
  · exact nonempty complete.symm
  · exact full spacious_nil

/-- **A row in bounds is answered by a record that is at least as new.** -/
theorem exists_newest {sqlite : Sqlite} {table : List SnapshotRow}
    {arguments : List (String × Option (List UInt8))} {row : SnapshotRow} (inTable : row ∈ table)
    (inBounds : InBounds (historyFrom (queryParams arguments)) (historyTo (queryParams arguments)) row) :
    ∃ count data newest, readHistory (handlePumpHistory sqlite true (some table) arguments) =
        .json (.records count data) ∧
      newest ∈ table ∧ newest.record ∈ data ∧ row.timestamp ≤ newest.timestamp := by
  let params := queryParams arguments
  let ordered := sqlite.descending (matchingRows params table)
  have isMatch : row ∈ ordered :=
    (sqlite.perm _).mem_iff.mpr (List.mem_filter.mpr ⟨inTable, decide_eq_true inBounds⟩)
  have range := historyLimit_range params
  have selected : selectedRows sqlite params table =
      ordered.take (historyLimit params).toInt.toNat := by
    rw [← limited_eq_take (historyLimit params) (by omega)]
    exact rows_eq sqlite table _ _ _
  have someRow : selectedRows sqlite params table ≠ [] := by
    rw [selected, Ne, List.take_eq_nil_iff, not_or]
    exact ⟨by omega, List.ne_nil_of_mem isMatch⟩
  obtain ⟨kept, loop⟩ := exists_kept (selectedRows sqlite params table)
  obtain ⟨newest, others, rfl⟩ := List.exists_cons_of_ne_nil (loop.ne_nil someRow)
  have inSelection : newest ∈ selectedRows sqlite params table :=
    loop.isPrefix.subset List.mem_cons_self
  refine ⟨_, _, newest, readHistory_of_kept loop, (of_mem_selectedRows inSelection).1,
    List.mem_map_of_mem List.mem_cons_self, ?_⟩
  -- the first row kept is the first one in order
  have first : newest :: others <+: ordered := by
    refine loop.isPrefix.trans ?_
    rw [selected]
    exact List.take_prefix _ _
  obtain ⟨older, isOrdered⟩ := first
  have sorted := sqlite.sorted (matchingRows params table)
  rw [show sqlite.descending (matchingRows params table) = _ from isOrdered.symm,
    List.cons_append, List.pairwise_cons] at sorted
  rw [← isOrdered, List.cons_append] at isMatch
  rcases List.mem_cons.mp isMatch with rfl | behind
  · exact Int64.le_refl _
  · exact sorted.1 row behind

/-! ### Doubles -/

/-- **Integers of 53 bits are doubles.** -/
theorem toDouble_eq_self {number : ℤ} (small : number.natAbs < 2 ^ 53) : toDouble number = number := by
  have bits : number.natAbs.log2 - 52 = 0 := by
    by_cases zero : number.natAbs = 0
    · rw [zero]
      rfl
    · have few := (Nat.log2_lt zero).mpr small
      omega
  have exact : nearestEven number.natAbs 1 = number.natAbs := by simp [nearestEven, Nat.mod_one]
  unfold toDouble
  dsimp only
  rw [bits, pow_zero, exact, mul_one, Int.sign_mul_natAbs]

theorem toDouble_int32 (number : Int32) : toDouble number.toInt = number.toInt := by
  have low := number.le_toInt
  have high := number.toInt_lt
  exact toDouble_eq_self (by omega)

/-- The record of a row, in the numbers of the page. -/
def SnapshotRow.shown (row : SnapshotRow) : HistoryRecord := row.record.asDoubles

/-- **Only the time may be rounded.** -/
theorem shown_eq (row : SnapshotRow) :
    row.shown = { row.record with timestamp := toDouble row.timestamp.toInt } := by
  unfold SnapshotRow.shown HistoryRecord.asDoubles SnapshotRow.record
  simp only [toDouble_int32]

/-- The records of a prepared query, in the numbers of the page. -/
theorem resJson_of_kept {sqlite : Sqlite} {table : List SnapshotRow}
    {arguments : List (String × Option (List UInt8))} {kept : List SnapshotRow}
    (loop : Kept (selectedRows sqlite (queryParams arguments) table) kept) :
    resJson (handlePumpHistory sqlite true (some table) arguments) =
      .json (.records kept.length (kept.map SnapshotRow.shown)) := by
  have few : kept.length ≤ 5000 := by
    have range := historyLimit_range (queryParams arguments)
    have selected := length_selectedRows sqlite (queryParams arguments) table
    have le := loop.isPrefix.length_le
    omega
  have count : toDouble kept.length = kept.length := toDouble_eq_self (by omega)
  unfold resJson
  rw [readHistory_of_kept loop]
  show Response.json (.records (toDouble kept.length).toNat ((kept.map _).map _)) = _
  rw [count, List.map_map]
  rfl

theorem resJson_failed : resJson (ascii "\x7b\"error\":\"Database failed\"\x7d") = .json .error := by
  decide +kernel

/-- **What the page reads out of an answer**, in its numbers. -/
theorem resJson_handlePumpHistory (sqlite : Sqlite) (prepared : Bool) (table : List SnapshotRow)
    (arguments : List (String × Option (List UInt8))) :
    resJson (handlePumpHistory sqlite prepared (some table) arguments) = .json .error ∨
      ∃ kept, Kept (selectedRows sqlite (queryParams arguments) table) kept ∧
        resJson (handlePumpHistory sqlite prepared (some table) arguments) =
          .json (.records kept.length (kept.map SnapshotRow.shown)) := by
  cases prepared with
  | false => exact .inl resJson_failed
  | true =>
    obtain ⟨kept, loop⟩ := exists_kept (selectedRows sqlite (queryParams arguments) table)
    exact .inr ⟨kept, loop, resJson_of_kept loop⟩

/-! ### What the page looks up in a record -/

/-- The filters have a text for both statuses of the record. -/
def HistoryRecord.Searchable (record : HistoryRecord) : Prop :=
  (statusText record.pump1Status).isSome ∧ (statusText record.pump2Status).isSome

/-- The page has a text for every value of the record that it shows as one. -/
def HistoryRecord.Readable (record : HistoryRecord) : Prop :=
  record.Searchable ∧ (busyText record.busy).isSome

theorem isSome_lookup {texts : List String} {value : ℤ} (low : 0 ≤ value)
    (high : value < texts.length) : (if 0 ≤ value then texts[value.toNat]? else none).isSome := by
  rw [if_pos low, Option.isSome_iff_ne_none, Ne, List.getElem?_eq_none_iff]
  omega

theorem statusText_isSome {status : Int32} (range : 0 ≤ status ∧ status ≤ 3) :
    (statusText status.toInt).isSome := by
  have low : 0 ≤ status.toInt := Int32.le_iff_toInt_le.mp range.1
  have high : status.toInt ≤ 3 := Int32.le_iff_toInt_le.mp range.2
  exact isSome_lookup low (Int.lt_add_one_of_le high)

theorem busyText_isSome {busy : Int32} (range : 0 ≤ busy ∧ busy ≤ 2) : (busyText busy.toInt).isSome := by
  have low : 0 ≤ busy.toInt := Int32.le_iff_toInt_le.mp range.1
  have high : busy.toInt ≤ 2 := Int32.le_iff_toInt_le.mp range.2
  exact isSome_lookup low (Int.lt_add_one_of_le high)

/-- Filtering with a test that never fails. -/
theorem filterM_eq_filter {α : Type} {test : α → Option Bool} {keeps : α → Bool} {data : List α}
    (total : ∀ item ∈ data, test item = some (keeps item)) :
    data.filterM test = some (data.filter keeps) := by
  have aux : ∀ kept, List.filterAuxM test data kept = some ((data.filter keeps).reverse ++ kept) := by
    induction data with
    | nil => exact fun kept => rfl
    | cons item rest ih =>
      intro kept
      obtain ⟨here, later⟩ := List.forall_mem_cons.mp total
      rw [List.filterAuxM, here]
      show List.filterAuxM test rest (cond (keeps item) (item :: kept) kept) = _
      rw [ih later]
      cases keep : keeps item with
      | true => simp [keep]
      | false => simp [keep]
  rw [List.filterM, aux]
  simp

/-- Whether a record that can be searched matches. -/
def matchesTerm (browser : Browser) (term : String) (record : HistoryRecord) : Bool :=
  (matchesSearch browser term record).getD false

theorem matchesSearch_eq (browser : Browser) (term : String) {record : HistoryRecord}
    (searchable : record.Searchable) :
    matchesSearch browser term record = some (matchesTerm browser term record) := by
  obtain ⟨first, isFirst⟩ := Option.isSome_iff_exists.mp searchable.1
  obtain ⟨second, isSecond⟩ := Option.isSome_iff_exists.mp searchable.2
  unfold matchesTerm matchesSearch
  rw [isFirst, isSecond]
  rfl

/-- **The search does not throw on records it has texts for.** -/
theorem searchFilter_eq (browser : Browser) (term : String) {data : List HistoryRecord}
    (searchable : ∀ record ∈ data, record.Searchable) :
    searchFilter browser term data =
      some (data.filter fun record => term = "" ∨ matchesTerm browser term record) := by
  unfold searchFilter
  by_cases empty : term = ""
  · simp [empty]
  · rw [if_neg empty, filterM_eq_filter fun record member =>
      matchesSearch_eq browser term (searchable record member)]
    simp [empty]

end ServerPump
