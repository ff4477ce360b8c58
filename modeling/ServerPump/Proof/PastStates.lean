/-
**The history tells what the state was.**

The rows of `pump_snapshots` keep only the changes among the states the pumps go through, and perhaps a
repetition for a pump that does not exist. So the last row up to a moment has the state of that moment, and
`GET /api/pump/history` with `to` answers with this row first; only rows of one second come in an order
that SQLite chooses.

* `courseRecorded_lifetime`: the snapshots record the course of a lifetime.
* `tellsState_of_records`: the answers of SQLite, for any table that records a course.
* `history_tells_state`: what the page reads in the answer to a request with `to`.
* `snapshots_are_changes`: the table as a whole.
-/

import ServerPump.Library.ChangeLog
import ServerPump.Proof.HistoryRecords
import ServerPump.Proof.Update

namespace ServerPump

open CText ChangeLog Runs

/-! ### The course of a lifetime -/

section Course

variable (jsonC : JsonC)

/-- The updates of a lifetime, in order. -/
def updatesOf (deliveries : List Delivery) : List (Update × UpdateIo) :=
  emitted (handle jsonC)
    (fun server delivery => reports jsonC delivery server.pumps.current.toPumpFields) {} deliveries

/-- The live fields behind an update, and the second of its clock. -/
def stateBehind (side : PumpSide) (report : Update × UpdateIo) : PumpFields × ℤ :=
  ((applyReport side report).current.toPumpFields, report.2.now.toInt)

/-- **The states the pumps go through**: the live fields behind each update, with its time. -/
def courseOf (deliveries : List Delivery) : List (PumpFields × ℤ) :=
  emitted applyReport (fun side report => [stateBehind side report]) {} (updatesOf jsonC deliveries)

/-- The fields at a time, from the start of the server. -/
def stateAt (course : List (PumpFields × ℤ)) (time : ℤ) : PumpFields := valueAt {} course time

end Course

/-- The fields and the time of a row. -/
def SnapshotRow.entry (row : SnapshotRow) : PumpFields × ℤ := (row.fields, row.timestamp.toInt)

/-- The record of some fields, at a time. -/
def PumpFields.recordAt (fields : PumpFields) (time : ℤ) : HistoryRecord where
  timestamp := time
  pump1 := fields.pump1.toInt
  pump1Status := fields.pump1Status.toInt
  pump2 := fields.pump2.toInt
  pump2Status := fields.pump2Status.toInt
  busy := fields.busy.toInt
  alarm := fields.alarm.toInt

/-! ### The law -/

/-- **The law**, for an answer with `from` and `to`. Its first record shows a state of the second it bears,
and from then on until `to` the state is the same. It is that state, unless there are other rows of the
same second; and without any record, the state has not changed since `from`. -/
structure TellsState (course : List (PumpFields × ℤ)) (table : List SnapshotRow) (dateFrom time : ℤ)
    (data : List HistoryRecord) : Prop where
  silent : data = [] → ∀ earlier ≤ time, dateFrom ≤ 0 ∨ dateFrom ≤ earlier + 1 →
    stateAt course earlier = stateAt course time
  shown : ∀ record ∈ data.head?, ∃ fields, (fields, record.timestamp) ∈ course ∧
    record = fields.recordAt record.timestamp ∧ record.timestamp ≤ time ∧
      ∀ later ≤ time, record.timestamp ≤ later → stateAt course later = stateAt course time
  sole : ∀ record ∈ data.head?,
    (∃ row, table.filter (fun row => row.timestamp.toInt = record.timestamp) = [row]) →
      record = (stateAt course time).recordAt record.timestamp

/-! ### The snapshots of a lifetime -/

section Lifetime

variable {jsonC : JsonC}

/-- The snapshots record the course so far, and its last state is live and remembered. -/
structure CourseRecorded (course : List (PumpFields × ℤ)) (side : PumpSide) : Prop where
  records : Records {} course (side.tables.pumpSnapshots.map SnapshotRow.entry)
  live : replay {} (course.map Prod.fst) = side.current.toPumpFields
  remembered : Remembered side

theorem courseRecorded_initial : CourseRecorded [] {} := ⟨.nil, rfl, rfl⟩

/-- **One update**: it is recorded unless it repeats the state. -/
theorem courseRecorded_applyReport {course : List (PumpFields × ℤ)} {side : PumpSide}
    {report : Update × UpdateIo} (succeeds : report.2.Succeeds) (recorded : CourseRecorded course side) :
    CourseRecorded (course ++ [stateBehind side report]) (applyReport side report) := by
  obtain ⟨update, io⟩ := report
  have current := applyUpdate_current io update side
  have snapshots := applyUpdate_pumpSnapshots io update side
  have remembered : side.previous.toPumpFields = side.current.toPumpFields := recorded.remembered
  refine ⟨?_, ?_, remembered_applyUpdate io update recorded.remembered⟩
  · show Records {} _ ((applyUpdate io update side).tables.pumpSnapshots.map SnapshotRow.entry)
    rw [snapshots, stateBehind]
    cases detected : update.detects side.previous.toPumpFields with
    | true =>
      rw [if_pos ⟨rfl, succeeds.2⟩, List.map_append]
      have entry : (snapshotOf (update.write side.current.toPumpFields) io.now).entry =
          stateBehind side (update, io) := by
        rw [stateBehind, applyReport, current]
        rfl
      rw [List.map_singleton, entry]
      exact recorded.records.kept _
    | false =>
      rw [if_neg (by simp), List.append_nil]
      refine recorded.records.skipped _ ?_
      rw [recorded.live]
      show _ = (applyUpdate io update side).current.toPumpFields
      rw [current, write_eq_of_not_detects (remembered ▸ detected)]
  · simp [stateBehind]

theorem succeeds_of_mem_updatesOf {deliveries : List Delivery}
    (succeeds : ∀ delivery ∈ deliveries, delivery.Succeeds) {report : Update × UpdateIo}
    (member : report ∈ updatesOf jsonC deliveries) : report.2.Succeeds := by
  obtain ⟨server, delivery, inside, gave⟩ := exists_of_mem_emitted member
  exact succeeds_of_mem_reports jsonC (succeeds delivery inside) gave

/-- **The snapshots of a lifetime record its course.** -/
theorem courseRecorded_lifetime (jsonC : JsonC) (deliveries : List Delivery)
    (succeeds : ∀ delivery ∈ deliveries, delivery.Succeeds) :
    CourseRecorded (courseOf jsonC deliveries) (run (handle jsonC) {} deliveries).pumps := by
  have pumps : (run (handle jsonC) {} deliveries).pumps =
      run applyReport {} (updatesOf jsonC deliveries) :=
    @run_emitted _ _ _ _ _ _ ServerState.pumps _ (handle_pumps jsonC) {} deliveries
  rw [pumps]
  exact invariant_emitted_of_mem (fun _ _ _ => courseRecorded_applyReport) courseRecorded_initial
    (updatesOf jsonC deliveries) fun _ => succeeds_of_mem_updatesOf succeeds

end Lifetime

/-! ### The answer -/

section Answer

variable {sqlite : Sqlite} {params : QueryParams} {table : List SnapshotRow}

/-- The bounds of a request with `to`, in integers. -/
theorem inBounds_upTo {dateFrom dateTo : Int64} (after : 0 < dateTo) (row : SnapshotRow) :
    InBounds dateFrom dateTo row ↔ (dateFrom.toInt ≤ 0 ∨ dateFrom.toInt ≤ row.timestamp.toInt) ∧
      row.timestamp.toInt ≤ dateTo.toInt := by
  have positive : 0 < dateTo.toInt := Int64.lt_iff_toInt_lt.mp after
  have zero : (0 : Int64).toInt = 0 := rfl
  unfold InBounds
  rw [Int64.le_iff_toInt_le, Int64.le_iff_toInt_le, Int64.le_iff_toInt_le, Int64.le_iff_toInt_le, zero]
  omega

/-- The rows selected are the first ones in order. -/
theorem selectedRows_take (sqlite : Sqlite) (params : QueryParams) (table : List SnapshotRow) :
    selectedRows sqlite params table = (sqlite.descending (matchingRows params table)).take
      (historyLimit params).toInt.toNat := by
  have range := historyLimit_range params
  rw [← limited_eq_take (historyLimit params) (by omega)]
  exact rows_eq sqlite table _ _ _

/-- No row is selected only if there is none in bounds. -/
theorem not_inBounds_of_nil (empty : selectedRows sqlite params table = []) {row : SnapshotRow}
    (inTable : row ∈ table) : ¬ InBounds (historyFrom params) (historyTo params) row := by
  intro inBounds
  have range := historyLimit_range params
  have isMatch : row ∈ sqlite.descending (matchingRows params table) :=
    (sqlite.perm _).mem_iff.mpr (List.mem_filter.mpr ⟨inTable, decide_eq_true inBounds⟩)
  rw [selectedRows_take, List.take_eq_nil_iff] at empty
  rcases empty with none_asked | none_there
  · omega
  · rw [none_there] at isMatch
    cases isMatch

/-- The first row selected is the newest one in bounds. -/
theorem newest_of_cons {newest : SnapshotRow} {others : List SnapshotRow}
    (selected : selectedRows sqlite params table = newest :: others) {row : SnapshotRow}
    (inTable : row ∈ table) (inBounds : InBounds (historyFrom params) (historyTo params) row) :
    row.timestamp ≤ newest.timestamp := by
  have isMatch : row ∈ sqlite.descending (matchingRows params table) :=
    (sqlite.perm _).mem_iff.mpr (List.mem_filter.mpr ⟨inTable, decide_eq_true inBounds⟩)
  have sorted := sqlite.sorted (matchingRows params table)
  obtain ⟨older, split⟩ : newest :: others <+: sqlite.descending (matchingRows params table) := by
    rw [← selected, selectedRows_take]
    exact List.take_prefix _ _
  rw [← split, List.cons_append] at isMatch sorted
  rcases List.mem_cons.mp isMatch with rfl | behind
  · exact Int64.le_refl _
  · exact (List.pairwise_cons.mp sorted).1 row behind

/-- **The answers of SQLite**, for any table that records a course. -/
theorem tellsState_of_records {course : List (PumpFields × ℤ)}
    (records : Records {} course (table.map SnapshotRow.entry))
    (ordered : (course.map Prod.snd).Pairwise (· ≤ ·)) (after : 0 < historyTo params)
    {kept : List SnapshotRow} (loop : Kept (selectedRows sqlite params table) kept) :
    TellsState course table (historyFrom params).toInt (historyTo params).toInt
      (kept.map SnapshotRow.record) := by
  have state : ∀ time, stateAt course time = valueAt {} (table.map SnapshotRow.entry) time :=
    fun time => (valueAt_of_records records ordered time).symm
  -- what is known of the first record
  have first : ∀ record ∈ (kept.map SnapshotRow.record).head?, ∃ newest ∈ table, record = newest.record ∧
      newest.timestamp.toInt ≤ (historyTo params).toInt ∧
      ∀ row ∈ table, row.timestamp.toInt ≤ (historyTo params).toInt →
        row.timestamp.toInt ≤ newest.timestamp.toInt := by
    intro record isFirst
    cases kept with
    | nil => cases isFirst
    | cons newest others =>
      cases isFirst
      obtain ⟨more, selected⟩ := loop.isPrefix
      have inSelection : newest ∈ selectedRows sqlite params table :=
        loop.isPrefix.subset List.mem_cons_self
      obtain ⟨inTable, inBounds⟩ := of_mem_selectedRows inSelection
      have bounds := (inBounds_upTo after newest).mp inBounds
      refine ⟨newest, inTable, rfl, bounds.2, fun row rowIn early => ?_⟩
      by_cases within : InBounds (historyFrom params) (historyTo params) row
      · exact Int64.le_iff_toInt_le.mp (newest_of_cons selected.symm rowIn within)
      · rw [inBounds_upTo after] at within
        omega
  refine ⟨fun empty earlier before since => ?_, fun record isFirst => ?_, fun record isFirst sole => ?_⟩
  · rw [state, state]
    refine valueAt_congr _ before fun entry inside early => ?_
    obtain ⟨row, inTable, rfl⟩ := List.mem_map.mp inside
    have nothing : selectedRows sqlite params table = [] :=
      not_not.mp fun some_there => loop.ne_nil some_there (List.map_eq_nil_iff.mp empty)
    have outside := not_inBounds_of_nil nothing inTable
    have early : row.timestamp.toInt ≤ (historyTo params).toInt := early
    rw [inBounds_upTo after] at outside
    show row.timestamp.toInt ≤ earlier
    omega
  · obtain ⟨newest, inTable, rfl, early, latest⟩ := first record isFirst
    refine ⟨newest.fields, ?_, rfl, early, fun later before behind => ?_⟩
    · exact (sublist_of_records records).subset (List.mem_map_of_mem (f := SnapshotRow.entry) inTable)
    · rw [state, state]
      refine valueAt_congr _ before fun entry inside notLate => ?_
      obtain ⟨row, rowIn, rfl⟩ := List.mem_map.mp inside
      exact (latest row rowIn notLate).trans behind
  · obtain ⟨newest, inTable, rfl, early, latest⟩ := first record isFirst
    obtain ⟨row, alone⟩ := sole
    have sorted := ordered.sublist ((sublist_of_records records).map Prod.snd)
    obtain ⟨last, lastIn, notLate, notBefore, value⟩ :=
      exists_last ({} : PumpFields) (historyTo params).toInt sorted
        (List.mem_map_of_mem (f := SnapshotRow.entry) inTable) early
    obtain ⟨other, otherIn, rfl⟩ := List.mem_map.mp lastIn
    have same : other.timestamp.toInt = newest.timestamp.toInt :=
      le_antisymm (latest other otherIn notLate) notBefore
    have isOther : other ∈ table.filter fun row => row.timestamp.toInt = newest.record.timestamp :=
      List.mem_filter.mpr ⟨otherIn, decide_eq_true same⟩
    have isNewest : newest ∈ table.filter fun row => row.timestamp.toInt = newest.record.timestamp :=
      List.mem_filter.mpr ⟨inTable, decide_eq_true rfl⟩
    rw [alone, List.mem_singleton] at isOther isNewest
    rw [state, value, isOther, ← isNewest]
    rfl

end Answer

/-- **The history tells what the state was**: at any time that a request asks for with `to`, after any
deliveries whose insertions succeed, as long as the clock does not go back. -/
theorem history_tells_state (jsonC : JsonC) (sqlite : Sqlite) (deliveries : List Delivery)
    (succeeds : ∀ delivery ∈ deliveries, delivery.Succeeds)
    (ordered : ((courseOf jsonC deliveries).map Prod.snd).Pairwise (· ≤ ·))
    (arguments : List (String × Option (List UInt8))) (after : 0 < historyTo (queryParams arguments)) :
    ∃ count data,
      readHistory (handlePumpHistory sqlite true
        (some (run (handle jsonC) {} deliveries).pumps.tables.pumpSnapshots) arguments) =
          .json (.records count data) ∧
      TellsState (courseOf jsonC deliveries) (run (handle jsonC) {} deliveries).pumps.tables.pumpSnapshots
        (historyFrom (queryParams arguments)).toInt (historyTo (queryParams arguments)).toInt data := by
  have recorded := courseRecorded_lifetime jsonC deliveries succeeds
  obtain ⟨kept, loop⟩ := exists_kept (selectedRows sqlite (queryParams arguments)
    (run (handle jsonC) {} deliveries).pumps.tables.pumpSnapshots)
  exact ⟨_, _, readHistory_of_kept loop, tellsState_of_records recorded.records ordered after loop⟩

/-- Pump 1 is switched on, and three seconds later it runs. -/
def startedLate : List Delivery :=
  [⟨.mqtt "pump/control" (ascii "\x7b\"pump_id\":1,\"state\":1\x7d"), .at 100⟩,
    ⟨.mqtt "pump/feedback" (ascii "\x7b\"pump_id\":1,\"status\":1,\"busy\":0\x7d"), .at 103⟩]

/-- A request for the time in between. -/
def askedBetween : List (String × Option (List UInt8)) := [("to", some (ascii "102"))]

theorem history_tells_startedLate :
    ((∀ delivery ∈ startedLate, delivery.Succeeds) ∧
      ((courseOf JsonC.reference startedLate).map Prod.snd).Pairwise (· ≤ ·) ∧
        0 < historyTo (queryParams askedBetween)) ∧
    ∃ count data,
      readHistory (handlePumpHistory Sqlite.stable true
        (some (run (handle JsonC.reference) {} startedLate).pumps.tables.pumpSnapshots) askedBetween) =
          .json (.records count data) ∧
      TellsState (courseOf JsonC.reference startedLate)
        (run (handle JsonC.reference) {} startedLate).pumps.tables.pumpSnapshots
        (historyFrom (queryParams askedBetween)).toInt (historyTo (queryParams askedBetween)).toInt data := by
  have succeeds : ∀ delivery ∈ startedLate, delivery.Succeeds := by decide
  have ordered : ((courseOf JsonC.reference startedLate).map Prod.snd).Pairwise (· ≤ ·) := by decide +kernel
  have after : 0 < historyTo (queryParams askedBetween) := by decide +kernel
  exact ⟨⟨succeeds, ordered, after⟩,
    history_tells_state JsonC.reference Sqlite.stable startedLate succeeds ordered askedBetween after⟩

/-- **The snapshots are the changes of the state**, in any lifetime whose insertions succeed: without its
repetitions, the table is the course without its own. -/
theorem snapshots_are_changes (jsonC : JsonC) (deliveries : List Delivery)
    (succeeds : ∀ delivery ∈ deliveries, delivery.Succeeds) :
    changes {} ((run (handle jsonC) {} deliveries).pumps.tables.pumpSnapshots.map SnapshotRow.fields) =
      changes {} ((courseOf jsonC deliveries).map Prod.fst) := by
  have recorded := courseRecorded_lifetime jsonC deliveries succeeds
  have same := changes_of_records recorded.records
  rwa [List.map_map] at same

theorem snapshots_are_changes_startedLate :
    (∀ delivery ∈ startedLate, delivery.Succeeds) ∧
    changes {} ((run (handle JsonC.reference) {} startedLate).pumps.tables.pumpSnapshots.map
        SnapshotRow.fields) =
      changes {} ((courseOf JsonC.reference startedLate).map Prod.fst) := by
  have succeeds : ∀ delivery ∈ startedLate, delivery.Succeeds := by decide
  exact ⟨succeeds, snapshots_are_changes JsonC.reference startedLate succeeds⟩

end ServerPump
