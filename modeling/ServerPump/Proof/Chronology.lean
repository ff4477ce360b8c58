/-
**Rows are written in the order of their times.**

A row carries the live time at its insertion, which the other thread may have set in the meantime, so
it is not the time of its own update. A thread that inserts is inside a change branch, and it entered
the branch through a locked section that set the live time in this lifetime: the live time is then a
reading of the clock no earlier than that of any row.

* `timely_occur`: the invariant. The times in the tables are sorted and were read from the clock, and
  while a thread is inside a branch the live time is one of the readings and bounds them.
* `listed_newestFirst`: SQLite's order of a sorted table is the reversed table, up to rows of one second.
* `rows_chronological`: the tables are sorted in every run, across restarts, and a history without
  bounds is a prefix of the rows written last.
-/

import ServerPump.Proof.History
import ServerPump.Proof.Linearization

namespace ServerPump

open CText

/-- The tables of the pumps whose rows carry a time. -/
inductive Record
  | commands
  | feedback
  | snapshots

/-- The times of a table, in the order of the ids. -/
def Record.times (tables : PumpTables) : Record → List Int64
  | commands => tables.pumpCommands.map CommandRow.timestamp
  | feedback => tables.pumpFeedback.map FeedbackRow.timestamp
  | snapshots => tables.pumpSnapshots.map SnapshotRow.timestamp

/-- **The law**: in each table the times are non-decreasing in the id. -/
def Chronological (tables : PumpTables) : Prop :=
  ∀ record : Record, (record.times tables).Pairwise (· ≤ ·)

/-- The reading of the clock at a step. -/
def Occurrence.clock? : Occurrence → Option Int64
  | .turn ⟨.step _ now, _⟩ => some now
  | _ => none

/-! ### The invariant -/

/-- The invariant, with the readings of the clock so far. -/
structure Timely (machine : Machine) (clocks : List Int64) : Prop where
  sorted : Chronological machine.side.tables
  readings : ∀ record : Record, ∀ time ∈ record.times machine.side.tables, time ∈ clocks
  inside : ∀ thread, (machine.threads thread).inside ≠ none →
    machine.side.current.timestamp ∈ clocks ∧
      ∀ record : Record, ∀ time ∈ record.times machine.side.tables,
        time ≤ machine.side.current.timestamp

theorem timely_initial : Timely {} [] where
  sorted record := by cases record <;> exact .nil
  readings record := by cases record <;> exact nofun
  inside _ busy := absurd rfl busy

/-- One step adds to a table only rows with the live time. -/
theorem times_logged {status : PumpStatus} {before after : PumpTables}
    (logged : Logged status before after) (record : Record) :
    ∃ added, record.times after = record.times before ++ added ∧
      ∀ time ∈ added, time = status.timestamp := by
  cases record with
  | commands =>
    obtain ⟨rows, gained, same⟩ := logged.commands
    refine ⟨rows.map CommandRow.timestamp, ?_, List.forall_mem_map.mpr same⟩
    rw [Record.times, gained, List.map_append]
    rfl
  | feedback =>
    obtain ⟨rows, gained, same⟩ := logged.feedback
    refine ⟨rows.map FeedbackRow.timestamp, ?_, List.forall_mem_map.mpr same⟩
    rw [Record.times, gained, List.map_append]
    rfl
  | snapshots =>
    obtain ⟨rows, gained, same⟩ := logged.snapshots
    refine ⟨rows.map SnapshotRow.timestamp, ?_, List.forall_mem_map.mpr fun row member => ?_⟩
    · rw [Record.times, gained, List.map_append]
      rfl
    · rw [same row member]
      rfl

section Steps

variable {machine : Machine} {clocks : List Int64}

/-- The threads move on outside their branches, and nothing is written. -/
theorem timely_become (timely : Timely machine clocks) (thread : Thread) (calls : List Call) :
    Timely (machine.become thread machine.side ⟨none, calls⟩) clocks := by
  refine ⟨timely.sorted, timely.readings, fun any busy => ?_⟩
  rcases eq_or_eq_other any thread with rfl | rfl
  · rw [Machine.become_self] at busy
    exact absurd rfl busy
  · rw [Machine.become_other] at busy
    exact timely.inside _ busy

/-- A step inside a branch: the new rows carry the live time, the latest of all. -/
theorem timely_inside (timely : Timely machine clocks) {thread : Thread} {side : PumpSide}
    (state : ThreadState) (busy : (machine.threads thread).inside ≠ none)
    (current : side.current = machine.side.current)
    (logged : Logged machine.side.current machine.side.tables side.tables) :
    Timely (machine.become thread side state) clocks := by
  obtain ⟨read, latest⟩ := timely.inside thread busy
  have atMost : ∀ record : Record, ∀ time ∈ record.times side.tables,
      time ≤ machine.side.current.timestamp := by
    intro record time member
    obtain ⟨added, gained, same⟩ := times_logged logged record
    rw [gained] at member
    rcases List.mem_append.mp member with old | new
    · exact latest record time old
    · rw [same time new]
      exact Int64.le_refl _
  refine ⟨fun record => ?_, fun record time member => ?_, fun _ _ => ?_⟩
  · obtain ⟨added, gained, same⟩ := times_logged logged record
    rw [Machine.become_side, gained]
    refine List.pairwise_append.mpr ⟨timely.sorted record, ?_, fun old member new isNew => ?_⟩
    · refine List.pairwise_of_forall_mem_list fun first isFirst second isSecond => ?_
      rw [same first isFirst, same second isSecond]
      exact Int64.le_refl _
    · rw [same new isNew]
      exact latest record old member
  · obtain ⟨added, gained, same⟩ := times_logged logged record
    rw [Machine.become_side, gained] at member
    rcases List.mem_append.mp member with old | new
    · exact timely.readings record time old
    · rw [same time new]
      exact read
  · rw [Machine.become_side, current]
    exact ⟨read, atMost⟩

/-- The first locked section of an update sets the live time to the latest reading. -/
theorem timely_opens (timely : Timely machine clocks) {now : Int64}
    (latest : ∀ time ∈ clocks, time ≤ now) (thread : Thread) (update : Update) (calls : List Call) :
    Timely (machine.openUpdate thread now update calls) (clocks ++ [now]) := by
  have readings : ∀ record : Record, ∀ time ∈ record.times machine.side.tables, time ∈ clocks :=
    timely.readings
  refine ⟨timely.sorted, fun record time member => ?_, fun _ _ => ⟨?_, fun record time member => ?_⟩⟩
  · exact List.mem_append_left _ (readings record time member)
  · exact List.mem_append_right _ (List.mem_singleton_self now)
  · exact latest time (readings record time member)

theorem Timely.later (timely : Timely machine clocks) (more : List Int64) :
    Timely machine (clocks ++ more) where
  sorted := timely.sorted
  readings record time member := List.mem_append_left _ (timely.readings record time member)
  inside thread busy :=
    ⟨List.mem_append_left _ (timely.inside thread busy).1, (timely.inside thread busy).2⟩

/-- **The invariant is kept by every occurrence**, if the clock has not gone back. -/
theorem timely_occur (jsonC : JsonC) (timely : Timely machine clocks) (occurrence : Occurrence)
    (latest : ∀ now ∈ occurrence.clock?, ∀ time ∈ clocks, time ≤ now) :
    Timely (machine.occur jsonC occurrence) (clocks ++ occurrence.clock?.toList) := by
  cases occurrence with
  | restart =>
    have idle : Timely machine.restart clocks :=
      ⟨timely.sorted, timely.readings, fun _ busy => absurd rfl busy⟩
    exact idle.later _
  | turn turn =>
    have moves := moves_turn jsonC machine turn
    show Timely (machine.turn jsonC turn) _
    generalize machine.turn jsonC turn = moved at moves ⊢
    cases moves with
    | take input takes waiting => exact (timely_become timely input.thread _).later _
    | stay takes => exact timely.later _
    | inside thread side branch takes busy current logged =>
      exact (timely_inside timely _ busy current logged).later _
    | opens thread now update calls here => exact timely_opens timely (latest now rfl) thread update calls
    | fills thread busy alarm calls takes here => exact (timely_become timely thread _).later _

theorem timely_run (jsonC : JsonC) (occurrences : List Occurrence) (timely : Timely machine clocks)
    (ordered : (clocks ++ occurrences.filterMap Occurrence.clock?).Pairwise (· ≤ ·)) :
    Timely (Runs.run (Machine.occur jsonC) machine occurrences)
      (clocks ++ occurrences.filterMap Occurrence.clock?) := by
  induction occurrences generalizing machine clocks with
  | nil => exact timely.later _
  | cons occurrence rest ih =>
    have split : (occurrence :: rest).filterMap Occurrence.clock? =
        occurrence.clock?.toList ++ rest.filterMap Occurrence.clock? := by
      rw [List.filterMap_cons]
      cases occurrence.clock? <;> rfl
    rw [split, ← List.append_assoc] at ordered ⊢
    refine ih (timely_occur jsonC timely occurrence fun now isReading time member => ?_) ordered
    refine (List.pairwise_append.mp (List.pairwise_append.mp ordered).1).2.2 time member now ?_
    rw [Option.mem_toList]
    exact isReading

end Steps

/-! ### The newest rows first -/

/-- **SQLite's order of a sorted table** is the reversed table, but for rows of the same second. -/
theorem descending_newestFirst (sqlite : Sqlite) {table : List SnapshotRow}
    (sorted : (table.map SnapshotRow.timestamp).Pairwise (· ≤ ·)) :
    (sqlite.descending table).Perm table.reverse ∧
      (sqlite.descending table).map SnapshotRow.timestamp =
        table.reverse.map SnapshotRow.timestamp := by
  have perm : (sqlite.descending table).Perm table.reverse :=
    (sqlite.perm table).trans (List.reverse_perm table).symm
  refine ⟨perm, ?_⟩
  have listed : ((sqlite.descending table).map SnapshotRow.timestamp).Pairwise fun newer older =>
      older ≤ newer := List.pairwise_map.mpr (sqlite.sorted table)
  have reversed : (table.reverse.map SnapshotRow.timestamp).Pairwise fun newer older =>
      older ≤ newer := by
    rw [List.map_reverse]
    exact List.pairwise_reverse.mpr sorted
  exact (perm.map _).eq_of_pairwise (fun _ _ _ _ older newer => Int64.le_antisymm newer older)
    listed reversed

/-- The request has neither bound. -/
def Unbounded (params : QueryParams) : Prop := params.fromStr = none ∧ params.toStr = none

theorem selectedRows_unbounded (sqlite : Sqlite) {params : QueryParams} (unbounded : Unbounded params)
    (table : List SnapshotRow) :
    selectedRows sqlite params table =
      (sqlite.descending table).take (historyLimit params).toInt.toNat := by
  have noFrom : historyFrom params = 0 := by rw [historyFrom, unbounded.1]
  have noTo : historyTo params = 0 := by rw [historyTo, unbounded.2]
  have all : (table.filter fun row => InBounds 0 0 row) = table := by
    refine List.filter_eq_self.mpr fun row _ => decide_eq_true ?_
    exact ⟨.inl (Int64.le_refl 0), .inl (Int64.le_refl 0)⟩
  rw [selectedRows, rows_eq, noFrom, noTo, all]
  exact limited_eq_take (historyLimit params) (le_trans zero_le_one (historyLimit_range params).1) _

/-- **The times in every table are non-decreasing**, over every interleaving and any number of
restarts; hence a history without bounds, as far as it goes, lists the rows written last first, up to
the order of the rows of one second. -/
theorem rows_chronological (jsonC : JsonC) (occurrences : List Occurrence)
    (ordered : (occurrences.filterMap Occurrence.clock?).Pairwise (· ≤ ·)) :
    let tables := (Runs.run (Machine.occur jsonC) {} occurrences).side.tables
    Chronological tables ∧
      ∀ (sqlite : Sqlite) (arguments : List (String × Option (List UInt8))),
        Unbounded (queryParams arguments) →
        ∃ newestFirst shown : List SnapshotRow,
          newestFirst.Perm tables.pumpSnapshots.reverse ∧
          newestFirst.map SnapshotRow.timestamp =
            tables.pumpSnapshots.reverse.map SnapshotRow.timestamp ∧
          shown <+: newestFirst.take (historyLimit (queryParams arguments)).toInt.toNat ∧
          records (handlePumpHistory sqlite true (some tables.pumpSnapshots) arguments) =
            some (shown.map rowJson) := by
  intro tables
  have sorted : Chronological tables := (timely_run jsonC occurrences timely_initial ordered).sorted
  refine ⟨sorted, fun sqlite arguments unbounded => ?_⟩
  obtain ⟨perm, times⟩ := descending_newestFirst sqlite (sorted .snapshots)
  obtain ⟨shown, loop⟩ := exists_kept (selectedRows sqlite (queryParams arguments) tables.pumpSnapshots)
  refine ⟨_, shown, perm, times, ?_, records_eq sqlite tables.pumpSnapshots arguments loop⟩
  rw [← selectedRows_unbounded sqlite unbounded]
  exact loop.isPrefix

/-- Two processes: the first is stopped between the locked section and the insertions of a POST. -/
def twoLifetimes : List Occurrence :=
  [.turn ⟨.post (ascii "\x7b\"pump_id\":1,\"status\":1\x7d"), true⟩,
    .turn ⟨.message "pump/feedback" (ascii "\x7b\"pump_id\":1,\"status\":2\x7d"), true⟩,
    .turn ⟨.step .http 100, true⟩, .turn ⟨.step .mqtt 101, true⟩, .turn ⟨.step .http 101, true⟩,
    .turn ⟨.step .mqtt 101, false⟩, .turn ⟨.step .mqtt 102, true⟩, .restart,
    .turn ⟨.message "pump/control" (ascii "\x7b\"pump_id\":1,\"state\":1\x7d"), true⟩,
    .turn ⟨.step .mqtt 102, true⟩, .turn ⟨.step .mqtt 103, true⟩, .turn ⟨.step .mqtt 103, true⟩,
    .turn ⟨.step .mqtt 104, true⟩]

theorem rows_twoLifetimes :
    ((twoLifetimes.filterMap Occurrence.clock?).Pairwise (· ≤ ·) ∧ Unbounded (queryParams [])) ∧
      let tables := (Runs.run (Machine.occur JsonC.reference) {} twoLifetimes).side.tables
      Chronological tables ∧
        ∃ newestFirst shown : List SnapshotRow,
          newestFirst.Perm tables.pumpSnapshots.reverse ∧
          newestFirst.map SnapshotRow.timestamp =
            tables.pumpSnapshots.reverse.map SnapshotRow.timestamp ∧
          shown <+: newestFirst.take (historyLimit (queryParams [])).toInt.toNat ∧
          records (handlePumpHistory Sqlite.stable true (some tables.pumpSnapshots) []) =
            some (shown.map rowJson) := by
  have ordered : (twoLifetimes.filterMap Occurrence.clock?).Pairwise (· ≤ ·) := by decide +kernel
  have chronological := rows_chronological JsonC.reference twoLifetimes ordered
  exact ⟨⟨ordered, rfl, rfl⟩, chronological.1, chronological.2 Sqlite.stable [] ⟨rfl, rfl⟩⟩

end ServerPump
