/-
**Failed insertions: the change detector moves on.**

The update functions drop the return values of the insertions and store the previous fields in any
case, so that the detector's memory is the live state in every run, whatever fails (`Remembered`). So a
report that is handled again is no change any more, and the snapshot that failed stays missing
unless something else put the same six values into the newest row.

* `saved` lists, for the updates of a message that change a field, whether their snapshots were
  inserted.
* `recorded_again_iff`: after the message is handled again with every insertion succeeding, the
  newest snapshot carries the live fields exactly if the message is `Recoverable`.
-/

import ServerPump.Proof.Update

namespace ServerPump

open CText

/-! ### What a message saves -/

/-- The update names no pump, and its value is not the one of pump 2 it is compared with. -/
def Update.Relogs (fields : PumpFields) (update : Update) : Prop :=
  match update.entry with
  | some (_, pumpId, _) => Pump.ofId pumpId = none ∧ update.detects fields = true
  | none => False

instance (fields : PumpFields) (update : Update) : Decidable (update.Relogs fields) := by
  unfold Update.Relogs
  split <;> infer_instance

/-- Of the updates that change a field, in order, whether the snapshot was inserted. -/
def saved : PumpFields → List (Update × UpdateIo) → List Bool
  | _, [] => []
  | fields, (update, io) :: rest =>
    if update.write fields = fields then saved fields rest
    else io.snapshotInserted :: saved (update.write fields) rest

/-- The fields the updates lead to. -/
def written (fields : PumpFields) (reported : List (Update × UpdateIo)) : PumpFields :=
  Runs.run (fun fields report => report.1.write fields) fields reported

/-- The message is recorded once it is handled again: it names an unknown pump with a value that is
logged every time, or its last change was saved, or none of its changes was saved but the newest
snapshot had the resulting fields before. -/
def Recoverable (side : PumpSide) (reported : List (Update × UpdateIo)) : Prop :=
  let fields := side.current.toPumpFields
  (∃ report ∈ reported, report.1.Relogs fields) ∨ (saved fields reported).getLast? = some true ∨
    (true ∉ saved fields reported ∧ newestSnapshot side.tables = some (written fields reported))

/-- The newest snapshot carries the live fields. -/
def SnapshotCurrent (side : PumpSide) : Prop :=
  newestSnapshot side.tables = some side.current.toPumpFields

theorem run_current (side : PumpSide) (reported : List (Update × UpdateIo)) :
    (Runs.run applyReport side reported).current.toPumpFields =
      written side.current.toPumpFields reported := by
  induction reported generalizing side with
  | nil => rfl
  | cons report rest ih =>
    rw [Runs.run_cons, ih, applyReport, applyUpdate_current]
    rfl

/-- An update that names a known pump is detected exactly if it changes a field. -/
theorem detects_iff_of_known {update : Update} {table : Table} {pump : Pump} {value : Int32}
    (shape : update.entry = some (table, pump.id, value)) (fields : PumpFields) :
    update.detects fields = true ↔ update.write fields ≠ fields := by
  constructor
  · intro detected same
    have stored := valueOf_write update fields table pump
    rw [shape, same] at stored
    rw [detects_eq_of_entry shape, decide_eq_true_eq] at detected
    exact detected (by simpa using stored)
  · intro changes
    by_contra undetected
    exact changes (write_eq_of_not_detects (Bool.eq_false_iff.mpr undetected))

/-- **An update is detected exactly if it changes a field or relogs.** -/
theorem detects_iff (update : Update) (fields : PumpFields) :
    update.detects fields = true ↔ update.write fields ≠ fields ∨ update.Relogs fields := by
  unfold Update.Relogs
  cases shape : update.entry with
  | none =>
    rw [or_false]
    cases update with
    | command pumpId state => cases shape
    | feedback pumpId status => cases shape
    | system busy alarm =>
      constructor
      · intro detected same
        have values : busy = fields.busy ∧ alarm = fields.alarm :=
          ⟨congrArg PumpFields.busy same, congrArg PumpFields.alarm same⟩
        simp [Update.detects, values] at detected
      · intro changes
        by_contra undetected
        exact changes (write_eq_of_not_detects (Bool.eq_false_iff.mpr undetected))
  | some entry =>
    obtain ⟨table, pumpId, value⟩ := entry
    dsimp only
    cases named : Pump.ofId pumpId with
    | some pump =>
      obtain rfl := ofId_eq_some_iff.mp named
      simpa using detects_iff_of_known shape fields
    | none =>
      simp only [true_and]
      constructor
      · exact Or.inr
      · rintro (changes | detected)
        · by_contra undetected
          exact changes (write_eq_of_not_detects (Bool.eq_false_iff.mpr undetected))
        · exact detected

/-! ### The first handling -/

theorem snapshotCurrent_applyUpdate (io : UpdateIo) (update : Update) {side : PumpSide}
    (remembered : Remembered side) :
    SnapshotCurrent (applyUpdate io update side) ↔
      (update.detects side.current.toPumpFields = true ∧ io.snapshotInserted = true) ∨
        newestSnapshot side.tables = some (update.write side.current.toPumpFields) := by
  unfold SnapshotCurrent
  rw [newestSnapshot_applyUpdate, applyUpdate_current, remembered]
  split
  · rename_i inserted
    simp [inserted]
  · rename_i notInserted
    simp [notInserted]

/-- A quiet update leaves a current snapshot exactly if its change was saved, or it saved none and
the newest snapshot had the resulting fields before. -/
theorem snapshotCurrent_single_iff {side : PumpSide} (remembered : Remembered side)
    {report : Update × UpdateIo} (quiet : ¬ report.1.Relogs side.current.toPumpFields) :
    SnapshotCurrent (Runs.run applyReport side [report]) ↔
      (saved side.current.toPumpFields [report]).getLast? = some true ∨
        (true ∉ saved side.current.toPumpFields [report] ∧
          newestSnapshot side.tables = some (written side.current.toPumpFields [report])) := by
  obtain ⟨update, io⟩ := report
  show SnapshotCurrent (applyUpdate io update side) ↔ _
  rw [snapshotCurrent_applyUpdate io update remembered, detects_iff, or_iff_left quiet]
  show _ ↔ _ ∨ (_ ∧ newestSnapshot side.tables = some (update.write side.current.toPumpFields))
  by_cases same : update.write side.current.toPumpFields = side.current.toPumpFields
  · simp [saved, same]
  · cases inserted : io.snapshotInserted with
    | false => simp [saved, same, inserted]
    | true => simp [saved, same, inserted]

/-- A message that relogs nothing leaves a current snapshot exactly if its last change was saved, or
nothing was saved and the newest snapshot had the resulting fields before. -/
theorem snapshotCurrent_run_iff {side : PumpSide} (remembered : Remembered side)
    {reported : List (Update × UpdateIo)} (shape : PumpThenSystem reported)
    (quiet : ∀ report ∈ reported, ¬ report.1.Relogs side.current.toPumpFields) :
    SnapshotCurrent (Runs.run applyReport side reported) ↔
      (saved side.current.toPumpFields reported).getLast? = some true ∨
        (true ∉ saved side.current.toPumpFields reported ∧
          newestSnapshot side.tables = some (written side.current.toPumpFields reported)) := by
  obtain ⟨pump, system, rfl, names, isSystem⟩ := shape
  have quietSystem : ∀ (report : Update × UpdateIo) (fields : PumpFields), report ∈ system →
      ¬ report.1.Relogs fields := by
    intro report fields member
    obtain ⟨busy, alarm, isSystemUpdate⟩ := isSystem report member
    rw [isSystemUpdate]
    exact id
  cases pump with
  | none =>
    cases system with
    | none => simp [saved, written, SnapshotCurrent]
    | some second => exact snapshotCurrent_single_iff remembered (quietSystem second _ rfl)
  | some first =>
    have quietFirst := quiet first (by simp)
    cases system with
    | none => exact snapshotCurrent_single_iff remembered quietFirst
    | some second =>
      obtain ⟨update, io⟩ := first
      obtain ⟨later, laterIo⟩ := second
      have rememberedFirst := remembered_applyUpdate io update remembered
      have single := snapshotCurrent_single_iff rememberedFirst (quietSystem (later, laterIo) _ rfl)
      have changed : update.detects side.current.toPumpFields = true ↔
          update.write side.current.toPumpFields ≠ side.current.toPumpFields :=
        (detects_iff update _).trans (or_iff_left quietFirst)
      rw [applyUpdate_current, newestSnapshot_applyUpdate, remembered] at single
      simp only [changed] at single
      refine Iff.trans single ?_
      generalize side.current.toPumpFields = fields
      show _ ∨ (_ ∧ _ = some (later.write (update.write fields))) ↔
        _ ∨ (_ ∧ newestSnapshot side.tables = some (later.write (update.write fields)))
      by_cases same : update.write fields = fields
      · simp [saved, same]
      · by_cases sameLater : later.write (update.write fields) = update.write fields
        · cases inserted : io.snapshotInserted with
          | false => simp [saved, same, sameLater, inserted]
          | true => simp [saved, same, sameLater, inserted]
        · have moved : update.write fields ≠ later.write (update.write fields) := Ne.symm sameLater
          cases inserted : io.snapshotInserted with
          | false => simp [saved, same, sameLater, inserted]
          | true => simp [saved, same, sameLater, inserted, moved]

/-! ### The second handling -/

/-- Updates that change no field any more insert a snapshot only if they relog. -/
theorem snapshotCurrent_settled_iff {reported : List (Update × UpdateIo)} {side : PumpSide}
    (remembered : Remembered side) (succeeds : ∀ report ∈ reported, report.2.Succeeds)
    (settled : ∀ report ∈ reported,
      report.1.write side.current.toPumpFields = side.current.toPumpFields) :
    SnapshotCurrent (Runs.run applyReport side reported) ↔
      (∃ report ∈ reported, report.1.Relogs side.current.toPumpFields) ∨ SnapshotCurrent side := by
  induction reported generalizing side with
  | nil => simp
  | cons report rest ih =>
    have settledHere := settled report List.mem_cons_self
    have currentHere : (applyReport side report).current.toPumpFields = side.current.toPumpFields :=
      (applyUpdate_current report.2 report.1 side).trans settledHere
    have rememberedHere : Remembered (applyReport side report) :=
      remembered_applyUpdate report.2 report.1 remembered
    have rest_iff := ih rememberedHere
      (fun other member => succeeds other (List.mem_cons_of_mem _ member))
      (fun other member => by
        rw [currentHere]
        exact settled other (List.mem_cons_of_mem _ member))
    rw [Runs.run_cons, rest_iff, currentHere]
    have here : SnapshotCurrent (applyReport side report) ↔
        report.1.Relogs side.current.toPumpFields ∨ SnapshotCurrent side := by
      have inserted := (succeeds report List.mem_cons_self).2
      refine (snapshotCurrent_applyUpdate report.2 report.1 remembered).trans ?_
      rw [detects_iff, settledHere]
      simp [inserted, SnapshotCurrent]
    rw [here]
    simp only [List.mem_cons, exists_eq_or_imp]
    rw [or_left_comm, or_assoc]

theorem setSystem_comm {update : Update} (names : update.entry ≠ none) (busy alarm : Int32)
    (fields : PumpFields) :
    update.write (fields.setSystem busy alarm) = (update.write fields).setSystem busy alarm := by
  cases update with
  | command pumpId state =>
    simp only [Update.write, PumpFields.setCommand]
    split
    · rfl
    · split <;> rfl
  | feedback pumpId status =>
    simp only [Update.write, PumpFields.setStatus]
    split
    · rfl
    · split <;> rfl
  | system busy alarm => exact absurd rfl names

/-- What a message writes is settled. -/
theorem write_written {reported : List (Update × UpdateIo)} (shape : PumpThenSystem reported)
    (fields : PumpFields) {report : Update × UpdateIo} (member : report ∈ reported) :
    report.1.write (written fields reported) = written fields reported := by
  obtain ⟨pump, system, rfl, names, isSystem⟩ := shape
  cases system with
  | none =>
    cases pump with
    | none => cases member
    | some first =>
      obtain rfl : report = first := by simpa using member
      exact write_write report.1 fields
  | some second =>
    obtain ⟨busy, alarm, isSystemUpdate⟩ := isSystem second rfl
    cases pump with
    | none =>
      obtain rfl : report = second := by simpa using member
      exact write_write report.1 fields
    | some first =>
      show report.1.write (second.1.write (first.1.write fields)) = second.1.write (first.1.write fields)
      rcases List.mem_pair.mp member with rfl | rfl
      · rw [isSystemUpdate]
        show report.1.write (PumpFields.setSystem busy alarm _) = PumpFields.setSystem busy alarm _
        rw [setSystem_comm (names report rfl), write_write]
      · exact write_write report.1 _

theorem relogs_setSystem (update : Update) (busy alarm : Int32) (fields : PumpFields) :
    update.Relogs (fields.setSystem busy alarm) ↔ update.Relogs fields := by
  cases update with
  | command pumpId state => exact Iff.rfl
  | feedback pumpId status => exact Iff.rfl
  | system busy alarm => exact Iff.rfl

/-- An unknown pump has no field to write. -/
theorem write_of_unknown {update : Update} {table : Table} {pumpId value : Int32}
    (shape : update.entry = some (table, pumpId, value)) (unknown : Pump.ofId pumpId = none)
    (fields : PumpFields) : update.write fields = fields := by
  have notFirst : ¬ pumpId = 1 := fun first => by simp [first, Pump.ofId] at unknown
  have notSecond : ¬ pumpId = 2 := fun second => by simp [second, Pump.ofId] at unknown
  cases update with
  | command ownId state =>
    cases shape
    exact (if_neg notFirst).trans (if_neg notSecond)
  | feedback ownId status =>
    cases shape
    exact (if_neg notFirst).trans (if_neg notSecond)
  | system busy alarm => cases shape

theorem relogs_write (update : Update) (fields : PumpFields) :
    update.Relogs (update.write fields) ↔ update.Relogs fields := by
  unfold Update.Relogs
  cases shape : update.entry with
  | none => exact Iff.rfl
  | some entry =>
    obtain ⟨table, pumpId, value⟩ := entry
    refine and_congr_right fun unknown => ?_
    rw [write_of_unknown shape unknown]

/-- A message relogs after it was handled exactly if it did before. -/
theorem relogs_written {reported : List (Update × UpdateIo)} (shape : PumpThenSystem reported)
    (fields : PumpFields) {report : Update × UpdateIo} (member : report ∈ reported) :
    report.1.Relogs (written fields reported) ↔ report.1.Relogs fields := by
  obtain ⟨pump, system, rfl, names, isSystem⟩ := shape
  cases system with
  | none =>
    cases pump with
    | none => cases member
    | some first =>
      obtain rfl : report = first := by simpa using member
      exact relogs_write report.1 fields
  | some second =>
    obtain ⟨busy, alarm, isSystemUpdate⟩ := isSystem second rfl
    cases pump with
    | none =>
      obtain rfl : report = second := by simpa using member
      exact relogs_write report.1 fields
    | some first =>
      show report.1.Relogs (second.1.write (first.1.write fields)) ↔ _
      rcases List.mem_pair.mp member with rfl | rfl
      · rw [isSystemUpdate]
        exact (relogs_setSystem report.1 busy alarm _).trans (relogs_write report.1 fields)
      · rw [isSystemUpdate]
        exact Iff.rfl

/-! ### The message is handled again -/

section Again

variable (jsonC : JsonC)

/-- The environment has no part in what is reported. -/
theorem map_statusReports (io again : UpdateIo) (parsed : jsonC.Value) :
    (statusReports jsonC io parsed).map Prod.fst =
      (statusReports jsonC again parsed).map Prod.fst := by
  unfold statusReports
  split
  · split
    · rfl
    · rfl
  · rfl

theorem map_controlReports (io again : UpdateIo) (payload : List UInt8) :
    (controlReports jsonC io payload).map Prod.fst =
      (controlReports jsonC again payload).map Prod.fst := by
  unfold controlReports
  split
  · rfl
  · split
    · rfl
    · rfl

theorem map_postReports (io again : UpdateIo) (payload : List UInt8) :
    (postReports jsonC io payload).map Prod.fst = (postReports jsonC again payload).map Prod.fst := by
  unfold postReports
  split
  · rfl
  · split
    · rfl
    · rfl

/-- The missing half of a system status is the one the first handling wrote. -/
theorem map_systemReports (io again : UpdateIo) (parsed : jsonC.Value)
    (reported : List (Update × UpdateIo)) (fields : PumpFields) :
    (systemReports jsonC io parsed fields).map Prod.fst =
      (systemReports jsonC again parsed
        (written fields (reported ++ systemReports jsonC io parsed fields))).map Prod.fst := by
  unfold systemReports written
  dsimp only
  rw [Runs.run_append]
  generalize Runs.run _ fields reported = before
  cases newBusy jsonC parsed <;> cases newAlarm jsonC parsed <;> rfl

/-- **A message that is handled again makes the same updates.** -/
theorem map_reports_again (input : Input) (io again : MessageIo) (fields : PumpFields) :
    (reports jsonC ⟨input, io⟩ fields).map Prod.fst =
      (reports jsonC ⟨input, again⟩
        (written fields (reports jsonC ⟨input, io⟩ fields))).map Prod.fst := by
  cases input with
  | feedbackPost payload => exact map_postReports jsonC io.report again.report payload
  | mqtt topicName payload =>
    simp only [reports]
    split
    · rfl
    · split
      · exact map_controlReports jsonC io.report again.report _
      · split
        · unfold feedbackReports
          split
          · rfl
          · rename_i parsed _
            rw [List.map_append, List.map_append,
              map_statusReports jsonC io.report again.report parsed]
            congr 1
            exact map_systemReports jsonC io.system again.system parsed _ fields
        · rfl

/-- **After a second handling that succeeds, the newest snapshot is current exactly if the message
was recoverable.** -/
theorem recorded_again_iff (history : List Delivery) (input : Input) (io again : MessageIo)
    (succeeds : Delivery.Succeeds ⟨input, again⟩) :
    let server := Runs.run (handle jsonC) {} history
    SnapshotCurrent (handle jsonC (handle jsonC server ⟨input, io⟩) ⟨input, again⟩).pumps ↔
      Recoverable server.pumps (reports jsonC ⟨input, io⟩ server.pumps.current.toPumpFields) := by
  intro server
  have kept : ∀ (server : ServerState) (delivery : Delivery), Remembered server.pumps →
      Remembered (handle jsonC server delivery).pumps :=
    fun _ delivery same => remembered_handle jsonC delivery same
  have initial : Remembered ({} : ServerState).pumps := rfl
  have remembered : Remembered server.pumps := Runs.invariant_run kept initial history
  have shape := reports_shape jsonC ⟨input, io⟩ server.pumps.current.toPumpFields
  have sameUpdates := map_reports_again jsonC input io again server.pumps.current.toPumpFields
  have againSucceeds : ∀ fields, ∀ report ∈ reports jsonC ⟨input, again⟩ fields,
      report.2.Succeeds := fun _ _ => succeeds_of_mem_reports jsonC succeeds
  rw [handle_pumps, handle_pumps, run_current]
  unfold Recoverable
  dsimp only
  generalize reports jsonC ⟨input, io⟩ server.pumps.current.toPumpFields = reported at *
  have settled : ∀ report ∈ reports jsonC ⟨input, again⟩
      (written server.pumps.current.toPumpFields reported), ∃ first ∈ reported, first.1 = report.1 := by
    intro report member
    have sameMember := List.mem_map_of_mem (f := Prod.fst) member
    rw [← sameUpdates] at sameMember
    exact List.mem_map.mp sameMember
  have second := snapshotCurrent_settled_iff (remembered_reports remembered reported)
    (againSucceeds (written server.pumps.current.toPumpFields reported)) (by
      intro report member
      obtain ⟨first, firstMember, same⟩ := settled report member
      rw [run_current, ← same]
      exact write_written shape _ firstMember)
  rw [second, run_current]
  have relogs : (∃ report ∈ reports jsonC ⟨input, again⟩
      (written server.pumps.current.toPumpFields reported),
        report.1.Relogs (written server.pumps.current.toPumpFields reported)) ↔
      ∃ report ∈ reported, report.1.Relogs server.pumps.current.toPumpFields := by
    have sameRelogs := congrArg (fun updates => ∃ update ∈ updates,
      Update.Relogs (written server.pumps.current.toPumpFields reported) update) sameUpdates
    simp only [List.mem_map, exists_exists_and_eq_and] at sameRelogs
    rw [← sameRelogs]
    exact exists_congr fun report => and_congr_right fun member => relogs_written shape _ member
  rw [relogs]
  by_cases loud : ∃ report ∈ reported, report.1.Relogs server.pumps.current.toPumpFields
  · exact iff_of_true (.inl loud) (.inl loud)
  · rw [or_iff_right loud, or_iff_right loud]
    exact snapshotCurrent_run_iff remembered shape fun report member relogged =>
      loud ⟨report, member, relogged⟩

end Again

/-- Pump 1 is started; the snapshot may fail. -/
def startMessage : Input := .mqtt "pump/control" (ascii "\x7b\"pump_id\":1,\"state\":1\x7d")

/-- An environment in which the row is inserted but not the snapshot. -/
def snapshotFails (now : Int64) : MessageIo :=
  ⟨{ now := now, snapshotInserted := false }, { now := now, snapshotInserted := false }⟩

theorem recorded_again_start_iff :
    Delivery.Succeeds ⟨startMessage, .at 200⟩ ∧
      (SnapshotCurrent (handle JsonC.reference
          (handle JsonC.reference {} ⟨startMessage, snapshotFails 100⟩) ⟨startMessage, .at 200⟩).pumps ↔
        Recoverable {} (reports JsonC.reference ⟨startMessage, snapshotFails 100⟩ {})) := by
  have succeeds : Delivery.Succeeds ⟨startMessage, .at 200⟩ := by decide
  exact ⟨succeeds,
    recorded_again_iff JsonC.reference [] startMessage (snapshotFails 100) (.at 200) succeeds⟩

/-- The start is missing from the snapshots for good. -/
theorem start_unrecorded :
    ¬ ∀ (history : List Delivery) (input : Input) (io again : MessageIo),
      Delivery.Succeeds ⟨input, again⟩ →
        let server := Runs.run (handle JsonC.reference) {} history
        let fields := server.pumps.current.toPumpFields
        false ∈ saved fields (reports JsonC.reference ⟨input, io⟩ fields) →
          SnapshotCurrent (handle JsonC.reference
            (handle JsonC.reference server ⟨input, io⟩) ⟨input, again⟩).pumps := by
  intro always
  have current := always [] startMessage (snapshotFails 100) (.at 200) (by decide) (by decide +kernel)
  exact absurd current (by unfold SnapshotCurrent; decide +kernel)

end ServerPump
