/-
**The command log: any integer passes.**

`PumpStatus` documents a command as 0 or 1, and every consumer prints it as ON or OFF, but nothing on
the control path looks at the value. A state of 5 is stored, and logged as a change behind an ON.

* `documented_handle_iff`: what one delivery does to the law that the live commands are 0 or 1 and
  those in the rows of a pump alternate between 1 and 0.
* `commands_documented_iff`: the law holds throughout a run exactly if each command is 0 or 1 and no
  row repeats the one before it; where all insertions succeed, exactly if each command is 0 or 1.
* `undocumented_command`: a state of 5.
-/

import ServerPump.Proof.Restart

namespace ServerPump

open ChangeLog CText

/-- OFF or ON. -/
def IsSwitch (state : Int32) : Prop := state = 0 ∨ state = 1

instance : DecidablePred IsSwitch := fun state =>
  inferInstanceAs (Decidable (state = 0 ∨ state = 1))

/-- **The law**: the live commands are in the documented domain, and the commands in the rows of a
pump alternate 1, 0, 1, and so on. -/
structure CommandsDocumented (side : PumpSide) : Prop where
  live : ∀ pump : Pump, IsSwitch (side.current.commandOf pump.id)
  rows : ∀ pump : Pump, Alternates 0 1 (valuesOf pump (Table.commands.rows side.tables))

section Deliveries

variable (jsonC : JsonC)

/-- The pump id and the state of a control message. -/
def reportedCommand (delivery : Delivery) : Option (Int32 × Int32) :=
  match delivery.input with
  | .mqtt topicName payload =>
    if topicName = "pump/control" then do
      let parsed ← jsonC.tokenerParse (mqttPayload payload)
      let pumpId ← jsonC.objectGetEx parsed "pump_id"
      let state ← jsonC.objectGetEx parsed "state"
      return (jsonC.getInt pumpId, jsonC.getInt state)
    else none
  | .feedbackPost _ => none

/-- A delivery that keeps the law: a command for a pump is 0 or 1, and if it is found to be a change
and its row is inserted, the newest row of the pump has another one. -/
def DocumentedCommand (server : ServerState) (delivery : Delivery) : Prop :=
  ∀ (pump : Pump) (state : Int32), reportedCommand jsonC delivery = some (pump.id, state) →
    IsSwitch state ∧
      (server.pumps.previous.commandOf pump.id ≠ state → delivery.io.report.rowInserted →
        newestValue .commands pump server.pumps.tables ≠ state)

/-- Each command the delivery reports for a pump is 0 or 1. -/
def SwitchesOnly (delivery : Delivery) : Prop :=
  ∀ (pump : Pump) (state : Int32), reportedCommand jsonC delivery = some (pump.id, state) →
    IsSwitch state

/-! ### What a delivery does to the commands -/

theorem handle_command {delivery : Delivery} {pumpId state : Int32}
    (reported : reportedCommand jsonC delivery = some (pumpId, state)) (server : ServerState) :
    (handle jsonC server delivery).pumps =
      applyUpdate delivery.io.report (.command pumpId state) server.pumps := by
  obtain ⟨input, io⟩ := delivery
  cases input with
  | feedbackPost payload => cases reported
  | mqtt topicName payload =>
    unfold reportedCommand at reported
    dsimp only at reported
    split at reported
    · rename_i control
      subst control
      obtain ⟨parsed, parses, reported⟩ := Option.bind_eq_some_iff.mp reported
      obtain ⟨pumpIdValue, hasPumpId, reported⟩ := Option.bind_eq_some_iff.mp reported
      obtain ⟨stateValue, hasState, reported⟩ := Option.bind_eq_some_iff.mp reported
      cases reported
      rw [← updatePumpStatus_eq]
      show pumpControl jsonC io.report (mqttPayload payload) server.pumps = _
      unfold pumpControl
      rw [parses]
      dsimp only
      rw [hasPumpId, hasState]
    · cases reported

/-- The update is no command. -/
def NoCommand (report : Update × UpdateIo) : Prop := ∀ pumpId state, report.1 ≠ .command pumpId state

theorem noCommand_postReports (io : UpdateIo) (payload : List UInt8) :
    ∀ report ∈ postReports jsonC io payload, NoCommand report := by
  rcases postReports_cases jsonC io payload with nothing | ⟨pumpId, status, one⟩
  · rw [nothing]
    exact nofun
  · rw [one]
    exact List.forall_mem_singleton.mpr fun _ _ => nofun

theorem noCommand_feedbackReports (io : MessageIo) (payload : List UInt8) (fields : PumpFields) :
    ∀ report ∈ feedbackReports jsonC io payload fields, NoCommand report := by
  unfold feedbackReports
  split
  · exact nofun
  · rename_i parsed _
    refine List.forall_mem_append.mpr ⟨?_, ?_⟩
    · rcases statusReports_cases jsonC io.report parsed with nothing | ⟨pumpId, status, one⟩
      · rw [nothing]
        exact nofun
      · rw [one]
        exact List.forall_mem_singleton.mpr fun _ _ => nofun
    · rcases systemReports_cases jsonC io.system parsed fields with nothing | ⟨busy, alarm, one⟩
      · rw [nothing]
        exact nofun
      · rw [one]
        exact List.forall_mem_singleton.mpr fun _ _ => nofun

/-- A delivery that reports no command makes no update but feedbacks and system statuses. -/
theorem noCommand_of_mem_reports {delivery : Delivery} (silent : reportedCommand jsonC delivery = none)
    (fields : PumpFields) : ∀ report ∈ reports jsonC delivery fields, NoCommand report := by
  obtain ⟨input, io⟩ := delivery
  cases input with
  | feedbackPost payload => exact noCommand_postReports jsonC io.report payload
  | mqtt topicName payload =>
    unfold reportedCommand at silent
    unfold reports
    dsimp only at silent ⊢
    split
    · exact nofun
    · split
      · rename_i control
        rw [if_pos control] at silent
        unfold controlReports
        split
        · exact nofun
        · rename_i parsed parses
          split
          · rename_i hasPumpId hasState
            simp [parses, hasPumpId, hasState] at silent
          · exact nofun
      · split
        · exact noCommand_feedbackReports jsonC io _ fields
        · exact nofun

/-- The commands of two states of the pumps are the same, live and in the rows. -/
def SameCommands (before after : PumpSide) : Prop :=
  (∀ pump : Pump, after.current.commandOf pump.id = before.current.commandOf pump.id) ∧
    Table.commands.rows after.tables = Table.commands.rows before.tables

theorem sameCommands_applyReport {report : Update × UpdateIo} (noCommand : NoCommand report)
    (side : PumpSide) : SameCommands side (applyReport side report) := by
  obtain ⟨update, io⟩ := report
  unfold applyReport
  refine ⟨fun pump => ?_, ?_⟩
  · rw [applyUpdate_current]
    refine (valueOf_write update side.current.toPumpFields .commands pump).trans ?_
    cases update with
    | command pumpId state => exact absurd rfl (noCommand pumpId state)
    | feedback pumpId status => rfl
    | system busy alarm => rfl
  · rw [rows_applyUpdate]
    cases update with
    | command pumpId state => exact absurd rfl (noCommand pumpId state)
    | feedback pumpId status => exact List.append_nil _
    | system busy alarm => exact List.append_nil _

theorem sameCommands_handle {delivery : Delivery} (silent : reportedCommand jsonC delivery = none)
    (server : ServerState) : SameCommands server.pumps (handle jsonC server delivery).pumps := by
  rw [handle_pumps]
  have kept : ∀ (side : PumpSide) (report : Update × UpdateIo), NoCommand report →
      SameCommands server.pumps side → SameCommands server.pumps (applyReport side report) := by
    intro side report noCommand same
    have next := sameCommands_applyReport noCommand side
    exact ⟨fun pump => (next.1 pump).trans (same.1 pump), next.2.trans same.2⟩
  exact Runs.invariant_run_of_mem kept ⟨fun _ => rfl, rfl⟩ _
    (noCommand_of_mem_reports jsonC silent server.pumps.current.toPumpFields)

theorem documented_of_sameCommands {before after : PumpSide} (same : SameCommands before after)
    (documented : CommandsDocumented before) : CommandsDocumented after := by
  refine ⟨fun pump => ?_, fun pump => ?_⟩
  · rw [same.1]
    exact documented.live pump
  · rw [same.2]
    exact documented.rows pump

/-! ### The law -/

theorem command_live (io : UpdateIo) (pumpId state : Int32) (side : PumpSide) (pump : Pump) :
    (applyUpdate io (.command pumpId state) side).current.commandOf pump.id =
      if pumpId = pump.id then state else side.current.commandOf pump.id := by
  rw [applyUpdate_current]
  refine (valueOf_write (.command pumpId state) side.current.toPumpFields .commands pump).trans ?_
  show (if Table.commands = .commands ∧ pumpId = pump.id then state else _) = _
  simp only [true_and]
  rfl

theorem command_rows (io : UpdateIo) (pumpId state : Int32) (side : PumpSide) (pump : Pump) :
    valuesOf pump (Table.commands.rows (applyUpdate io (.command pumpId state) side).tables) =
      valuesOf pump (Table.commands.rows side.tables) ++
        if pumpId = pump.id ∧ side.previous.commandOf pump.id ≠ state ∧ io.rowInserted then [state]
        else [] := by
  rw [rows_applyUpdate, valuesOf_append]
  congr 1
  show valuesOf pump (if Table.commands = .commands ∧ side.previous.commandOf pumpId ≠ state ∧
    io.rowInserted then [(pumpId, state)] else []) = _
  simp only [true_and]
  by_cases named : pumpId = pump.id
  · subst named
    simp only [true_and]
    split
    · simp [valuesOf]
    · rfl
  · have unnamed : ¬ (pumpId = pump.id ∧ side.previous.commandOf pump.id ≠ state ∧ io.rowInserted) :=
      fun all => named all.1
    rw [if_neg unnamed]
    split
    · simp [valuesOf, named]
    · rfl

/-- **A delivery keeps the law exactly if it is documented.** -/
theorem documented_handle_iff {server : ServerState} (delivery : Delivery)
    (documented : CommandsDocumented server.pumps) :
    CommandsDocumented (handle jsonC server delivery).pumps ↔
      DocumentedCommand jsonC server delivery := by
  have apart : (0 : Int32) ≠ 1 := by decide
  cases reported : reportedCommand jsonC delivery with
  | none =>
    have same := sameCommands_handle jsonC reported server
    refine iff_of_true (documented_of_sameCommands same documented) fun pump state isReported => ?_
    rw [reported] at isReported
    cases isReported
  | some command =>
    obtain ⟨pumpId, state⟩ := command
    rw [handle_command jsonC reported]
    constructor
    · intro after pump _ isReported
      obtain ⟨rfl, rfl⟩ := Prod.mk.inj (Option.some.inj (reported.symm.trans isReported))
      have switch : IsSwitch state := by
        have live := after.live pump
        rw [command_live, if_pos rfl] at live
        exact live
      refine ⟨switch, fun differs inserted => ?_⟩
      have alternates := after.rows pump
      rw [command_rows, if_pos ⟨rfl, differs, inserted⟩] at alternates
      exact (alternates_concat_iff apart (documented.rows pump) switch).mp alternates
    · intro guard
      refine ⟨fun pump => ?_, fun pump => ?_⟩
      · rw [command_live]
        split
        · rename_i named
          subst named
          exact (guard pump state reported).1
        · exact documented.live pump
      · rw [command_rows]
        split
        · rename_i logged
          obtain ⟨rfl, differs, inserted⟩ := logged
          obtain ⟨switch, isChange⟩ := guard pump state reported
          exact (alternates_concat_iff apart (documented.rows pump) switch).mpr (isChange differs inserted)
        · rw [List.append_nil]
          exact documented.rows pump

theorem documented_initial : CommandsDocumented {} where
  live pump := by cases pump <;> exact .inl rfl
  rows pump := by cases pump <;> exact alternates_nil

/-- The newest row of a pump is what the change detector compares with. -/
def DetectorCurrent (side : PumpSide) : Prop :=
  ∀ pump : Pump, newestValue .commands pump side.tables = side.previous.commandOf pump.id

theorem detectorCurrent_of_follows {side : PumpSide} {ledger : Ledger} (follows : Follows side ledger) :
    DetectorCurrent side := by
  intro pump
  rw [newestValue, follows.values, follows.previous]
  exact (valueOf_id .commands ledger pump).symm

/-- **The commands stay documented throughout a run exactly if each is 0 or 1 and no row repeats the one
before it.** Where every insertion succeeds, no row does. -/
theorem commands_documented_iff (deliveries : List Delivery) :
    (Runs.Always (handle jsonC) (fun server => CommandsDocumented server.pumps) {} deliveries ↔
      Runs.Guarded (handle jsonC) (DocumentedCommand jsonC) {} deliveries) ∧
    ((∀ delivery ∈ deliveries, delivery.Succeeds) →
      (Runs.Always (handle jsonC) (fun server => CommandsDocumented server.pumps) {} deliveries ↔
        ∀ delivery ∈ deliveries, SwitchesOnly jsonC delivery)) := by
  have exactly : Runs.Always (handle jsonC) (fun server => CommandsDocumented server.pumps) {}
      deliveries ↔ Runs.Guarded (handle jsonC) (DocumentedCommand jsonC) {} deliveries := by
    have trivially : ∀ (server : ServerState) (delivery : Delivery), True → True :=
      fun _ _ => id
    exact Runs.always_iff_guarded trivially
      (fun _ delivery _ documented => documented_handle_iff jsonC delivery documented) trivial
      documented_initial deliveries
  refine ⟨exactly, fun succeeds => exactly.trans ?_⟩
  have kept : ∀ (server : ServerState) (delivery : Delivery), delivery.Succeeds →
      (∃ ledger, Follows server.pumps ledger) →
        ∃ ledger, Follows (handle jsonC server delivery).pumps ledger :=
    fun server delivery succeeds ⟨ledger, follows⟩ =>
      ⟨_, follows_handle jsonC server ledger delivery succeeds follows⟩
  have agree : ∀ (server : ServerState) (delivery : Delivery),
      (∃ ledger, Follows server.pumps ledger) → delivery.Succeeds →
        (DocumentedCommand jsonC server delivery ↔ SwitchesOnly jsonC delivery) := by
    rintro server delivery ⟨ledger, follows⟩ -
    refine forall₃_congr fun pump state _ => and_iff_left fun differs _ => ?_
    rw [detectorCurrent_of_follows follows pump]
    exact differs
  exact (Runs.guarded_congr kept agree ⟨Ledger.empty, follows_empty⟩ succeeds).trans
    Runs.guarded_iff_forall

end Deliveries

/-- A command that is neither ON nor OFF. -/
def switchToFive : List Delivery :=
  [⟨.mqtt "pump/control" (ascii "\x7b\"pump_id\":1,\"state\":1\x7d"), .at 100⟩,
    ⟨.mqtt "pump/control" (ascii "\x7b\"pump_id\":1,\"state\":5\x7d"), .at 101⟩]

theorem commands_documented_switchToFive :
    ((∀ delivery ∈ switchToFive, delivery.Succeeds) ∧
      (Runs.Always (handle JsonC.reference) (fun server => CommandsDocumented server.pumps) {}
          switchToFive ↔
        ∀ delivery ∈ switchToFive, SwitchesOnly JsonC.reference delivery)) := by
  have succeeds : ∀ delivery ∈ switchToFive, delivery.Succeeds := by decide
  exact ⟨succeeds, (commands_documented_iff JsonC.reference switchToFive).2 succeeds⟩

/-- After a state of 5 the live command is 5, and the row behind the 1 is another 5. -/
theorem undocumented_command :
    ¬ ∀ deliveries : List Delivery, (∀ delivery ∈ deliveries, delivery.Succeeds) →
      Runs.Always (handle JsonC.reference) (fun server => CommandsDocumented server.pumps) {}
        deliveries := by
  intro always
  have documented := Runs.always_iff.mp (always switchToFive (by decide)) _ List.prefix_rfl
  exact absurd (documented.live .one) (by decide +kernel)

end ServerPump
