/-
**Messages for a pump that does not exist.**

No entry point rejects a pump id other than 1 and 2. The two `switch` statements of an update pass
over such an id, but its comparison takes it for pump 2: a value that pump 2 does not have counts as a
change, is logged under the unknown id, and since no previous field is stored it is logged again each
time it comes.

* `command_unknown_iff`, `feedback_unknown_iff`: when the two updates leave what is stored.
* `stored_handle_iff`: the same for a message, through each of the three entry points.
* `unknown_ignored_iff`: messages for unknown pumps leave what is stored, throughout a run, exactly if
  each reports what pump 2 has, or loses its rows.
-/

import ServerPump.Proof.CommandLog
import ServerPump.Proof.EntryPoints

namespace ServerPump

open CText

/-! ### The law -/

/-- What a message may change: the six fields, the ring and the four tables. -/
structure SameStored (before after : ServerState) : Prop where
  fields : after.pumps.current.toPumpFields = before.pumps.current.toPumpFields
  history : after.pumps.history = before.pumps.history
  tables : after.pumps.tables = before.pumps.tables
  gatewayHistory : after.gateway.gatewayHistory = before.gateway.gatewayHistory

/-- Neither row of an update is inserted. -/
def UpdateIo.LosesRows (io : UpdateIo) : Prop := io.rowInserted = false ∧ io.snapshotInserted = false

/-- Neither pump has the id. -/
def NoPump (pumpId : Int32) : Prop := pumpId ≠ 1 ∧ pumpId ≠ 2

instance : DecidablePred NoPump := fun pumpId => inferInstanceAs (Decidable (pumpId ≠ 1 ∧ pumpId ≠ 2))

section Messages

variable (jsonC : JsonC)

/-- The text has neither `busy` nor `alarm`. -/
def StatusOnly (payload : List UInt8) : Prop :=
  ∀ parsed ∈ jsonC.tokenerParse payload,
    jsonC.objectGetEx parsed "busy" = none ∧ jsonC.objectGetEx parsed "alarm" = none

/-- A message with a value for a pump, at each of the three entry points. -/
inductive ForPump (pumpId value : Int32) : Delivery → Prop
  | control {payload : List UInt8} {io : MessageIo}
      (members : reportedCommand jsonC ⟨.mqtt "pump/control" payload, io⟩ = some (pumpId, value)) :
      ForPump pumpId value ⟨.mqtt "pump/control" payload, io⟩
  | feedback {payload : List UInt8} {io : MessageIo}
      (members : reportedStatus jsonC (mqttPayload payload) = some (pumpId, value))
      (only : StatusOnly jsonC (mqttPayload payload)) :
      ForPump pumpId value ⟨.mqtt "pump/feedback" payload, io⟩
  | post {payload : List UInt8} {io : MessageIo}
      (members : reportedStatus jsonC payload = some (pumpId, value)) :
      ForPump pumpId value ⟨.feedbackPost payload, io⟩

/-- **The law**: a message for an unknown pump changes nothing. -/
def UnknownIgnored (server : ServerState) (event : Event) : Prop :=
  ∀ delivery pumpId value, event = .delivery delivery → ForPump jsonC pumpId value delivery →
    NoPump pumpId → SameStored server (serve jsonC server event)

/-- The value is what pump 2 has. A status may also lose its rows, and outside `0..3` it is dropped
as a message and counts as unknown in a POST. -/
def LikePumpTwo (fields : PumpFields) (value : Int32) (delivery : Delivery) : Prop :=
  match delivery.input with
  | .mqtt topicName _ =>
    if topicName = "pump/control" then value = fields.pump2
    else ¬ (0 ≤ value ∧ value ≤ 3) ∨ value = fields.pump2Status ∨ delivery.io.report.LosesRows
  | .feedbackPost _ => validStatus value = fields.pump2Status ∨ delivery.io.report.LosesRows

/-- Each value for an unknown pump is what pump 2 has. -/
def UnknownLikePumpTwo (server : ServerState) (event : Event) : Prop :=
  ∀ delivery pumpId value, event = .delivery delivery → ForPump jsonC pumpId value delivery →
    NoPump pumpId → LikePumpTwo server.pumps.current.toPumpFields value delivery

end Messages

/-! ### The updates of an unknown pump -/

section Updates

variable {pumpId : Int32}

theorem setCommand_unknown (unknown : NoPump pumpId) (state : Int32) (fields : PumpFields) :
    fields.setCommand pumpId state = fields := by
  rw [PumpFields.setCommand, if_neg unknown.1, if_neg unknown.2]

theorem setStatus_unknown (unknown : NoPump pumpId) (status : Int32) (fields : PumpFields) :
    fields.setStatus pumpId status = fields := by
  rw [PumpFields.setStatus, if_neg unknown.1, if_neg unknown.2]

/-- A push moves the index of the ring. -/
theorem addPumpHistory_ne (status : PumpStatus) (side : PumpSide) :
    (addPumpHistory status side).history ≠ side.history := by
  intro same
  have index : (side.history.index + 1) % 100 = side.history.index :=
    congrArg PumpHistory.index same
  omega

/-- What is stored on the side of the pumps. -/
structure SamePumps (before after : PumpSide) : Prop where
  fields : after.current.toPumpFields = before.current.toPumpFields
  history : after.history = before.history
  tables : after.tables = before.tables

/-- **A command for an unknown pump changes nothing exactly if it is the one pump 2 has**; any other
goes into the ring. -/
theorem command_unknown_iff (unknown : NoPump pumpId) (io : UpdateIo) (state : Int32)
    (side : PumpSide) :
    SamePumps side (updatePumpStatus io pumpId state side) ↔ state = side.previous.pump2 := by
  have compared : side.previous.commandOf pumpId = side.previous.pump2 := if_neg unknown.1
  constructor
  · intro same
    by_contra differs
    have pushed : (updatePumpStatus io pumpId state side).history =
        (addPumpHistory (side.stamp io.now (PumpFields.setCommand pumpId state)).current
          side).history := by
      unfold updatePumpStatus
      rw [compared, if_pos (Ne.symm differs)]
      rfl
    exact addPumpHistory_ne _ side (pushed.symm.trans same.history)
  · intro same
    have unchanged : updatePumpStatus io pumpId state side =
        side.stamp io.now (PumpFields.setCommand pumpId state) := by
      unfold updatePumpStatus
      rw [compared, if_neg (not_not.mpr same.symm)]
    rw [unchanged]
    exact ⟨setCommand_unknown unknown state _, rfl, rfl⟩

/-- The tables stay as they are exactly if both rows are lost. -/
theorem losesRows_iff (io : UpdateIo) (pumpId status : Int32) (side : PumpSide) :
    (insertSnapshot io.snapshotInserted (insertFeedback io.rowInserted pumpId status side)).tables =
        side.tables ↔ io.LosesRows := by
  have row : insertFeedback io.rowInserted pumpId status side =
      (Update.feedback pumpId status).insertRow io.rowInserted side := rfl
  constructor
  · intro same
    refine ⟨?_, ?_⟩
    · have rows := congrArg (Table.rows · .feedback) same
      rw [rows_insertSnapshot, row, rows_insertRow] at rows
      simpa [Update.entry] using rows
    · have rows := congrArg PumpTables.pumpSnapshots same
      rw [insertSnapshot_pumpSnapshots, row, insertRow_pumpSnapshots] at rows
      simpa using rows
  · rintro ⟨rowLost, snapshotLost⟩
    rw [rowLost, snapshotLost]
    rfl

/-- **A status for an unknown pump changes nothing exactly if it is the one pump 2 has**, or neither
of its rows is inserted. -/
theorem feedback_unknown_iff (unknown : NoPump pumpId) (io : UpdateIo) (status : Int32)
    (side : PumpSide) :
    SamePumps side (updatePumpFeedback io pumpId status side) ↔
      validStatus status = side.previous.pump2Status ∨ io.LosesRows := by
  have compared : side.previous.statusOf pumpId = side.previous.pump2Status := if_neg unknown.1
  have fields : (updatePumpFeedback io pumpId status side).current.toPumpFields =
      side.current.toPumpFields := by
    rw [updatePumpFeedback_eq, applyUpdate_current]
    exact setStatus_unknown unknown _ _
  by_cases detected : validStatus status = side.previous.pump2Status
  · refine iff_of_true ?_ (.inl detected)
    have unchanged : updatePumpFeedback io pumpId status side =
        side.stamp io.now (PumpFields.setStatus pumpId (validStatus status)) := by
      unfold updatePumpFeedback
      rw [compared, if_neg (not_not.mpr detected.symm)]
    exact ⟨fields, by rw [unchanged]; rfl, by rw [unchanged]; rfl⟩
  · have changed : updatePumpFeedback io pumpId status side =
        (insertSnapshot io.snapshotInserted (insertFeedback io.rowInserted pumpId (validStatus status)
          (side.stamp io.now (PumpFields.setStatus pumpId (validStatus status))))).remember
            (PumpFields.setStatus pumpId (validStatus status)) := by
      unfold updatePumpFeedback
      rw [compared, if_pos (Ne.symm detected)]
    have tables : (updatePumpFeedback io pumpId status side).tables = side.tables ↔ io.LosesRows := by
      rw [changed]
      exact losesRows_iff io _ _ _
    constructor
    · exact fun same => .inr (tables.mp same.tables)
    · intro loses
      exact ⟨fields, by rw [changed]; rfl, tables.mpr (loses.resolve_left detected)⟩

end Updates

/-! ### Messages -/

section Handle

variable {jsonC : JsonC} {server : ServerState} {pumpId value : Int32}

/-- The members of a text that reports a status. -/
theorem members_of_reportedStatus {payload : List UInt8}
    (members : reportedStatus jsonC payload = some (pumpId, value)) :
    ∃ parsed pumpIdValue statusValue, jsonC.tokenerParse payload = some parsed ∧
      jsonC.objectGetEx parsed "pump_id" = some pumpIdValue ∧
      jsonC.objectGetEx parsed "status" = some statusValue ∧
      jsonC.getInt pumpIdValue = pumpId ∧ jsonC.getInt statusValue = value := by
  obtain ⟨parsed, parses, members⟩ := Option.bind_eq_some_iff.mp members
  obtain ⟨pumpIdValue, hasPumpId, members⟩ := Option.bind_eq_some_iff.mp members
  obtain ⟨statusValue, hasStatus, members⟩ := Option.bind_eq_some_iff.mp members
  cases members
  exact ⟨parsed, pumpIdValue, statusValue, parses, hasPumpId, hasStatus, rfl, rfl⟩

/-- A message that reports only a status. -/
theorem pumpFeedback_statusOnly {payload : List UInt8} (io : MessageIo)
    (members : reportedStatus jsonC payload = some (pumpId, value)) (only : StatusOnly jsonC payload)
    (side : PumpSide) :
    pumpFeedback jsonC io payload side =
      if 0 ≤ value ∧ value ≤ 3 then updatePumpFeedback io.report pumpId value side else side := by
  obtain ⟨parsed, pumpIdValue, statusValue, parses, hasPumpId, hasStatus, rfl, rfl⟩ :=
    members_of_reportedStatus members
  obtain ⟨noBusy, noAlarm⟩ := only parsed parses
  have status : feedbackStatus jsonC io.report parsed side =
      if 0 ≤ jsonC.getInt statusValue ∧ jsonC.getInt statusValue ≤ 3 then
        updatePumpFeedback io.report (jsonC.getInt pumpIdValue) (jsonC.getInt statusValue) side
      else side := by
    unfold feedbackStatus
    rw [hasPumpId, hasStatus]
  have system : ∀ side, feedbackSystem jsonC io.system parsed side = side := by
    intro side
    unfold feedbackSystem newBusy newAlarm
    rw [noBusy, noAlarm]
    rfl
  rw [pumpFeedback, parses]
  dsimp only
  rw [system, status]

theorem handlePumpFeedback_of_members {payload : List UInt8} (io : UpdateIo)
    (members : reportedStatus jsonC payload = some (pumpId, value)) (side : PumpSide) :
    (handlePumpFeedback jsonC io payload side).2 = updatePumpFeedback io pumpId value side := by
  obtain ⟨parsed, pumpIdValue, statusValue, parses, hasPumpId, hasStatus, rfl, rfl⟩ :=
    members_of_reportedStatus members
  unfold handlePumpFeedback
  rw [parses]
  dsimp only
  rw [hasPumpId, hasStatus]

/-- A message that leaves the gateway alone. -/
theorem sameStored_iff {after : ServerState}
    (gateway : after.gateway = server.gateway) :
    SameStored server after ↔ SamePumps server.pumps after.pumps :=
  ⟨fun same => ⟨same.fields, same.history, same.tables⟩,
    fun same => ⟨same.fields, same.history, same.tables, by rw [gateway]⟩⟩

/-- **A message for an unknown pump changes nothing exactly if its value is what pump 2 has.** -/
theorem stored_handle_iff {delivery : Delivery} (unknown : NoPump pumpId)
    (message : ForPump jsonC pumpId value delivery)
    (remembered : Remembered server.pumps) :
    SameStored server (handle jsonC server delivery) ↔
      LikePumpTwo server.pumps.current.toPumpFields value delivery := by
  have command : server.pumps.previous.pump2 = server.pumps.current.pump2 :=
    congrArg PumpFields.pump2 remembered
  have status : server.pumps.previous.pump2Status = server.pumps.current.pump2Status :=
    congrArg PumpFields.pump2Status remembered
  cases message with
  | @control payload io members =>
    have gateway : (handle jsonC server ⟨.mqtt "pump/control" payload, io⟩).gateway =
        server.gateway := by
      simp [handle, mqttMessageArrived]
    rw [sameStored_iff gateway, handle_command jsonC members, ← updatePumpStatus_eq,
      command_unknown_iff unknown, command]
    exact Iff.rfl
  | @feedback payload io members only =>
    have gateway : (handle jsonC server ⟨.mqtt "pump/feedback" payload, io⟩).gateway =
        server.gateway := by
      simp [handle, mqttMessageArrived]
    have pumps : (handle jsonC server ⟨.mqtt "pump/feedback" payload, io⟩).pumps =
        pumpFeedback jsonC io (mqttPayload payload) server.pumps := rfl
    rw [sameStored_iff gateway, pumps, pumpFeedback_statusOnly io members only]
    show _ ↔ ¬ (0 ≤ value ∧ value ≤ 3) ∨ value = server.pumps.current.pump2Status ∨ io.report.LosesRows
    by_cases range : 0 ≤ value ∧ value ≤ 3
    · rw [if_pos range, feedback_unknown_iff unknown, validStatus_of_range range, status]
      exact ⟨.inr, fun reason => reason.resolve_left (not_not.mpr range)⟩
    · rw [if_neg range]
      exact iff_of_true ⟨rfl, rfl, rfl⟩ (.inl range)
  | @post payload io members =>
    have gateway : (handle jsonC server ⟨.feedbackPost payload, io⟩).gateway = server.gateway := rfl
    have pumps : (handle jsonC server ⟨.feedbackPost payload, io⟩).pumps =
        updatePumpFeedback io.report pumpId value server.pumps :=
      handlePumpFeedback_of_members io.report members server.pumps
    rw [sameStored_iff gateway, pumps, feedback_unknown_iff unknown, status]
    exact Iff.rfl

end Handle

/-! ### Runs -/

/-- **Messages for unknown pumps change nothing, throughout a run, exactly if each reports what pump 2
has.** -/
theorem unknown_ignored_iff (jsonC : JsonC) (events : List Event) :
    Runs.Guarded (serve jsonC) (UnknownIgnored jsonC) {} events ↔
      Runs.Guarded (serve jsonC) (UnknownLikePumpTwo jsonC) {} events := by
  have agree : ∀ (server : ServerState) (event : Event), Remembered server.pumps → True →
      (UnknownIgnored jsonC server event ↔ UnknownLikePumpTwo jsonC server event) := by
    intro server event remembered _
    unfold UnknownIgnored UnknownLikePumpTwo
    refine forall_congr' fun delivery => forall_congr' fun pumpId => forall_congr' fun value =>
      forall_congr' fun isDelivery => forall_congr' fun message => forall_congr' fun unknown => ?_
    subst isDelivery
    exact stored_handle_iff unknown message remembered
  have kept : ∀ (server : ServerState) (event : Event), True → Remembered server.pumps →
      Remembered (serve jsonC server event).pumps :=
    fun _ event _ remembered => remembered_serve jsonC event remembered
  have initial : Remembered ({} : ServerState).pumps := rfl
  exact Runs.guarded_congr kept agree initial fun _ _ => trivial

/-- A message that starts a third pump. -/
def thirdPump : Delivery :=
  ⟨.mqtt "pump/control" (ascii "\x7b\"pump_id\":3,\"state\":1\x7d"), .at 100⟩

/-- It is logged as a command, with a snapshot of two stopped pumps. -/
theorem third_pump_logged :
    ¬ ∀ events : List Event,
      Runs.Guarded (serve JsonC.reference) (UnknownIgnored JsonC.reference) {} events := by
  intro always
  have members : reportedCommand JsonC.reference thirdPump = some (3, 1) := by decide +kernel
  have same := (always [.delivery thirdPump]).1 thirdPump 3 1 rfl (.control members) (by decide)
  have rows : (serve JsonC.reference {} (.delivery thirdPump)).pumps.tables.pumpCommands =
      [⟨3, 1, 100, "api"⟩] := by
    decide +kernel
  rw [same.tables] at rows
  cases rows

end ServerPump
