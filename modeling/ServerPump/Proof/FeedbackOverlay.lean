/-
**A feedback message overlays the state.**

A message on `pump/feedback` has up to four members. Each is absent, invalid or valid; what is valid
replaces its field, everything else stays. In the callback this is spread over two updates, each with
a change detection of its own, and the second one reads back what it is not given.

* `changes_snapshotted`: after any delivery that changes one of the six fields, the newest snapshot
  has all six.
* `fields_feedback`: the fields after a feedback are the overlay.
* `feedback_overlays`: both, in every reachable state.
-/

import ServerPump.Proof.Restart

namespace ServerPump

open CText

/-! ### The overlay -/

section Members

variable (jsonC : JsonC)

/-- A member of the payload as an integer, if it is present. -/
def memberValue (payload : List UInt8) (name : String) : Option Int32 := do
  let parsed ← jsonC.tokenerParse payload
  let value ← jsonC.objectGetEx parsed name
  return jsonC.getInt value

/-- The status the payload has for a pump: one in `0..3`, with the id of the pump. -/
def statusMember (payload : List UInt8) (pumpId : Int32) : Option Int32 :=
  if memberValue jsonC payload "pump_id" = some pumpId then
    (memberValue jsonC payload "status").filter fun status => 0 ≤ status ∧ status ≤ 3
  else none

def busyMember (payload : List UInt8) : Option Int32 :=
  (memberValue jsonC payload "busy").filter fun busy => 0 ≤ busy ∧ busy ≤ 2

def alarmMember (payload : List UInt8) : Option Int32 :=
  (memberValue jsonC payload "alarm").filter fun alarm => alarm = 0 ∨ alarm = 1

/-- **What a feedback is for**: its valid members replace the fields. -/
def overlay (payload : List UInt8) (fields : PumpFields) : PumpFields :=
  { fields with
    pump1Status := (statusMember jsonC payload 1).getD fields.pump1Status
    pump2Status := (statusMember jsonC payload 2).getD fields.pump2Status
    busy := (busyMember jsonC payload).getD fields.busy
    alarm := (alarmMember jsonC payload).getD fields.alarm }

/-- **The law**: the state behind a feedback is the overlay, and if a field has changed, the newest
snapshot has all six. -/
structure Overlaid (payload : List UInt8) (before after : PumpSide) : Prop where
  fields : after.current.toPumpFields = overlay jsonC payload before.current.toPumpFields
  newest : after.current.toPumpFields ≠ before.current.toPumpFields →
    newestSnapshot after.tables = some after.current.toPumpFields

end Members

/-! ### The log -/

/-- The detector remembers the live fields, and if they are not the ones from the start, the newest
snapshot has them. -/
structure ChangesLogged (start : PumpFields) (side : PumpSide) : Prop where
  remembered : Remembered side
  newest : side.current.toPumpFields ≠ start →
    newestSnapshot side.tables = some side.current.toPumpFields

theorem changesLogged_applyUpdate {io : UpdateIo} (succeeds : io.Succeeds) (update : Update)
    {start : PumpFields} {side : PumpSide} (logged : ChangesLogged start side) :
    ChangesLogged start (applyUpdate io update side) := by
  refine ⟨remembered_applyUpdate io update logged.remembered, ?_⟩
  rw [newestSnapshot_applyUpdate, applyUpdate_current,
    show side.previous.toPumpFields = side.current.toPumpFields from logged.remembered, succeeds.2]
  cases detected : update.detects side.current.toPumpFields with
  | true => exact fun _ => if_pos ⟨rfl, rfl⟩
  | false =>
    -- an update that is not detected writes what is there
    rw [write_eq_of_not_detects detected, if_neg fun both => absurd both.1 Bool.false_ne_true]
    exact logged.newest

/-- **A delivery that changes a field leaves a snapshot of all six.** -/
theorem changes_snapshotted (jsonC : JsonC) {server : ServerState} {delivery : Delivery}
    (succeeds : delivery.Succeeds) (remembered : Remembered server.pumps) :
    ChangesLogged server.pumps.current.toPumpFields (handle jsonC server delivery).pumps := by
  rw [handle_pumps]
  have kept : ∀ (side : PumpSide) (report : Update × UpdateIo), report.2.Succeeds →
      ChangesLogged server.pumps.current.toPumpFields side →
        ChangesLogged server.pumps.current.toPumpFields (applyReport side report) :=
    fun _ report succeeds logged => changesLogged_applyUpdate succeeds report.1 logged
  have initial : ChangesLogged server.pumps.current.toPumpFields server.pumps :=
    ⟨remembered, fun changed => absurd rfl changed⟩
  exact Runs.invariant_run_of_mem kept initial _ fun _ => succeeds_of_mem_reports jsonC succeeds

/-! ### The fields -/

section Fields

variable (jsonC : JsonC)

/-- A member that is checked where it is read. -/
theorem checked_eq_filter (valid : Int32 → Prop) [DecidablePred valid] (member : Option jsonC.Value) :
    (match member with
      | some value => if valid (jsonC.getInt value) then some (jsonC.getInt value) else none
      | none => none) = (member.map jsonC.getInt).filter fun value => valid value := by
  cases member with
  | none => rfl
  | some value => simp [Option.filter]

theorem newBusy_eq (parsed : jsonC.Value) :
    newBusy jsonC parsed = ((jsonC.objectGetEx parsed "busy").map jsonC.getInt).filter
      fun busy => 0 ≤ busy ∧ busy ≤ 2 :=
  checked_eq_filter jsonC (fun busy => 0 ≤ busy ∧ busy ≤ 2) _

theorem newAlarm_eq (parsed : jsonC.Value) :
    newAlarm jsonC parsed = ((jsonC.objectGetEx parsed "alarm").map jsonC.getInt).filter
      fun alarm => alarm = 0 ∨ alarm = 1 :=
  checked_eq_filter jsonC (fun alarm => alarm = 0 ∨ alarm = 1) _

variable {jsonC}

theorem memberValue_of_parses {payload : List UInt8} {parsed : jsonC.Value}
    (parses : jsonC.tokenerParse payload = some parsed) (name : String) :
    memberValue jsonC payload name = (jsonC.objectGetEx parsed name).map jsonC.getInt := by
  unfold memberValue
  rw [parses, Option.bind_eq_bind, Option.bind_some]
  cases jsonC.objectGetEx parsed name <;> rfl

/-- A status for an id is one for the pump that has it. -/
theorem setStatus_eq (pumpId status : Int32) (fields : PumpFields) :
    fields.setStatus pumpId status =
      { fields with
        pump1Status := (if some pumpId = some 1 then some status else none).getD fields.pump1Status
        pump2Status := (if some pumpId = some 2 then some status else none).getD fields.pump2Status } := by
  have distinct : ¬ (1 : Int32) = 2 := by decide
  unfold PumpFields.setStatus
  by_cases first : pumpId = 1
  · simp [first, distinct]
  · by_cases second : pumpId = 2
    · simp [second]
    · simp [first, second]

theorem fields_feedbackStatus {payload : List UInt8} {parsed : jsonC.Value}
    (parses : jsonC.tokenerParse payload = some parsed) (io : UpdateIo) (side : PumpSide) :
    (feedbackStatus jsonC io parsed side).current.toPumpFields =
      { side.current.toPumpFields with
        pump1Status := (statusMember jsonC payload 1).getD side.current.pump1Status
        pump2Status := (statusMember jsonC payload 2).getD side.current.pump2Status } := by
  unfold statusMember feedbackStatus
  rw [memberValue_of_parses parses, memberValue_of_parses parses]
  cases jsonC.objectGetEx parsed "pump_id" with
  | none => simp
  | some pumpId =>
    cases jsonC.objectGetEx parsed "status" with
    | none => simp
    | some status =>
      by_cases range : 0 ≤ jsonC.getInt status ∧ jsonC.getInt status ≤ 3
      · simp only [if_pos range]
        rw [updatePumpFeedback_eq, applyUpdate_current, validStatus_of_range range]
        simp only [Update.write, Option.map_some, Option.filter, range, and_self, decide_true, if_true]
        exact setStatus_eq _ _ _
      · simp only [if_neg range]
        simp [Option.filter, range]

theorem fields_feedbackSystem (io : UpdateIo) (parsed : jsonC.Value) (side : PumpSide) :
    (feedbackSystem jsonC io parsed side).current.toPumpFields =
      { side.current.toPumpFields with
        busy := (newBusy jsonC parsed).getD side.current.busy
        alarm := (newAlarm jsonC parsed).getD side.current.alarm } := by
  unfold feedbackSystem
  by_cases valid : (newBusy jsonC parsed).isSome ∨ (newAlarm jsonC parsed).isSome
  · simp only [if_pos valid]
    rw [updateSystemStatus_eq, applyUpdate_current]
    rfl
  · obtain ⟨noBusy, noAlarm⟩ := not_or.mp valid
    rw [Option.not_isSome_iff_eq_none] at noBusy noAlarm
    simp only [noBusy, noAlarm]
    rfl

/-- **The fields after a feedback are the overlay.** -/
theorem fields_feedback (io : MessageIo) (payload : List UInt8) (side : PumpSide) :
    (pumpFeedback jsonC io payload side).current.toPumpFields =
      overlay jsonC payload side.current.toPumpFields := by
  cases parses : jsonC.tokenerParse payload with
  | none =>
    have absent : ∀ name, memberValue jsonC payload name = none := by
      intro name
      unfold memberValue
      rw [parses]
      rfl
    unfold pumpFeedback overlay statusMember busyMember alarmMember
    rw [parses]
    simp [absent]
  | some parsed =>
    have busy : busyMember jsonC payload = newBusy jsonC parsed := by
      rw [busyMember, memberValue_of_parses parses, newBusy_eq]
    have alarm : alarmMember jsonC payload = newAlarm jsonC parsed := by
      rw [alarmMember, memberValue_of_parses parses, newAlarm_eq]
    rw [pumpFeedback, parses]
    dsimp only
    rw [fields_feedbackSystem, fields_feedbackStatus parses, overlay, busy, alarm]

end Fields

/-- **A feedback message overlays the state**, in every reachable state, and if that changes a field,
the newest snapshot has the six values. -/
theorem feedback_overlays (jsonC : JsonC) (events : List Event) (payload : List UInt8) (io : MessageIo)
    (succeeds : io.report.Succeeds ∧ io.system.Succeeds) :
    Overlaid jsonC (mqttPayload payload) (Runs.run (serve jsonC) {} events).pumps
      (handle jsonC (Runs.run (serve jsonC) {} events) ⟨.mqtt "pump/feedback" payload, io⟩).pumps := by
  have succeedsAll : Delivery.Succeeds ⟨.mqtt "pump/feedback" payload, io⟩ := succeeds
  have logged := changes_snapshotted jsonC succeedsAll (remembered_run jsonC events)
  have handled : (handle jsonC (Runs.run (serve jsonC) {} events)
      ⟨.mqtt "pump/feedback" payload, io⟩).pumps =
    pumpFeedback jsonC io (mqttPayload payload) (Runs.run (serve jsonC) {} events).pumps := rfl
  refine ⟨?_, logged.newest⟩
  rw [handled]
  exact fields_feedback io _ _

/-- Pump 2 was started; the message has a status for it, an invalid `busy` and an alarm. -/
def mixedFeedback : List UInt8 :=
  ascii "\x7b\"pump_id\":2,\"status\":1,\"busy\":7,\"alarm\":1\x7d"

def pumpTwoStarted : List Event :=
  [.delivery ⟨.mqtt "pump/control" (ascii "\x7b\"pump_id\":2,\"state\":1\x7d"), .at 100⟩]

theorem feedback_overlays_mixed :
    ((MessageIo.at 200).report.Succeeds ∧ (MessageIo.at 200).system.Succeeds) ∧
      overlay JsonC.reference (mqttPayload mixedFeedback) ⟨0, 1, 0, 0, 0, 0⟩ = ⟨0, 1, 0, 1, 0, 1⟩ ∧
      Overlaid JsonC.reference (mqttPayload mixedFeedback)
        (Runs.run (serve JsonC.reference) {} pumpTwoStarted).pumps
        (handle JsonC.reference (Runs.run (serve JsonC.reference) {} pumpTwoStarted)
          ⟨.mqtt "pump/feedback" mixedFeedback, .at 200⟩).pumps := by
  have succeeds : (MessageIo.at 200).report.Succeeds ∧ (MessageIo.at 200).system.Succeeds := by decide
  have values : overlay JsonC.reference (mqttPayload mixedFeedback) ⟨0, 1, 0, 0, 0, 0⟩ =
      ⟨0, 1, 0, 1, 0, 1⟩ := by
    decide +kernel
  exact ⟨succeeds, values,
    feedback_overlays JsonC.reference pumpTwoStarted mixedFeedback (.at 200) succeeds⟩

end ServerPump
