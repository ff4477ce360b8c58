/-
**The two entry points of a feedback.**

A feedback arrives as an MQTT message or as the body of a POST. Both end in `update_pump_feedback`,
but they part where the status is outside `0..3`: the MQTT branch drops the report, the HTTP handler
passes it on, and the update stores it as unknown.

* `effect_pumpFeedback`: what follows the hardware status in a message has no part in the effect.
* `feedback_entryPoints`: the two agree on every text but one that reports such a status, and on that
  one the message has no effect and the POST that of status 0.
* `feedback_entryPoints_differ`: a status 7 for a running pump.
-/

import ServerPump.Proof.Update

namespace ServerPump

open CText

/-- What a feedback is for: the hardware statuses, and the rows of `pump_feedback`. -/
structure FeedbackEffect where
  pump1Status : Int32
  pump2Status : Int32
  rows : List (Int32 × Int32)
  deriving DecidableEq

def PumpSide.feedbackEffect (side : PumpSide) : FeedbackEffect :=
  ⟨side.current.pump1Status, side.current.pump2Status, Table.feedback.rows side.tables⟩

theorem effect_updateSystemStatus (io : UpdateIo) (busy alarm : Int32) (side : PumpSide) :
    (updateSystemStatus io busy alarm side).feedbackEffect = side.feedbackEffect := by
  have rows : Table.feedback.rows (updateSystemStatus io busy alarm side).tables =
      Table.feedback.rows side.tables := by
    rw [updateSystemStatus_eq, rows_applyUpdate]
    exact List.append_nil _
  have fields : (updateSystemStatus io busy alarm side).current.toPumpFields =
      side.current.setSystem busy alarm := by
    rw [updateSystemStatus_eq, applyUpdate_current]
    rfl
  unfold PumpSide.feedbackEffect
  rw [rows, fields]
  rfl

section Effects

variable (jsonC : JsonC) (io : MessageIo) {payload : List UInt8} (side : PumpSide)

theorem effect_feedbackSystem (io : UpdateIo) (parsed : jsonC.Value) :
    (feedbackSystem jsonC io parsed side).feedbackEffect = side.feedbackEffect := by
  unfold feedbackSystem
  dsimp only
  split
  · exact effect_updateSystemStatus io _ _ side
  · rfl

/-- The effect of a message is that of the hardware status in it. -/
theorem effect_pumpFeedback {parsed : jsonC.Value} (parses : jsonC.tokenerParse payload = some parsed) :
    (pumpFeedback jsonC io payload side).feedbackEffect =
      (feedbackStatus jsonC io.report parsed side).feedbackEffect := by
  rw [pumpFeedback, parses]
  exact effect_feedbackSystem jsonC _ io.system parsed

/-- The status the text reports, with the id of the pump, if it has both members. -/
def reportedStatus (payload : List UInt8) : Option (Int32 × Int32) := do
  let parsed ← jsonC.tokenerParse payload
  let pumpId ← jsonC.objectGetEx parsed "pump_id"
  let status ← jsonC.objectGetEx parsed "status"
  return (jsonC.getInt pumpId, jsonC.getInt status)

/-- A status of a pump, or none, and then there is no effect. -/
theorem effect_handlePumpFeedback (io : UpdateIo) :
    ((handlePumpFeedback jsonC io payload side).2).feedbackEffect =
      match reportedStatus jsonC payload with
      | some (pumpId, status) => (updatePumpFeedback io pumpId status side).feedbackEffect
      | none => side.feedbackEffect := by
  unfold handlePumpFeedback reportedStatus
  cases jsonC.tokenerParse payload with
  | none => rfl
  | some parsed =>
    dsimp only [Option.bind_eq_bind, Option.bind_some]
    cases jsonC.objectGetEx parsed "pump_id" <;> cases jsonC.objectGetEx parsed "status" <;> rfl

theorem effect_pumpFeedback_eq :
    (pumpFeedback jsonC io payload side).feedbackEffect =
      match reportedStatus jsonC payload with
      | some (pumpId, status) =>
        if 0 ≤ status ∧ status ≤ 3 then
          (updatePumpFeedback io.report pumpId status side).feedbackEffect
        else side.feedbackEffect
      | none => side.feedbackEffect := by
  cases parses : jsonC.tokenerParse payload with
  | none =>
    unfold pumpFeedback reportedStatus
    rw [parses]
    rfl
  | some parsed =>
    rw [effect_pumpFeedback jsonC io side parses]
    unfold feedbackStatus reportedStatus
    rw [parses]
    dsimp only [Option.bind_eq_bind, Option.bind_some]
    cases jsonC.objectGetEx parsed "pump_id" <;> cases jsonC.objectGetEx parsed "status"
    · rfl
    · rfl
    · rfl
    · exact apply_ite PumpSide.feedbackEffect _ _ _

end Effects

/-- A text of fewer than 1024 bytes without a NUL passes the buffer of the callback unchanged. -/
theorem mqttPayload_eq {payload : List UInt8} (short : payload.length < 1024) (nulFree : 0 ∉ payload) :
    mqttPayload payload = payload := by
  rw [mqttPayload, cstr_eq_self nulFree, snprintf_of_lt short]

/-- A status outside `0..3` counts as unknown. -/
theorem updatePumpFeedback_outside {status : Int32} (outside : ¬ (0 ≤ status ∧ status ≤ 3))
    (io : UpdateIo) (pumpId : Int32) (side : PumpSide) :
    updatePumpFeedback io pumpId status side = updatePumpFeedback io pumpId 0 side := by
  have unknown : validStatus status = 0 := by
    unfold validStatus
    rw [if_pos]
    · rfl
    · rcases not_and_or.mp outside with low | high
      · exact .inl (Int32.not_le.mp low)
      · exact .inr (Int32.not_le.mp high)
  rw [updatePumpFeedback_eq, updatePumpFeedback_eq, unknown]
  rfl

/-- **The two entry points have the same effect** on every text that does not report a status outside
`0..3`. One that does is dropped as a message, and as a POST counts as a report of status 0. -/
theorem feedback_entryPoints (jsonC : JsonC) (server : ServerState) (io : MessageIo)
    {payload : List UInt8} (short : payload.length < 1024) (nulFree : 0 ∉ payload) :
    let viaMqtt := (handle jsonC server ⟨.mqtt "pump/feedback" payload, io⟩).pumps
    let viaHttp := (handle jsonC server ⟨.feedbackPost payload, io⟩).pumps
    ((∀ pumpId status, reportedStatus jsonC payload = some (pumpId, status) → 0 ≤ status ∧ status ≤ 3) →
      viaMqtt.feedbackEffect = viaHttp.feedbackEffect) ∧
    ∀ pumpId status, reportedStatus jsonC payload = some (pumpId, status) →
      ¬ (0 ≤ status ∧ status ≤ 3) →
        viaMqtt.feedbackEffect = server.pumps.feedbackEffect ∧
          viaHttp.feedbackEffect =
            (updatePumpFeedback io.report pumpId 0 server.pumps).feedbackEffect := by
  intro viaMqtt viaHttp
  have mqtt : viaMqtt.feedbackEffect = (pumpFeedback jsonC io payload server.pumps).feedbackEffect := by
    show (pumpFeedback jsonC io (mqttPayload payload) server.pumps).feedbackEffect = _
    rw [mqttPayload_eq short nulFree]
  have http : viaHttp.feedbackEffect =
      ((handlePumpFeedback jsonC io.report payload server.pumps).2).feedbackEffect := rfl
  rw [mqtt, http, effect_pumpFeedback_eq, effect_handlePumpFeedback]
  cases reported : reportedStatus jsonC payload with
  | none => exact ⟨fun _ => rfl, nofun⟩
  | some report =>
    obtain ⟨pumpId, status⟩ := report
    refine ⟨fun inRange => ?_, ?_⟩
    · exact if_pos (inRange pumpId status rfl)
    · rintro _ _ ⟨⟩ outside
      refine ⟨if_neg outside, ?_⟩
      show (updatePumpFeedback io.report pumpId status server.pumps).feedbackEffect = _
      rw [updatePumpFeedback_outside outside]

/-- Pump 1 reports that it runs, and then a status that is not one. -/
def runningReport : List UInt8 := ascii "\x7b\"pump_id\":1,\"status\":1\x7d"

def brokenReport : List UInt8 := ascii "\x7b\"pump_id\":1,\"status\":7\x7d"

theorem feedback_entryPoints_sample :
    (handle JsonC.reference {} ⟨.mqtt "pump/feedback" runningReport, .at 100⟩).pumps.feedbackEffect =
        (handle JsonC.reference {} ⟨.feedbackPost runningReport, .at 100⟩).pumps.feedbackEffect ∧
      (handle JsonC.reference {} ⟨.mqtt "pump/feedback" brokenReport, .at 100⟩).pumps.feedbackEffect =
        ⟨0, 0, []⟩ := by
  have same := @feedback_entryPoints JsonC.reference {} (.at 100) runningReport (by decide) (by decide)
  have apart := @feedback_entryPoints JsonC.reference {} (.at 100) brokenReport (by decide) (by decide)
  have running : reportedStatus JsonC.reference runningReport = some (1, 1) := by decide +kernel
  have broken : reportedStatus JsonC.reference brokenReport = some (1, 7) := by decide +kernel
  refine ⟨same.1 ?_, (apart.2 1 7 broken (by decide)).1⟩
  rw [running]
  rintro _ _ ⟨⟩
  decide

/-- The message leaves a running pump as it is, the POST makes its status unknown. -/
theorem feedback_entryPoints_differ :
    ¬ ∀ (deliveries : List Delivery) (io : MessageIo) (payload : List UInt8),
      payload.length < 1024 → 0 ∉ payload →
        let server := Runs.run (handle JsonC.reference) {} deliveries
        (handle JsonC.reference server ⟨.mqtt "pump/feedback" payload, io⟩).pumps.feedbackEffect =
          (handle JsonC.reference server ⟨.feedbackPost payload, io⟩).pumps.feedbackEffect := by
  intro agree
  have same := agree [⟨.mqtt "pump/feedback" runningReport, .at 100⟩] (.at 101) brokenReport
    (by decide) (by decide)
  exact absurd same (by decide +kernel)

end ServerPump
