/-
**Heartbeats through the broker: the page shows what the gateway reported last.**

A heartbeat may lack a member, and then what an earlier one reported stays; it may come more than once, and
then an older report is back until the later ones have come again. Each member is a register that a heartbeat
sets or leaves alone, and the three are registers of one channel.

* `reported_heartbeat`: what a heartbeat does to the three members.
* `hears_next`: the invariant. They are those of a receiver of the topic.
* `drawGateway_eq`: the card that is drawn from them.
* `heartbeats_determine_gateway`: when everything published has been delivered, the globals and the card are
  those of the last heartbeats that had each member. The time last seen is that of the last delivery, be it the
  first one of its heartbeat or not.
-/

import ServerPump.Proof.ControlLoop
import ServerPump.Proof.GatewayHistory
import ServerPump.Web.Dashboard

namespace ServerPump

open CText ChangeLog JsonText Redelivery Runs

/-! ### What a heartbeat tells -/

section Members

variable (jsonC : JsonC)

/-- The heartbeat in a payload, if it can be parsed. -/
def heartbeatIn (payload : List UInt8) : Option Heartbeat :=
  heartbeatOf jsonC ⟨.mqtt Topic.heartbeat.name payload, .at 0⟩

def statusIn (payload : List UInt8) : Option Int32 := (heartbeatIn jsonC payload).map Heartbeat.status

/-- The device id in a heartbeat, as far as its array holds it. -/
def deviceIdIn (payload : List UInt8) : Option (List UInt8) :=
  ((heartbeatIn jsonC payload).bind Heartbeat.deviceId).map fun text => text.text.take 63

/-- The firmware in a heartbeat, as far as its array holds it. -/
def firmwareIn (payload : List UInt8) : Option (List UInt8) :=
  ((heartbeatIn jsonC payload).bind Heartbeat.firmware).map fun text => text.text.take 31

/-- The members as the globals hold them. -/
def GatewayHardwareStatus.reported (status : GatewayHardwareStatus) : Int32 × List UInt8 × List UInt8 :=
  (status.gatewayReportedStatus, status.deviceId.text, status.firmwareVersion.text)

/-- What a heartbeat does to them. -/
def tells : Int32 × List UInt8 × List UInt8 → List UInt8 → Int32 × List UInt8 × List UInt8 :=
  paired (assign (statusIn jsonC)) (paired (assign (deviceIdIn jsonC)) (assign (firmwareIn jsonC)))

theorem overwriting_tells : Overwriting (tells jsonC) :=
  (overwriting_assign _).paired ((overwriting_assign _).paired (overwriting_assign _))

theorem gatewayHeartbeat_eq (io : UpdateIo) (payload : List UInt8) (side : GatewaySide) :
    gatewayHeartbeat jsonC io (mqttPayload payload) side =
      (heartbeatIn jsonC payload).elim side fun heartbeat => side.hear io.now io.rowInserted heartbeat := by
  rw [heartbeatIn, heartbeatOf]
  dsimp only
  rw [if_pos (show Topic.heartbeat.name = "gateway/heartbeat" from rfl), gatewayHeartbeat]
  cases jsonC.tokenerParse (mqttPayload payload) <;> rfl

/-- **A heartbeat sets its members.** -/
theorem reported_heartbeat {side : GatewaySide} (ends : TextsEnd side.status) (io : UpdateIo)
    (payload : List UInt8) :
    (gatewayHeartbeat jsonC io (mqttPayload payload) side).status.reported =
      tells jsonC side.status.reported payload := by
  have given : ∀ (member : Option CStr) (stored : List UInt8) (count : ℕ),
      (member.elim stored fun text => text.text.take count) =
        (member.map fun text => text.text.take count).getD stored := by
    intro member stored count
    cases member <;> rfl
  rw [gatewayHeartbeat_eq, tells, paired, paired, assign, assign, assign, statusIn, deviceIdIn, firmwareIn]
  cases heartbeatIn jsonC payload with
  | none => rfl
  | some heartbeat =>
    have stamped := textsEnd_stamp ends io.now heartbeat.status
    show (side.hear io.now io.rowInserted heartbeat).status.reported = _
    rw [status_hear, GatewayHardwareStatus.reported, deviceId_copyTexts stamped, firmware_copyTexts stamped,
      given, given]
    rfl

theorem textsEnd_heartbeat {side : GatewaySide} (ends : TextsEnd side.status) (io : UpdateIo)
    (payload : List UInt8) :
    TextsEnd (gatewayHeartbeat jsonC io (mqttPayload payload) side).status := by
  rw [gatewayHeartbeat_eq]
  cases heartbeatIn jsonC payload with
  | none => exact ends
  | some heartbeat =>
    show TextsEnd (side.hear io.now io.rowInserted heartbeat).status
    rw [status_hear]
    exact textsEnd_copyTexts (textsEnd_stamp ends _ _) _ _

end Members

/-! ### The channel of the heartbeats -/

/-- What happens to a channel, with the message that is taken from it. -/
inductive ChannelMoves (channel : Channel (List UInt8)) :
    Option (List UInt8) → Channel (List UInt8) → Prop
  | stays : ChannelMoves channel none channel
  | publishes (payload : List UInt8) : ChannelMoves channel none (channel.publish payload)
  | acknowledges : ChannelMoves channel none channel.acknowledge
  | resends : ChannelMoves channel none channel.resend
  | delivers (payload : List UInt8) (next : channel.next? = some payload) :
      ChannelMoves channel (some payload) channel.advance

theorem keeps_channelMoves {σ : Type*} {act : σ → List UInt8 → σ} (overwriting : Overwriting act)
    {initial state : σ} {channel moved : Channel (List UInt8)} {taken : Option (List UInt8)}
    (moves : ChannelMoves channel taken moved) (keeps : Keeps act initial channel state) :
    Keeps act initial moved (taken.elim state (act state)) := by
  cases moves with
  | stays => exact keeps
  | publishes payload => exact keeps_publish keeps payload
  | acknowledges => exact keeps_acknowledge keeps
  | resends => exact keeps_resend keeps
  | delivers payload next => exact keeps_deliver overwriting keeps next

section Worlds

variable {jsonC : JsonC}

/-- **What a step does to the channel of the heartbeats.** -/
theorem channelMoves_next (jsonC : JsonC) (state : GatewayWorld) (label : WorldLabel) :
    ChannelMoves (state.world.channels .heartbeat) (state.heard label)
      ((state.world.next jsonC label).channels .heartbeat) := by
  have onChannel : ∀ topic change,
      (topic = .heartbeat → ChannelMoves (state.world.channels .heartbeat) none
        (change (state.world.channels .heartbeat))) →
      ChannelMoves (state.world.channels .heartbeat) none
        ((state.world.onChannel topic change).channels .heartbeat) := by
    intro topic change moves
    rw [channels_onChannel]
    split_ifs with same
    · exact moves same
    · exact .stays
  cases label with
  | publish topic payload => exact onChannel topic _ fun _ => .publishes payload
  | controlPost payload published =>
    show ChannelMoves _ none ((if state.world.machine.Waiting .http ∧ published then
      state.world.onChannel .control (Channel.publish payload) else state.world).channels .heartbeat)
    split_ifs
    · exact onChannel .control _ nofun
    · exact .stays
  | feedbackPost payload => exact .stays
  | deliver topic =>
    show ChannelMoves _ _ ((state.world.deliver jsonC topic).channels .heartbeat)
    have heard : state.heard (.deliver topic) = if topic = .heartbeat ∧ state.world.machine.Waiting .mqtt then
        (state.world.channels topic).next? else none := by
      cases topic <;> simp [GatewayWorld.heard]
    rw [heard]
    unfold World.deliver
    cases next : (state.world.channels topic).next? with
    | none =>
      rw [ite_self]
      exact .stays
    | some payload =>
      dsimp only
      by_cases waiting : state.world.machine.Waiting .mqtt
      · rw [if_pos waiting, channels_onChannel]
        by_cases same : topic = .heartbeat
        · subst same
          rw [if_pos ⟨rfl, waiting⟩, if_pos rfl]
          exact .delivers payload next
        · rw [if_neg fun both => same both.1, if_neg same]
          exact .stays
      · rw [if_neg fun both => waiting both.2, if_neg waiting]
        exact .stays
  | acknowledge topic => exact onChannel topic _ fun _ => .acknowledges
  | resend topic => exact onChannel topic _ fun _ => .resends
  | step thread now inserted => exact .stays
  | publishStatus => exact .stays

/-- The invariant: the members are those of a receiver of the heartbeats. -/
structure Hears (jsonC : JsonC) (state : GatewayWorld) : Prop where
  ends : TextsEnd state.gateway.status
  keeps : Keeps (tells jsonC) (0, [], []) (state.world.channels .heartbeat) state.gateway.status.reported

theorem hears_initial (jsonC : JsonC) : Hears jsonC {} where
  ends := textsEnd_initial
  keeps := keeps_initial _ _

/-- **The invariant is kept by everything that happens.** -/
theorem hears_next (jsonC : JsonC) (state : GatewayWorld) (label : WorldLabel × UpdateIo)
    (hears : Hears jsonC state) : Hears jsonC (state.next jsonC label) := by
  have kept := keeps_channelMoves (overwriting_tells jsonC) (channelMoves_next jsonC state label.1) hears.keeps
  unfold GatewayWorld.next
  cases taken : state.heard label.1 with
  | none =>
    rw [taken] at kept
    exact ⟨hears.ends, kept⟩
  | some payload =>
    rw [taken] at kept
    refine ⟨textsEnd_heartbeat jsonC hears.ends label.2 payload, ?_⟩
    show Keeps _ _ _ (gatewayHeartbeat jsonC label.2 (mqttPayload payload) state.gateway).status.reported
    rw [reported_heartbeat jsonC hears.ends]
    exact kept

end Worlds

/-! ### The card -/

/-- A text of the gateway on its card. -/
def textOrNone (text : List UInt8) : Json := .str (if text = [] then ascii "N/A" else text)

/-- The card for these members. -/
def reportedCard (status : Int32) (deviceId firmware : List UInt8) (lastSeen : Int64) : GatewayCard where
  dot := if status = 0 then .offline else .online
  deviceId := textOrNone deviceId
  firmware := textOrNone firmware
  lastSeen := if lastSeen = 0 then none else some (.num lastSeen.toInt 0)

theorem orText_str (text : List UInt8) : orText (some (.str text)) "N/A" = textOrNone text := by
  cases text with
  | nil => rfl
  | cons byte rest => rfl

/-- **What a poll draws**, from texts that are JSON as they are. -/
theorem drawGateway_eq (now : Int64) {status : GatewayHardwareStatus}
    (device : Verbatim false status.deviceId.text) (firmware : Verbatim false status.firmwareVersion.text) :
    drawGateway (handleGatewayStatus now status) = some (reportedCard status.gatewayReportedStatus
      status.deviceId.text status.firmwareVersion.text status.lastSeenAt) := by
  have reported : (gatewayJson now status).member? (ascii "status") =
      some (.num status.gatewayReportedStatus.toInt 0) := rfl
  have seen : (gatewayJson now status).member? (ascii "last_seen") =
      some (.num status.lastSeenAt.toInt 0) := rfl
  have card : gatewayCard (gatewayJson now status) = some
      { dot := if ((gatewayJson now status).member? (ascii "status")).any truthy then .online else .offline
        deviceId := orText (some (.str status.deviceId.text)) "N/A"
        firmware := orText (some (.str status.firmwareVersion.text)) "N/A"
        lastSeen := ((gatewayJson now status).member? (ascii "last_seen")).filter truthy } := rfl
  have never : truthy (.num status.lastSeenAt.toInt 0) = !decide (status.lastSeenAt = 0) := by
    rw [truthy, roundsToZero_int]
    congr 1
    rw [decide_eq_decide, ← Int64.toInt_inj, Int64.toInt_zero]
  have negated : ∀ {α : Type} (zero : Prop) [Decidable zero] (yes no : α),
      (if (!decide zero) = true then yes else no) = if zero then no else yes := by
    intro α zero _ yes no
    by_cases holds : zero <;> simp [holds]
  rw [drawGateway, gatewayStatus_decodes now status device firmware, Option.bind_some, card, reported, seen,
    Option.any_some, truthy_status, Option.filter_some, never, orText_str, orText_str, negated, negated,
    reportedCard]

/-! ### The law -/

section Law

variable (jsonC : JsonC)

/-- The gateway's world behind a run. -/
def gatewayAfter (labels : List (WorldLabel × UpdateIo)) : GatewayWorld :=
  run (GatewayWorld.next jsonC) {} labels

/-- The times at which heartbeats were handled. -/
def heardTimes (labels : List (WorldLabel × UpdateIo)) : List Int64 :=
  emitted (GatewayWorld.next jsonC)
    (fun state label => (((state.heard label.1).bind (heartbeatIn jsonC)).map fun _ => label.2.now).toList) {}
    labels

/-- **The law**: each member is that of the last heartbeat published with it, the time last seen is that of the
last delivery, and a poll draws them on the card, from texts that are JSON as they are. -/
structure LastHeartbeatHolds (labels : List (WorldLabel × UpdateIo)) (sent : List (List UInt8))
    (status : GatewayHardwareStatus) : Prop where
  reported : status.gatewayReportedStatus = replay 0 (sent.filterMap (statusIn jsonC))
  deviceId : status.deviceId.text = replay [] (sent.filterMap (deviceIdIn jsonC))
  firmware : status.firmwareVersion.text = replay [] (sent.filterMap (firmwareIn jsonC))
  lastSeen : status.lastSeenAt = replay 0 (heardTimes jsonC labels)
  drawn : Verbatim false (replay [] (sent.filterMap (deviceIdIn jsonC))) →
    Verbatim false (replay [] (sent.filterMap (firmwareIn jsonC))) → ∀ now card,
      loadGateway (some (handleGatewayStatus now status)) card =
        reportedCard (replay 0 (sent.filterMap (statusIn jsonC)))
          (replay [] (sent.filterMap (deviceIdIn jsonC))) (replay [] (sent.filterMap (firmwareIn jsonC)))
          (replay 0 (heardTimes jsonC labels))

/-- Every delivery of a heartbeat that can be parsed sets the time. -/
theorem lastSeenAt_gatewayAfter (labels : List (WorldLabel × UpdateIo)) :
    (gatewayAfter jsonC labels).gateway.status.lastSeenAt = replay 0 (heardTimes jsonC labels) := by
  have times := run_assign some (0 : Int64) (heardTimes jsonC labels)
  rw [List.filterMap_some] at times
  rw [← times]
  refine @run_emitted _ _ _ (GatewayWorld.next jsonC) _ _
    (fun state => state.gateway.status.lastSeenAt) (assign some) ?_ {} labels
  intro state label
  unfold GatewayWorld.next
  dsimp only
  cases state.heard label.1 with
  | none => rfl
  | some payload =>
    dsimp only
    rw [gatewayHeartbeat_eq, Option.bind_some]
    cases heartbeatIn jsonC payload with
    | none => rfl
    | some heartbeat =>
      show (state.gateway.hear label.2.now label.2.rowInserted heartbeat).status.lastSeenAt = _
      rw [status_hear]
      rfl

end Law

/-- **No report of the gateway is lost in the broker**, and none counts twice: once every heartbeat published has
been delivered, however often, the server holds and the page draws what the gateway reported last. -/
theorem heartbeats_determine_gateway (jsonC : JsonC) (labels : List (WorldLabel × UpdateIo))
    (caughtUp : ((gatewayAfter jsonC labels).world.channels .heartbeat).CaughtUp) :
    LastHeartbeatHolds jsonC labels ((gatewayAfter jsonC labels).world.channels .heartbeat).sent
      (gatewayAfter jsonC labels).gateway.status := by
  have hears : Hears jsonC (gatewayAfter jsonC labels) :=
    invariant_run (hears_next jsonC) (hears_initial jsonC) labels
  have state := state_of_keeps hears.keeps caughtUp
  rw [tells, run_paired, run_paired, run_assign, run_assign, run_assign] at state
  generalize ((gatewayAfter jsonC labels).world.channels .heartbeat).sent = sent at state ⊢
  have lastSeen := lastSeenAt_gatewayAfter jsonC labels
  generalize (gatewayAfter jsonC labels).gateway.status = status at state lastSeen ⊢
  have reported : status.gatewayReportedStatus = replay 0 (sent.filterMap (statusIn jsonC)) :=
    congrArg Prod.fst state
  have deviceId : status.deviceId.text = replay [] (sent.filterMap (deviceIdIn jsonC)) :=
    congrArg (fun members => members.2.1) state
  have firmware : status.firmwareVersion.text = replay [] (sent.filterMap (firmwareIn jsonC)) :=
    congrArg (fun members => members.2.2) state
  refine ⟨reported, deviceId, firmware, lastSeen, fun plainDevice plainFirmware now card => ?_⟩
  rw [← deviceId] at plainDevice
  rw [← firmware] at plainFirmware
  rw [← reported, ← deviceId, ← firmware, ← lastSeen, loadGateway, Option.bind_some,
    drawGateway_eq now plainDevice plainFirmware, Option.getD_some]

/-- The gateway reports its firmware, then an error without it. Both are delivered, and both again. -/
def redeliveredHeartbeats : List (WorldLabel × UpdateIo) :=
  let online := ascii "\x7b\"device_id\":\"gw\",\"firmware\":\"1.2\"\x7d"
  let failing := ascii "\x7b\"status\":0\x7d"
  [(.publish .heartbeat online, { now := 100 }), (.deliver .heartbeat, { now := 100 }),
    (.publish .heartbeat failing, { now := 110 }), (.deliver .heartbeat, { now := 110 }),
    (.resend .heartbeat, { now := 120 }), (.deliver .heartbeat, { now := 120 }),
    (.deliver .heartbeat, { now := 121 })]

theorem heartbeats_determine_redelivered :
    ((gatewayAfter JsonC.reference redeliveredHeartbeats).world.channels .heartbeat).CaughtUp ∧
      LastHeartbeatHolds JsonC.reference redeliveredHeartbeats
        ((gatewayAfter JsonC.reference redeliveredHeartbeats).world.channels .heartbeat).sent
        (gatewayAfter JsonC.reference redeliveredHeartbeats).gateway.status := by
  have caughtUp : ((gatewayAfter JsonC.reference redeliveredHeartbeats).world.channels .heartbeat).CaughtUp := by
    decide +kernel
  exact ⟨caughtUp, heartbeats_determine_gateway JsonC.reference redeliveredHeartbeats caughtUp⟩

end ServerPump
