/-
**The same heartbeat twice.**

A gateway sends its heartbeat again and again, and the history is to have a row only where something
changed. The change test compares the firmware as it is reported with the firmware as it is stored,
which `strncpy` has cut at 31 bytes: a longer one is a change each time.

* `status_hear_again`: what a repeated heartbeat does to the status.
* `changes_again_iff`: when a repeated heartbeat is a change.
* `repeated_heartbeat_iff`: in every reachable state the second of two equal heartbeats adds no row and
  changes the time alone exactly if its firmware fits, or its insertion fails.
-/

import ServerPump.Proof.GatewayHistory
import ServerPump.Proof.Restart

namespace ServerPump

open CText

/-- **The law**: no row is added, and the status changes in the time of the last heartbeat alone. -/
structure OnlySeenAgain (before after : GatewaySide) : Prop where
  rows : after.gatewayHistory = before.gatewayHistory
  status : { after.status with lastSeenAt := before.status.lastSeenAt } = before.status

/-- The firmware, if the heartbeat has one, is stored without a cut. -/
def Heartbeat.FirmwareFits (heartbeat : Heartbeat) : Prop :=
  ∀ text ∈ heartbeat.firmware, text.text.length ≤ 31

/-! ### Two heartbeats -/

theorem copyTexts_stamp_copyTexts (status : GatewayHardwareStatus) (deviceId firmware : Option CStr)
    (now : Int64) :
    (((status.copyTexts deviceId firmware).stamp now status.gatewayReportedStatus).copyTexts
        deviceId firmware) =
      { status.copyTexts deviceId firmware with isOnline := 1, lastSeenAt := now } := by
  have deviceIdAgain : ∀ text : CStr, strncpy (strncpy status.deviceId text.text 63 (by decide))
      text.text 63 (by decide) = strncpy status.deviceId text.text 63 (by decide) :=
    fun text => strncpy_strncpy _ _ _
  have firmwareAgain : ∀ text : CStr, strncpy (strncpy status.firmwareVersion text.text 31 (by decide))
      text.text 31 (by decide) = strncpy status.firmwareVersion text.text 31 (by decide) :=
    fun text => strncpy_strncpy _ _ _
  cases deviceId with
  | none =>
    cases firmware with
    | none => rfl
    | some text => simp [GatewayHardwareStatus.copyTexts, GatewayHardwareStatus.stamp, firmwareAgain]
  | some first =>
    cases firmware with
    | none => simp [GatewayHardwareStatus.copyTexts, GatewayHardwareStatus.stamp, deviceIdAgain]
    | some text =>
      simp [GatewayHardwareStatus.copyTexts, GatewayHardwareStatus.stamp, deviceIdAgain, firmwareAgain]

section Twice

variable {side : GatewaySide} (heartbeat : Heartbeat) (first second : Int64) (inserted again : Bool)

/-- **A repeated heartbeat changes the time of the status alone.** -/
theorem status_hear_again :
    ((side.hear first inserted heartbeat).hear second again heartbeat).status =
      { (side.hear first inserted heartbeat).status with lastSeenAt := second } := by
  rw [status_hear, status_hear]
  exact copyTexts_stamp_copyTexts (side.status.stamp first heartbeat.status) _ _ second

/-- **A repeated heartbeat is a change exactly if its firmware was cut.** -/
theorem changes_again_iff (ends : TextsEnd side.status) (afterEpoch : first ≠ 0) :
    heartbeat.Changes (side.hear first inserted heartbeat).status ↔ ¬ heartbeat.FirmwareFits := by
  have firmware := firmware_copyTexts (textsEnd_stamp ends first heartbeat.status)
    heartbeat.deviceId heartbeat.firmware
  rw [status_hear]
  generalize stored : (side.status.stamp first heartbeat.status).copyTexts heartbeat.deviceId
    heartbeat.firmware = status at firmware ⊢
  have seen : status.lastSeenAt = first := by rw [← stored]; rfl
  have reported : status.gatewayReportedStatus = heartbeat.status := by rw [← stored]; rfl
  have online : status.isOnline = 1 := by rw [← stored]; rfl
  have cut : heartbeat.Changes status ↔ firmwareChanged heartbeat.firmware status := by
    unfold Heartbeat.Changes
    rw [seen, reported, online]
    simp [afterEpoch]
  rw [cut]
  unfold firmwareChanged Heartbeat.FirmwareFits
  rw [not_forall]
  refine exists_congr fun text => ?_
  rw [Classical.not_imp]
  refine and_congr_right fun isFirmware => ?_
  rw [firmware, Option.mem_def.mp isFirmware, Option.elim_some, Ne, List.take_eq_self_iff]

/-- **The second of two equal heartbeats is idle exactly if its firmware fits**, or its insertion
fails. -/
theorem hear_again_iff (ends : TextsEnd side.status) (afterEpoch : first ≠ 0) :
    OnlySeenAgain (side.hear first inserted heartbeat)
        ((side.hear first inserted heartbeat).hear second again heartbeat) ↔
      heartbeat.FirmwareFits ∨ again = false := by
  have sameRows : ((side.hear first inserted heartbeat).hear second again heartbeat).gatewayHistory =
      (side.hear first inserted heartbeat).gatewayHistory ↔ heartbeat.FirmwareFits ∨ again = false := by
    have changes := changes_again_iff heartbeat first inserted ends afterEpoch
    rw [gatewayHistory_hear, ← Bool.not_eq_true, ← not_not (a := heartbeat.FirmwareFits), ← changes,
      ← not_and_or]
    by_cases added : heartbeat.Changes (side.hear first inserted heartbeat).status ∧ again = true
    · rw [if_pos added]
      exact iff_of_false (by simp) (not_not.mpr added)
    · rw [if_neg added, List.append_nil]
      exact iff_of_true rfl added
  rw [← sameRows]
  refine ⟨fun idle => idle.rows, fun rows => ⟨rows, ?_⟩⟩
  rw [status_hear_again]

end Twice

/-! ### Reachable states -/

section Reachable

variable (jsonC : JsonC)

theorem textsEnd_serve {server : ServerState} (event : Event) (ends : TextsEnd server.gateway.status) :
    TextsEnd (serve jsonC server event).gateway.status := by
  cases event with
  | restart => exact textsEnd_initial
  | delivery delivery =>
    show TextsEnd (handle jsonC server delivery).gateway.status
    cases heard : heartbeatOf jsonC delivery with
    | none =>
      rw [handle_of_noHeartbeat heard]
      exact ends
    | some heartbeat =>
      rw [handle_of_heartbeat heard, status_hear]
      exact textsEnd_copyTexts (textsEnd_stamp ends _ _) _ _

theorem textsEnd_run (events : List Event) :
    TextsEnd (Runs.run (serve jsonC) {} events).gateway.status := by
  have kept : ∀ (server : ServerState) (event : Event), TextsEnd server.gateway.status →
      TextsEnd (serve jsonC server event).gateway.status :=
    fun _ event ends => textsEnd_serve jsonC event ends
  exact Runs.invariant_run kept textsEnd_initial events

/-- The server behind a message on `gateway/heartbeat`. -/
def afterHeartbeat (payload : List UInt8) (io : MessageIo) (server : ServerState) : ServerState :=
  handle jsonC server ⟨.mqtt "gateway/heartbeat" payload, io⟩

/-- **The same payload twice**: in every reachable state the second one adds no row and changes the
time of the last heartbeat alone exactly if its firmware has at most 31 bytes, or its insertion
fails. -/
theorem repeated_heartbeat_iff (events : List Event) (payload : List UInt8) (first second : MessageIo)
    (afterEpoch : 0 < first.report.now) :
    OnlySeenAgain (afterHeartbeat jsonC payload first (Runs.run (serve jsonC) {} events)).gateway
        (afterHeartbeat jsonC payload second
          (afterHeartbeat jsonC payload first (Runs.run (serve jsonC) {} events))).gateway ↔
      ∀ heartbeat ∈ heartbeatOf jsonC ⟨.mqtt "gateway/heartbeat" payload, first⟩,
        heartbeat.FirmwareFits ∨ second.report.rowInserted = false := by
  have ends := textsEnd_run jsonC events
  generalize Runs.run (serve jsonC) {} events = server at ends ⊢
  have clock : first.report.now ≠ 0 := by
    rintro zero
    rw [zero] at afterEpoch
    exact absurd afterEpoch (by decide)
  have again : heartbeatOf jsonC ⟨.mqtt "gateway/heartbeat" payload, second⟩ =
      heartbeatOf jsonC ⟨.mqtt "gateway/heartbeat" payload, first⟩ := rfl
  unfold afterHeartbeat
  cases heard : heartbeatOf jsonC ⟨.mqtt "gateway/heartbeat" payload, first⟩ with
  | none =>
    rw [handle_of_noHeartbeat (again.trans heard)]
    exact iff_of_true ⟨rfl, rfl⟩ nofun
  | some heartbeat =>
    rw [handle_of_heartbeat (again.trans heard), handle_of_heartbeat heard,
      hear_again_iff heartbeat _ _ _ _ ends clock]
    simp only [Option.mem_some_iff, forall_eq']

end Reachable

/-- A heartbeat whose firmware version is longer than 31 bytes. -/
def longFirmware : List UInt8 :=
  ascii "\x7b\"device_id\":\"gw1\",\"firmware\":\"v1.4.2-20240115-nightly-build-077\"\x7d"

theorem repeated_heartbeat_longFirmware :
    0 < (MessageIo.at 100).report.now ∧
      (OnlySeenAgain (afterHeartbeat JsonC.reference longFirmware (.at 100)
          (Runs.run (serve JsonC.reference) {} [.restart])).gateway
          (afterHeartbeat JsonC.reference longFirmware (.at 101)
            (afterHeartbeat JsonC.reference longFirmware (.at 100)
              (Runs.run (serve JsonC.reference) {} [.restart]))).gateway ↔
        ∀ heartbeat ∈ heartbeatOf JsonC.reference ⟨.mqtt "gateway/heartbeat" longFirmware, .at 100⟩,
          heartbeat.FirmwareFits ∨ (MessageIo.at 101).report.rowInserted = false) := by
  have afterEpoch : 0 < (MessageIo.at 100).report.now := by decide
  exact ⟨afterEpoch,
    repeated_heartbeat_iff JsonC.reference [.restart] longFirmware (.at 100) (.at 101) afterEpoch⟩

/-- Each of two equal heartbeats is logged. -/
theorem long_firmware_logged_again :
    ¬ ∀ (payload : List UInt8) (first second : MessageIo), 0 < first.report.now →
      OnlySeenAgain (afterHeartbeat JsonC.reference payload first {}).gateway
        (afterHeartbeat JsonC.reference payload second
          (afterHeartbeat JsonC.reference payload first {})).gateway := by
  intro idle
  have rows := (idle longFirmware (.at 100) (.at 101) (by decide)).rows
  have lengths := congrArg List.length rows
  exact absurd lengths (by decide +kernel)

end ServerPump
