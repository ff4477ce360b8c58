/-
**The gateway history: rows that miss a change.**

`update_gateway_heartbeat` writes a row only if one of four flags is set. None of them looks at the
device id, and none at the time since the last heartbeat; and the row is built from the members of
the message, with `is_online` always 1, while the state keeps what an absent member leaves.

* `gatewayHistory_hear`: a heartbeat appends its row exactly if a flag is set and
  the insertion succeeds.
* `newest_describes_iff`: after each heartbeat of a run the newest row describes the gateway's state
  exactly if each heartbeat tells what its row needs (`RowTells`).
* `returns_recorded_iff`: each return from offline is recorded exactly if each heartbeat that ends
  one is the first, or reports another status or firmware, and its row is inserted.
-/

import ServerPump.Proof.GatewayDot

namespace ServerPump

open CText

/-! ### Heartbeats -/

/-- What a heartbeat reports. -/
structure Heartbeat where
  deviceId : Option CStr
  firmware : Option CStr
  status : Int32

/-- The row a heartbeat is logged as. -/
def Heartbeat.row (now : Int64) (heartbeat : Heartbeat) : GatewayRow where
  isOnline := 1
  deviceId := (heartbeat.deviceId.map CStr.text).getD []
  firmware := (heartbeat.firmware.map CStr.text).getD []
  timestamp := now

/-- One of the four flags is set. -/
def Heartbeat.Changes (status : GatewayHardwareStatus) (heartbeat : Heartbeat) : Prop :=
  status.lastSeenAt = 0 ∨ status.gatewayReportedStatus ≠ heartbeat.status ∨ status.isOnline ≠ 1 ∨
    firmwareChanged heartbeat.firmware status

instance (status : GatewayHardwareStatus) (heartbeat : Heartbeat) :
    Decidable (heartbeat.Changes status) :=
  inferInstanceAs (Decidable (_ ∨ _ ∨ _ ∨ _))

/-- The state before the texts are copied. -/
def GatewayHardwareStatus.stamp (now : Int64) (reported : Int32) (status : GatewayHardwareStatus) :
    GatewayHardwareStatus :=
  { status with isOnline := 1, gatewayReportedStatus := reported, lastSeenAt := now }

/-- The update a heartbeat leads to. -/
def GatewaySide.hear (now : Int64) (inserted : Bool) (heartbeat : Heartbeat) (side : GatewaySide) :
    GatewaySide :=
  updateGatewayHeartbeat now inserted heartbeat.deviceId heartbeat.firmware heartbeat.status side

theorem status_hear (now : Int64) (inserted : Bool) (heartbeat : Heartbeat) (side : GatewaySide) :
    (side.hear now inserted heartbeat).status =
      (side.status.stamp now heartbeat.status).copyTexts heartbeat.deviceId heartbeat.firmware := by
  unfold GatewaySide.hear updateGatewayHeartbeat
  dsimp only
  split <;> rfl

/-- **A heartbeat appends its row exactly if a flag is set and the insertion succeeds.** -/
theorem gatewayHistory_hear (now : Int64) (inserted : Bool) (heartbeat : Heartbeat)
    (side : GatewaySide) :
    (side.hear now inserted heartbeat).gatewayHistory = side.gatewayHistory ++
      if heartbeat.Changes side.status ∧ inserted then [heartbeat.row now] else [] := by
  unfold GatewaySide.hear updateGatewayHeartbeat Heartbeat.Changes
  dsimp only
  split
  · rename_i changes
    simp only [changes, true_and]
    show dbInsertGatewayStatus inserted 1 heartbeat.deviceId heartbeat.firmware now
      side.gatewayHistory = _
    unfold dbInsertGatewayStatus
    split
    · rfl
    · exact (List.append_nil _).symm
  · rename_i same
    rw [if_neg fun both => same both.1, List.append_nil]

section Deliveries

variable (jsonC : JsonC)

/-- The heartbeat of a delivery, if it is one and can be parsed. -/
def heartbeatOf (delivery : Delivery) : Option Heartbeat :=
  match delivery.input with
  | .mqtt topicName payload =>
    if topicName = "gateway/heartbeat" then
      (jsonC.tokenerParse (mqttPayload payload)).map fun parsed =>
        { deviceId := (jsonC.objectGetEx parsed "device_id").bind jsonC.getString
          firmware := (jsonC.objectGetEx parsed "firmware").bind jsonC.getString
          status := match jsonC.objectGetEx parsed "status" with
            | some value => jsonC.getInt value
            | none => 1 }
    else none
  | .feedbackPost _ => none

/-- A heartbeat is handled at the time of its delivery. -/
theorem heartbeatAt_eq (delivery : Delivery) :
    heartbeatAt jsonC delivery = (heartbeatOf jsonC delivery).map fun _ => delivery.io.report.now := by
  obtain ⟨input, io⟩ := delivery
  cases input with
  | feedbackPost payload => rfl
  | mqtt topicName payload =>
    unfold heartbeatAt heartbeatOf
    dsimp only
    by_cases topic : topicName = "gateway/heartbeat"
    · cases parse : jsonC.tokenerParse (mqttPayload payload) with
      | none => simp [topic]
      | some parsed => simp [topic]
    · simp [topic]

variable {jsonC}

theorem handle_of_heartbeat {delivery : Delivery} {heartbeat : Heartbeat}
    (heard : heartbeatOf jsonC delivery = some heartbeat) (server : ServerState) :
    (handle jsonC server delivery).gateway =
      server.gateway.hear delivery.io.report.now delivery.io.report.rowInserted heartbeat := by
  obtain ⟨input, io⟩ := delivery
  cases input with
  | feedbackPost payload => cases heard
  | mqtt topicName payload =>
    obtain ⟨topic, heard⟩ := Option.ite_none_right_eq_some.mp heard
    obtain ⟨parsed, parses, rfl⟩ := Option.map_eq_some_iff.mp heard
    dsimp only [handle, mqttMessageArrived]
    rw [if_pos topic, gatewayHeartbeat, parses]
    rfl

theorem handle_of_noHeartbeat {delivery : Delivery} (silent : heartbeatOf jsonC delivery = none)
    (server : ServerState) : (handle jsonC server delivery).gateway = server.gateway := by
  refine handle_silent ?_ server
  rw [heartbeatAt_eq, silent, Option.map_none]

end Deliveries

/-! ### The texts the state keeps -/

/-- The last cell of each array is a NUL that no heartbeat writes to. -/
structure TextsEnd (status : GatewayHardwareStatus) : Prop where
  deviceId : status.deviceId.ClearFrom 63
  firmware : status.firmwareVersion.ClearFrom 31

theorem textsEnd_initial : TextsEnd {} :=
  ⟨CharArray.clearFrom_zero 64 63, CharArray.clearFrom_zero 32 31⟩

theorem textsEnd_stamp {status : GatewayHardwareStatus} (ends : TextsEnd status) (now : Int64)
    (reported : Int32) : TextsEnd (status.stamp now reported) :=
  ⟨ends.deviceId, ends.firmware⟩

theorem textsEnd_copyTexts {status : GatewayHardwareStatus} (ends : TextsEnd status)
    (deviceId firmware : Option CStr) : TextsEnd (status.copyTexts deviceId firmware) := by
  constructor
  · cases deviceId with
    | none => exact ends.deviceId
    | some text => exact clearFrom_strncpy (by decide) ends.deviceId
  · cases firmware with
    | none => exact ends.firmware
    | some text => exact clearFrom_strncpy (by decide) ends.firmware

theorem deviceId_copyTexts {status : GatewayHardwareStatus} (ends : TextsEnd status)
    (deviceId firmware : Option CStr) :
    (status.copyTexts deviceId firmware).deviceId.text =
      deviceId.elim status.deviceId.text fun text => text.text.take 63 := by
  cases deviceId with
  | none => rfl
  | some text => exact text_strncpy (by decide) ends.deviceId text.nulFree

theorem firmware_copyTexts {status : GatewayHardwareStatus} (ends : TextsEnd status)
    (deviceId firmware : Option CStr) :
    (status.copyTexts deviceId firmware).firmwareVersion.text =
      firmware.elim status.firmwareVersion.text fun text => text.text.take 31 := by
  cases firmware with
  | none => rfl
  | some text => exact text_strncpy (by decide) ends.firmware text.nulFree

/-! ### The newest row -/

/-- A row describes the gateway as its state does. -/
structure Describes (row : GatewayRow) (status : GatewayHardwareStatus) : Prop where
  deviceId : row.deviceId.take 63 = status.deviceId.text
  firmware : row.firmware.take 31 = status.firmwareVersion.text
  isOnline : row.isOnline ≠ 0 ↔ status.gatewayReportedStatus ≠ 0

/-- The newest row describes the gateway. -/
def NewestDescribes (side : GatewaySide) : Prop :=
  ∃ row, side.gatewayHistory.getLast? = some row ∧ Describes row side.status

/-- A heartbeat tells what its row needs: one that is logged has every member the state knows and a
nonzero status, one that is not logged has the stored device id or none. -/
def RowTells (status : GatewayHardwareStatus) (heartbeat : Heartbeat) : Prop :=
  if heartbeat.Changes status then
    (heartbeat.deviceId = none → status.deviceId.text = []) ∧
      (heartbeat.firmware = none → status.firmwareVersion.text = []) ∧ heartbeat.status ≠ 0
  else ∀ deviceId ∈ heartbeat.deviceId, deviceId.text.take 63 = status.deviceId.text

/-- What a missing member is logged as, and what it leaves in the state. -/
theorem missing_iff (member : Option CStr) (count : ℕ) (stored : List UInt8) :
    ((member.map CStr.text).getD []).take count = (member.elim stored fun text => text.text.take count) ↔
      (member = none → stored = []) := by
  cases member with
  | none =>
    show ([] : List UInt8).take count = stored ↔ _
    rw [List.take_nil, eq_comm]
    exact ⟨fun empty _ => empty, fun empty => empty rfl⟩
  | some text => exact iff_of_true rfl nofun

/-- A member that is given is what is stored already. -/
theorem given_iff (member : Option CStr) (count : ℕ) (stored : List UInt8) :
    stored = (member.elim stored fun text => text.text.take count) ↔
      ∀ text ∈ member, text.text.take count = stored := by
  cases member with
  | none => exact iff_of_true rfl nofun
  | some given =>
    rw [Option.elim_some, eq_comm]
    exact ⟨fun equal text same => Option.some.inj same ▸ equal, fun equal => equal given rfl⟩

/-- A firmware that is no change is stored as it is. -/
theorem firmware_unchanged {status : GatewayHardwareStatus} (ends : TextsEnd status)
    {firmware : Option CStr} (same : ¬ firmwareChanged firmware status) :
    (firmware.elim status.firmwareVersion.text fun text => text.text.take 31) =
      status.firmwareVersion.text := by
  cases firmware with
  | none => rfl
  | some text =>
    have equal : status.firmwareVersion.text = text.text := by
      by_contra differs
      exact same ⟨text, rfl, differs⟩
    rw [Option.elim_some, ← equal]
    exact CharArray.take_text ends.firmware

/-- The row of a heartbeat describes the state after it exactly if the state knew nothing else. -/
theorem describes_row_iff (now : Int64) (inserted : Bool) (heartbeat : Heartbeat) {side : GatewaySide}
    (ends : TextsEnd side.status) :
    Describes (heartbeat.row now) (side.hear now inserted heartbeat).status ↔
      (heartbeat.deviceId = none → side.status.deviceId.text = []) ∧
        (heartbeat.firmware = none → side.status.firmwareVersion.text = []) ∧
          heartbeat.status ≠ 0 := by
  have stamped := textsEnd_stamp ends now heartbeat.status
  have online : (1 : Int32) ≠ 0 := by decide
  rw [← missing_iff heartbeat.deviceId 63, ← missing_iff heartbeat.firmware 31, status_hear]
  constructor
  · rintro ⟨deviceId, firmware, isOnline⟩
    rw [deviceId_copyTexts stamped] at deviceId
    rw [firmware_copyTexts stamped] at firmware
    exact ⟨deviceId, firmware, isOnline.mp online⟩
  · rintro ⟨deviceId, firmware, nonzero⟩
    refine ⟨?_, ?_, fun _ => nonzero, fun _ => online⟩
    · rw [deviceId_copyTexts stamped]
      exact deviceId
    · rw [firmware_copyTexts stamped]
      exact firmware

/-- A heartbeat that is no change keeps the row before it up to date exactly if it has the stored
device id or none. -/
theorem describes_unchanged_iff (now : Int64) (inserted : Bool) {heartbeat : Heartbeat}
    {side : GatewaySide} {row : GatewayRow} (ends : TextsEnd side.status)
    (same : ¬ heartbeat.Changes side.status) (describes : Describes row side.status) :
    Describes row (side.hear now inserted heartbeat).status ↔
      ∀ deviceId ∈ heartbeat.deviceId, deviceId.text.take 63 = side.status.deviceId.text := by
  have stamped := textsEnd_stamp ends now heartbeat.status
  obtain ⟨-, sameStatus, -, sameFirmware⟩ : side.status.lastSeenAt ≠ 0 ∧
      side.status.gatewayReportedStatus = heartbeat.status ∧ side.status.isOnline = 1 ∧
        ¬ firmwareChanged heartbeat.firmware side.status := by
    simpa only [Heartbeat.Changes, not_or, not_not] using same
  rw [← given_iff heartbeat.deviceId 63, status_hear]
  constructor
  · intro after
    have told := after.deviceId
    rw [deviceId_copyTexts stamped] at told
    exact describes.deviceId.symm.trans told
  · intro told
    refine ⟨?_, ?_, ?_⟩
    · rw [deviceId_copyTexts stamped]
      exact describes.deviceId.trans told
    · rw [firmware_copyTexts stamped]
      exact describes.firmware.trans (firmware_unchanged ends sameFirmware).symm
    · exact sameStatus ▸ describes.isOnline

/-- The texts end, and once a heartbeat was handled the newest row describes the gateway. -/
structure HistoryKept (side : GatewaySide) : Prop where
  ends : TextsEnd side.status
  describes : side.status.isOnline = 1 → NewestDescribes side

theorem isOnline_hear (now : Int64) (inserted : Bool) (heartbeat : Heartbeat) (side : GatewaySide) :
    (side.hear now inserted heartbeat).status.isOnline = 1 := by
  rw [status_hear]
  rfl

/-- **The newest row describes the gateway after a heartbeat exactly if the heartbeat tells what its row
needs.** -/
theorem newestDescribes_hear_iff (now : Int64) (heartbeat : Heartbeat) {side : GatewaySide}
    (kept : HistoryKept side) :
    NewestDescribes (side.hear now true heartbeat) ↔ RowTells side.status heartbeat := by
  unfold NewestDescribes RowTells
  rw [gatewayHistory_hear]
  by_cases changes : heartbeat.Changes side.status
  · rw [if_pos ⟨changes, rfl⟩, if_pos changes, List.getLast?_concat,
      ← describes_row_iff now true heartbeat kept.ends]
    constructor
    · rintro ⟨row, same, describes⟩
      exact Option.some.inj same ▸ describes
    · exact fun describes => ⟨_, rfl, describes⟩
  · rw [if_neg fun both => changes both.1, if_neg changes, List.append_nil]
    have online : side.status.isOnline = 1 := by
      by_contra offline
      exact changes (.inr (.inr (.inl offline)))
    obtain ⟨newest, isNewest, describes⟩ := kept.describes online
    rw [← describes_unchanged_iff now true kept.ends changes describes, isNewest]
    constructor
    · rintro ⟨row, same, after⟩
      exact Option.some.inj same ▸ after
    · exact fun after => ⟨newest, rfl, after⟩

/-! ### Runs -/

section Runs

variable (jsonC : JsonC)

/-- If the delivery is a heartbeat, the newest row describes the gateway after it. -/
def DescribedAfter (server : ServerState) (delivery : Delivery) : Prop :=
  (heartbeatOf jsonC delivery).isSome → NewestDescribes (handle jsonC server delivery).gateway

/-- If the delivery is a heartbeat, it tells what its row needs. -/
def TellsItsRow (server : ServerState) (delivery : Delivery) : Prop :=
  ∀ heartbeat ∈ heartbeatOf jsonC delivery, RowTells server.gateway.status heartbeat

theorem described_iff_tells {server : ServerState} {delivery : Delivery}
    (inserted : delivery.io.report.rowInserted = true) (kept : HistoryKept server.gateway) :
    DescribedAfter jsonC server delivery ↔ TellsItsRow jsonC server delivery := by
  unfold DescribedAfter TellsItsRow
  cases heard : heartbeatOf jsonC delivery with
  | none => exact iff_of_true nofun nofun
  | some heartbeat =>
    rw [handle_of_heartbeat heard, inserted, newestDescribes_hear_iff _ heartbeat kept]
    constructor
    · intro tells other same
      exact Option.some.inj same ▸ tells rfl
    · exact fun tells _ => tells heartbeat rfl

theorem historyKept_handle {server : ServerState} {delivery : Delivery}
    (kept : HistoryKept server.gateway) (described : DescribedAfter jsonC server delivery) :
    HistoryKept (handle jsonC server delivery).gateway := by
  cases heard : heartbeatOf jsonC delivery with
  | none => exact handle_of_noHeartbeat heard server ▸ kept
  | some heartbeat =>
    refine ⟨?_, fun _ => described (Option.isSome_of_eq_some heard)⟩
    rw [handle_of_heartbeat heard, status_hear]
    exact textsEnd_copyTexts (textsEnd_stamp kept.ends _ _) _ _

theorem historyKept_initial : HistoryKept {} := ⟨textsEnd_initial, fun online => absurd online (by decide)⟩

/-- **After each heartbeat of a run the newest row describes the gateway exactly if each heartbeat tells
what its row needs**, where every insertion succeeds. -/
theorem newest_describes_iff (deliveries : List Delivery)
    (succeeds : ∀ delivery ∈ deliveries, delivery.Succeeds) :
    Runs.Guarded (handle jsonC) (DescribedAfter jsonC) {} deliveries ↔
      Runs.Guarded (handle jsonC) (TellsItsRow jsonC) {} deliveries := by
  have kept : ∀ (server : ServerState) (delivery : Delivery), delivery.Succeeds →
      HistoryKept server.gateway → DescribedAfter jsonC server delivery →
        HistoryKept (handle jsonC server delivery).gateway :=
    fun _ _ _ kept described => historyKept_handle jsonC kept described
  have agree : ∀ (server : ServerState) (delivery : Delivery), HistoryKept server.gateway →
      delivery.Succeeds →
        (DescribedAfter jsonC server delivery ↔ TellsItsRow jsonC server delivery) :=
    fun _ _ kept succeeds => described_iff_tells jsonC succeeds.1.1 kept
  exact Runs.guarded_congr_of_kept kept agree historyKept_initial succeeds

end Runs

/-- Another gateway takes over, with the same firmware and status. -/
def deviceReplaced : List Delivery :=
  [⟨.mqtt "gateway/heartbeat" (ascii "\x7b\"device_id\":\"gw1\",\"firmware\":\"1.0\"\x7d"), .at 100⟩,
    ⟨.mqtt "gateway/heartbeat" (ascii "\x7b\"device_id\":\"gw2\",\"firmware\":\"1.0\"\x7d"), .at 101⟩]

theorem newest_describes_deviceReplaced :
    (∀ delivery ∈ deviceReplaced, delivery.Succeeds) ∧
      (Runs.Guarded (handle JsonC.reference) (DescribedAfter JsonC.reference) {} deviceReplaced ↔
        Runs.Guarded (handle JsonC.reference) (TellsItsRow JsonC.reference) {} deviceReplaced) := by
  have succeeds : ∀ delivery ∈ deviceReplaced, delivery.Succeeds := by decide
  exact ⟨succeeds, newest_describes_iff JsonC.reference deviceReplaced succeeds⟩

/-- The second heartbeat changes the stored device id and is not logged. -/
theorem replacement_unrecorded :
    ¬ ∀ deliveries : List Delivery, (∀ delivery ∈ deliveries, delivery.Succeeds) →
      Runs.Guarded (handle JsonC.reference) (DescribedAfter JsonC.reference) {} deliveries := by
  intro described
  obtain ⟨-, after, -⟩ := described deviceReplaced (by decide)
  obtain ⟨row, newest, describes⟩ := after (by decide +kernel)
  have told := congrArg (Option.map fun row : GatewayRow => row.deviceId.take 63) newest
  rw [Option.map_some, describes.deviceId] at told
  exact absurd told (by decide +kernel)

/-! ### Returns from offline -/

section Returns

variable (jsonC : JsonC)

/-- If the delivery is a heartbeat and a poll just before it says offline, it is recorded. -/
def ReturnRecorded (server : ServerState) (delivery : Delivery) : Prop :=
  (heartbeatOf jsonC delivery).isSome →
    gatewayOnline delivery.io.report.now server.gateway.status = false →
      ∃ row, (handle jsonC server delivery).gateway.gatewayHistory =
        server.gateway.gatewayHistory ++ [row]

/-- If the delivery is a heartbeat and a poll just before it says offline, its row is inserted and it
is the first one, or reports another status or firmware. -/
def ReturnChanges (server : ServerState) (delivery : Delivery) : Prop :=
  ∀ heartbeat ∈ heartbeatOf jsonC delivery,
    gatewayOnline delivery.io.report.now server.gateway.status = false →
      delivery.io.report.rowInserted = true ∧
        (server.gateway.status.lastSeenAt = 0 ∨
          server.gateway.status.gatewayReportedStatus ≠ heartbeat.status ∨
            firmwareChanged heartbeat.firmware server.gateway.status)

/-- The stored flag says only whether any heartbeat was handled. -/
def FlagIsHeard (status : GatewayHardwareStatus) : Prop := status.isOnline = 1 ∨ status.lastSeenAt = 0

theorem flagIsHeard_handle (server : ServerState) (delivery : Delivery)
    (flag : FlagIsHeard server.gateway.status) :
    FlagIsHeard (handle jsonC server delivery).gateway.status := by
  cases heard : heartbeatOf jsonC delivery with
  | none => exact handle_of_noHeartbeat heard server ▸ flag
  | some heartbeat =>
    rw [handle_of_heartbeat heard]
    exact .inl (isOnline_hear _ _ heartbeat _)

/-- The flag of a change of `is_online` adds nothing to that of the first heartbeat. -/
theorem changes_iff {status : GatewayHardwareStatus} (flag : FlagIsHeard status) (heartbeat : Heartbeat) :
    heartbeat.Changes status ↔
      status.lastSeenAt = 0 ∨ status.gatewayReportedStatus ≠ heartbeat.status ∨
        firmwareChanged heartbeat.firmware status := by
  unfold Heartbeat.Changes
  rcases flag with online | first
  · simp only [online, ne_eq, not_true_eq_false, false_or]
  · simp only [first, true_or]

theorem recorded_iff_changes {server : ServerState} (delivery : Delivery)
    (flag : FlagIsHeard server.gateway.status) :
    ReturnRecorded jsonC server delivery ↔ ReturnChanges jsonC server delivery := by
  unfold ReturnRecorded ReturnChanges
  cases heard : heartbeatOf jsonC delivery with
  | none => exact iff_of_true nofun nofun
  | some heartbeat =>
    have logged : (∃ row, (handle jsonC server delivery).gateway.gatewayHistory =
        server.gateway.gatewayHistory ++ [row]) ↔
          delivery.io.report.rowInserted = true ∧ heartbeat.Changes server.gateway.status := by
      rw [handle_of_heartbeat heard, gatewayHistory_hear]
      constructor
      · rintro ⟨row, grown⟩
        by_contra unlogged
        rw [if_neg fun both => unlogged both.symm] at grown
        cases List.append_cancel_left grown
      · exact fun both => ⟨_, by rw [if_pos both.symm]⟩
    rw [logged, changes_iff flag]
    constructor
    · intro recorded other same
      exact Option.some.inj same ▸ recorded rfl
    · exact fun changes _ => changes heartbeat rfl

/-- **Each return from offline in a run is recorded exactly if each heartbeat that ends one is the first,
or reports another status or firmware, and its row is inserted.** -/
theorem returns_recorded_iff (deliveries : List Delivery) :
    Runs.Guarded (handle jsonC) (ReturnRecorded jsonC) {} deliveries ↔
      Runs.Guarded (handle jsonC) (ReturnChanges jsonC) {} deliveries := by
  have kept : ∀ (server : ServerState) (delivery : Delivery), True →
      FlagIsHeard server.gateway.status →
        FlagIsHeard (handle jsonC server delivery).gateway.status :=
    fun server delivery _ flag => flagIsHeard_handle jsonC server delivery flag
  have agree : ∀ (server : ServerState) (delivery : Delivery),
      FlagIsHeard server.gateway.status → True →
        (ReturnRecorded jsonC server delivery ↔ ReturnChanges jsonC server delivery) :=
    fun _ delivery flag _ => recorded_iff_changes jsonC delivery flag
  exact Runs.guarded_congr kept agree (.inr rfl) fun _ _ => trivial

end Returns

/-- The gateway falls silent for 100 seconds. -/
def silentThenBack : List Delivery :=
  [⟨.mqtt "gateway/heartbeat" (ascii "\x7b\"device_id\":\"gw\",\"firmware\":\"1.0\"\x7d"), .at 100⟩,
    ⟨.mqtt "gateway/heartbeat" (ascii "\x7b\"device_id\":\"gw\",\"firmware\":\"1.0\"\x7d"), .at 200⟩]

/-- Its return is not recorded. -/
theorem return_unrecorded :
    ¬ ∀ deliveries : List Delivery, (∀ delivery ∈ deliveries, delivery.Succeeds) →
      (heartbeats JsonC.reference deliveries).Pairwise (· ≤ ·) →
        (∀ time ∈ heartbeats JsonC.reference deliveries, 0 < time) →
          Runs.Guarded (handle JsonC.reference) (ReturnRecorded JsonC.reference) {} deliveries := by
  intro recorded
  have times : heartbeats JsonC.reference silentThenBack = [100, 200] := by decide +kernel
  have later : (100 : Int64) ≤ 200 := by decide
  have afterEpoch : (0 : Int64) < 100 ∧ (0 : Int64) < 200 := by decide
  obtain ⟨-, returned, -⟩ := recorded silentThenBack (by decide)
    (times ▸ List.pairwise_pair.mpr later)
    (times ▸ List.forall_mem_cons.mpr ⟨afterEpoch.1, List.forall_mem_singleton.mpr afterEpoch.2⟩)
  obtain ⟨row, grown⟩ := returned (by decide +kernel) (by decide +kernel)
  have longer := congrArg List.length grown
  rw [List.length_append, List.length_singleton] at longer
  exact absurd longer (by decide +kernel)

end ServerPump
