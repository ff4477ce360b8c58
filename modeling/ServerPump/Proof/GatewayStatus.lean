/-
**The gateway status: a body that pastes its strings.**

`handle_gateway_status` prints the device id and the firmware between quotes as they are.

* `handleGatewayStatus_eq`: the body is the object of its five members, and nothing is cut off.
* `gatewayStatus_decodes_iff`: it is well formed and decodes to the stored values exactly if both
  texts are verbatim, that is UTF-8 without quotes, backslashes and control characters.
-/

import ServerPump.Library.JsonDecode
import ServerPump.Library.Runs
import ServerPump.Server.System

namespace ServerPump

open CText JsonText

/-- The names and texts of the members. -/
def gatewayMembers (now : Int64) (status : GatewayHardwareStatus) : List (List UInt8 × List UInt8) :=
  [(ascii "status", printInt status.gatewayReportedStatus.toInt),
    (ascii "is_online", printInt (if gatewayOnline now status then 1 else 0)),
    (ascii "device_id", 34 :: status.deviceId.text ++ [34]),
    (ascii "firmware", 34 :: status.firmwareVersion.text ++ [34]),
    (ascii "last_seen", printInt status.lastSeenAt.toInt)]

/-- The values a reader should get. -/
def gatewayJson (now : Int64) (status : GatewayHardwareStatus) : Json :=
  .obj [(ascii "status", .num status.gatewayReportedStatus.toInt 0),
    (ascii "is_online", .num (if gatewayOnline now status then 1 else 0) 0),
    (ascii "device_id", .str status.deviceId.text),
    (ascii "firmware", .str status.firmwareVersion.text),
    (ascii "last_seen", .num status.lastSeenAt.toInt 0)]

theorem plain_names (strict : Bool) : ∀ name ∈ [ascii "status", ascii "is_online", ascii "device_id",
    ascii "firmware", ascii "last_seen"], Verbatim strict name := by
  cases strict <;> decide

/-- **The body is the object of its members.** -/
theorem handleGatewayStatus_eq (now : Int64) (status : GatewayHardwareStatus) :
    handleGatewayStatus now status = renderObject (gatewayMembers now status) := by
  have first : ascii "\x7b\"status\":" = 123 :: 34 :: ascii "status" ++ [34, 58] := by decide
  have second : ascii ",\"is_online\":" = 44 :: 34 :: ascii "is_online" ++ [34, 58] := by decide
  have third : ascii ",\"device_id\":\"" = 44 :: 34 :: ascii "device_id" ++ [34, 58, 34] := by decide
  have fourth : ascii "\",\"firmware\":\"" = 34 :: 44 :: 34 :: ascii "firmware" ++ [34, 58, 34] := by
    decide
  have fifth : ascii "\",\"last_seen\":" = 34 :: 44 :: 34 :: ascii "last_seen" ++ [34, 58] := by decide
  have brace : ascii "\x7d" = [125] := by decide
  have names : (ascii "status").length = 6 ∧ (ascii "is_online").length = 9 ∧
      (ascii "device_id").length = 9 ∧ (ascii "firmware").length = 8 ∧
      (ascii "last_seen").length = 9 := by decide
  have reported := length_printInt32_le status.gatewayReportedStatus
  have online : (printInt (if gatewayOnline now status then 1 else 0)).length ≤ 2 :=
    length_printInt_le (by decide) (by split <;> decide)
  have device := status.deviceId.length_text_le
  have firmware := status.firmwareVersion.length_text_le
  have seen := length_printInt64_le status.lastSeenAt
  unfold handleGatewayStatus
  rw [first, second, third, fourth, fifth, brace, snprintf_of_lt]
  · simp [renderObject, gatewayMembers, commaSep, renderMember]
  · simp only [List.length_append, List.length_cons, List.length_nil]
    omega

/-! ### Verbatim texts -/

/-- A reader that does not insist on UTF-8 reads the texts back as well. -/
theorem gatewayStatus_decodes {strict : Bool} (now : Int64) (status : GatewayHardwareStatus)
    (device : Verbatim strict status.deviceId.text)
    (firmware : Verbatim strict status.firmwareVersion.text) :
    parse strict (handleGatewayStatus now status) = some (gatewayJson now status) := by
  let members : List (List UInt8 × List UInt8 × Json) :=
    [(ascii "status", printInt status.gatewayReportedStatus.toInt,
        .num status.gatewayReportedStatus.toInt 0),
      (ascii "is_online", printInt (if gatewayOnline now status then 1 else 0),
        .num (if gatewayOnline now status then 1 else 0) 0),
      (ascii "device_id", 34 :: status.deviceId.text ++ [34], .str status.deviceId.text),
      (ascii "firmware", 34 :: status.firmwareVersion.text ++ [34],
        .str status.firmwareVersion.text),
      (ascii "last_seen", printInt status.lastSeenAt.toInt, .num status.lastSeenAt.toInt 0)]
  have object : Denotes strict (1 + members.length + 1)
      (renderObject (members.map fun member => (member.1, member.2.1)))
      (.obj (members.map fun member => (member.1, member.2.2))) := by
    refine denotes_object members ?_ ?_ (List.cons_ne_nil _ _)
    · exact fun member inside => plain_names strict member.1 (List.mem_map_of_mem (f := Prod.fst) inside)
    · intro member inside
      simp only [members, List.mem_cons, List.not_mem_nil, or_false] at inside
      rcases inside with rfl | rfl | rfl | rfl | rfl
      · exact denotes_printInt _
      · exact denotes_printInt _
      · exact denotes_string device
      · exact denotes_string firmware
      · exact denotes_printInt _
  rw [handleGatewayStatus_eq]
  refine parse_of_denotes object ?_
  have names : (ascii "status").length = 6 := by decide
  show 1 + 5 + 1 ≤ (renderObject (gatewayMembers now status)).length + 1
  simp only [renderObject, gatewayMembers, List.map_cons, commaSep, renderMember, List.length_append,
    List.length_cons]
  omega

/-- The body, member by member. -/
theorem gatewayText_layout (now : Int64) (status : GatewayHardwareStatus) :
    renderObject (gatewayMembers now status) = 123 ::
      (renderMember (ascii "status") (printInt status.gatewayReportedStatus.toInt) ++ 44 ::
        (renderMember (ascii "is_online") (printInt (if gatewayOnline now status then 1 else 0)) ++ 44 ::
          (renderMember (ascii "device_id") (34 :: status.deviceId.text ++ [34]) ++ 44 ::
            (renderMember (ascii "firmware") (34 :: status.firmwareVersion.text ++ [34]) ++ 44 ::
              (renderMember (ascii "last_seen") (printInt status.lastSeenAt.toInt) ++ [125]))))) := by
  simp [renderObject, gatewayMembers, commaSep]

/-- **Texts that are read back were verbatim.** -/
theorem verbatim_of_decodes (now : Int64) (status : GatewayHardwareStatus)
    (decodes : parse true (handleGatewayStatus now status) = some (gatewayJson now status)) :
    Verbatim true status.deviceId.text ∧ Verbatim true status.firmwareVersion.text := by
  rw [handleGatewayStatus_eq, gatewayText_layout] at decodes
  obtain ⟨after, members⟩ := parseMembers_of_parse decodes
  generalize size : (_ : List UInt8).length.succ = depth at members
  have deep : 4 ≤ depth := by
    rw [← size]
    simp only [renderMember, List.length_append, List.length_cons]
    omega
  obtain ⟨fuel, rfl⟩ : ∃ fuel, depth = fuel + 1 + 1 + 1 + 1 := ⟨depth - 4, by omega⟩
  have named := plain_names true
  simp only [List.mem_cons, List.not_mem_nil, or_false, forall_eq_or_imp, forall_eq] at named
  obtain ⟨statusName, onlineName, deviceName, firmwareName, -⟩ := named
  obtain ⟨_, members, same⟩ := parseMembers_peel statusName (denotes_printInt _)
    (Nat.le_add_left 1 _) members
  cases same
  obtain ⟨_, members, same⟩ := parseMembers_peel onlineName (denotes_printInt _)
    (Nat.le_add_left 1 _) members
  cases same
  have device : Verbatim true status.deviceId.text :=
    verbatim_of_parseMembers deviceName rfl rfl members
  obtain ⟨_, members, same⟩ := parseMembers_peel deviceName (denotes_string device)
    (Nat.le_add_left 1 _) members
  cases same
  exact ⟨device, verbatim_of_parseMembers firmwareName rfl rfl members⟩

/-- **The body decodes to the stored values exactly if both texts are verbatim.** -/
theorem gatewayStatus_decodes_iff (jsonC : JsonC) (deliveries : List Delivery) (now : Int64) :
    let status := (Runs.run (handle jsonC) {} deliveries).gateway.status
    parse true (handleGatewayStatus now status) = some (gatewayJson now status) ↔
      Verbatim true status.deviceId.text ∧ Verbatim true status.firmwareVersion.text := by
  intro status
  exact ⟨verbatim_of_decodes now status, fun texts => gatewayStatus_decodes now status texts.1 texts.2⟩

/-- A device id with a quote breaks the body. -/
theorem quoted_device_unreadable :
    ¬ ∀ (deliveries : List Delivery) (now : Int64),
      let status := (Runs.run (handle JsonC.reference) {} deliveries).gateway.status
      parse true (handleGatewayStatus now status) = some (gatewayJson now status) := by
  intro decodes
  have body := decodes [⟨.mqtt "gateway/heartbeat"
    (ascii "\x7b\"device_id\":\"a\\\"b\",\"firmware\":\"1.0\"\x7d"), .at 100⟩] 105
  have broken : (parse true (handleGatewayStatus 105 (Runs.run (handle JsonC.reference) {}
      [⟨.mqtt "gateway/heartbeat" (ascii "\x7b\"device_id\":\"a\\\"b\",\"firmware\":\"1.0\"\x7d"),
        .at 100⟩]).gateway.status)).isNone = true := by
    decide +kernel
  rw [body] at broken
  cases broken

end ServerPump
