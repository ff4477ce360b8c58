/-
**The gateway dot: online although nothing is heard.**

`handle_gateway_status` computes `is_online` from the time since the last heartbeat, but the page
draws the dot from `status`, the number the gateway reported last.

* `gateway_run`: after any run, the time last seen is that of the last heartbeat handled; without
  one, the gateway's state is the initial one.
* `drawn_dot`: the dot of a poll says whether the reported status is nonzero, whatever the time.
* `onlineDot_iff`: the dot is online only for a gateway heard in the last 30 seconds exactly if it
  was heard then, or reported status 0.
-/

import Mathlib.Data.List.Induction
import ServerPump.Proof.GatewayStatus
import ServerPump.Web.Dashboard

namespace ServerPump

open CText JsonText

/-! ### The heartbeats of a run -/

section Heartbeats

variable (jsonC : JsonC)

/-- The time at which a delivery was handled as a heartbeat, if it is one and can be parsed. -/
def heartbeatAt (delivery : Delivery) : Option Int64 :=
  match delivery.input with
  | .mqtt topicName payload =>
    if topicName = "gateway/heartbeat" ∧ (jsonC.tokenerParse (mqttPayload payload)).isSome then
      some delivery.io.report.now
    else none
  | .feedbackPost _ => none

def heartbeats (deliveries : List Delivery) : List Int64 := deliveries.filterMap (heartbeatAt jsonC)

variable {jsonC}

theorem lastSeenAt_updateGatewayHeartbeat (now : Int64) (inserted : Bool)
    (deviceId firmware : Option CStr) (status : Int32) (side : GatewaySide) :
    (updateGatewayHeartbeat now inserted deviceId firmware status side).status.lastSeenAt = now := by
  unfold updateGatewayHeartbeat
  dsimp only
  split <;> rfl

/-- Other deliveries leave the gateway alone. -/
theorem handle_silent {delivery : Delivery} (silent : heartbeatAt jsonC delivery = none)
    (server : ServerState) : (handle jsonC server delivery).gateway = server.gateway := by
  obtain ⟨input, io⟩ := delivery
  cases input with
  | mqtt topicName payload =>
    dsimp only [handle, mqttMessageArrived]
    by_cases heartbeat : topicName = "gateway/heartbeat"
    · have unparsed : jsonC.tokenerParse (mqttPayload payload) = none := by
        simpa [heartbeatAt, heartbeat] using silent
      rw [if_pos heartbeat, gatewayHeartbeat, unparsed]
    · rw [if_neg heartbeat]
      split
      · rfl
      · split <;> rfl
  | feedbackPost payload => rfl

/-- A heartbeat sets the time last seen. -/
theorem handle_heartbeat {delivery : Delivery} {seen : Int64}
    (heartbeat : heartbeatAt jsonC delivery = some seen) (server : ServerState) :
    (handle jsonC server delivery).gateway.status.lastSeenAt = seen := by
  obtain ⟨input, io⟩ := delivery
  cases input with
  | mqtt topicName payload =>
    obtain ⟨⟨topic, parses⟩, time⟩ := Option.ite_none_right_eq_some.mp heartbeat
    obtain ⟨parsed, parse⟩ := Option.isSome_iff_exists.mp parses
    dsimp only [handle, mqttMessageArrived]
    rw [if_pos topic, gatewayHeartbeat, parse]
    exact (lastSeenAt_updateGatewayHeartbeat _ _ _ _ _ _).trans (Option.some.inj time)
  | feedbackPost payload => cases heartbeat

theorem heartbeats_concat (deliveries : List Delivery) (delivery : Delivery) :
    heartbeats jsonC (deliveries ++ [delivery]) =
      heartbeats jsonC deliveries ++ (heartbeatAt jsonC delivery).toList := by
  unfold heartbeats
  rw [List.filterMap_append, List.filterMap_cons, List.filterMap_nil]
  cases heartbeatAt jsonC delivery <;> rfl

/-- **The time last seen is that of the last heartbeat**; before the first one, nothing is set. -/
theorem gateway_run (deliveries : List Delivery) :
    let gateway := (Runs.run (handle jsonC) {} deliveries).gateway
    (heartbeats jsonC deliveries = [] ∧ gateway = {}) ∨
      ∃ earlier, heartbeats jsonC deliveries = earlier ++ [gateway.status.lastSeenAt] := by
  induction deliveries using List.reverseRecOn with
  | nil => exact .inl ⟨rfl, rfl⟩
  | append_singleton deliveries delivery ih =>
    rw [Runs.run_append, Runs.run_cons, Runs.run_nil, heartbeats_concat]
    cases heartbeat : heartbeatAt jsonC delivery with
    | none =>
      rw [handle_silent heartbeat, Option.toList_none, List.append_nil]
      exact ih
    | some seen =>
      refine .inr ⟨heartbeats jsonC deliveries, ?_⟩
      rw [handle_heartbeat heartbeat, Option.toList_some]

end Heartbeats

/-! ### The dot -/

/-- Of the whole numbers, only zero rounds to zero. -/
theorem roundsToZero_int (number : ℤ) : roundsToZero number 0 = decide (number = 0) := by
  unfold roundsToZero
  generalize least : 1075 = bits
  have large : 1 < 2 ^ bits := Nat.one_lt_two_pow (by omega)
  rw [decide_eq_decide, ← Int.natAbs_eq_zero, Int.toNat_zero, neg_zero, Int.toNat_zero, pow_zero,
    mul_one]
  constructor
  · intro small
    by_contra nonzero
    have := Nat.le_mul_of_pos_left (2 ^ bits) (Nat.pos_of_ne_zero nonzero)
    omega
  · intro zero
    rw [zero, zero_mul]
    exact Nat.zero_le 1

/-- A status is true unless it is zero. -/
theorem truthy_status (status : Int32) : truthy (.num status.toInt 0) = !decide (status = 0) := by
  rw [truthy, roundsToZero_int]
  congr 1
  rw [decide_eq_decide, ← Int32.toInt_inj, Int32.toInt_zero]

theorem dot_object (members : List (List UInt8 × Json)) :
    (gatewayCard (.obj members)).map GatewayCard.dot =
      some (if ((Json.obj members).member? (ascii "status")).any truthy then .online else .offline) :=
  rfl

/-- **The dot of a poll is the reported status**, not `is_online`. -/
theorem drawn_dot (now : Int64) {status : GatewayHardwareStatus}
    (device : Verbatim false status.deviceId.text)
    (firmware : Verbatim false status.firmwareVersion.text) :
    (drawGateway (handleGatewayStatus now status)).map GatewayCard.dot =
      some (if status.gatewayReportedStatus = 0 then .offline else .online) := by
  have member : (gatewayJson now status).member? (ascii "status") =
      some (.num status.gatewayReportedStatus.toInt 0) := rfl
  have card : (gatewayCard (gatewayJson now status)).map GatewayCard.dot =
      some (if ((gatewayJson now status).member? (ascii "status")).any truthy then .online
        else .offline) := dot_object _
  rw [drawGateway, gatewayStatus_decodes now status device firmware, Option.bind_some, card, member,
    Option.any_some, truthy_status]
  by_cases zero : status.gatewayReportedStatus = 0
  · rw [if_pos zero, decide_eq_true zero]
    rfl
  · rw [if_neg zero, decide_eq_false zero]
    rfl

/-- The poll of a card that is offline draws it online only if the gateway was heard: a heartbeat was
handled less than 30 seconds before. -/
def OnlineOnlyIfHeard (jsonC : JsonC) (deliveries : List Delivery) (now : Int64) : Prop :=
  let status := (Runs.run (handle jsonC) {} deliveries).gateway.status
  ∀ card : GatewayCard, card.dot = .offline →
    (loadGateway (some (handleGatewayStatus now status)) card).dot = .online →
      ∃ heard ∈ heartbeats jsonC deliveries, now.toInt - heard.toInt < 30

/-- What was offline is online after what the answer draws. -/
theorem loadGateway_online_iff (body : List UInt8) {card : GatewayCard} (offline : card.dot = .offline) :
    (loadGateway (some body) card).dot = .online ↔
      (drawGateway body).map GatewayCard.dot = some .online := by
  unfold loadGateway
  rw [Option.bind_some]
  cases drawGateway body with
  | none => simp [offline]
  | some drawn => simp

/-- The law, in terms of what the answer draws. -/
theorem onlineOnlyIfHeard_iff (jsonC : JsonC) (deliveries : List Delivery) (now : Int64) :
    OnlineOnlyIfHeard jsonC deliveries now ↔
      ((drawGateway (handleGatewayStatus now
          (Runs.run (handle jsonC) {} deliveries).gateway.status)).map GatewayCard.dot =
        some .online → ∃ heard ∈ heartbeats jsonC deliveries, now.toInt - heard.toInt < 30) := by
  constructor
  · intro truthful drawn
    have offline : (GatewayCard.mk .offline .null .null none).dot = .offline := rfl
    exact truthful _ offline ((loadGateway_online_iff _ offline).mpr drawn)
  · exact fun truthful card offline online => truthful ((loadGateway_online_iff _ offline).mp online)

/-- Without a heartbeat, the dot is offline. -/
theorem drawn_initial (now : Int64) :
    (drawGateway (handleGatewayStatus now {})).map GatewayCard.dot = some .offline := by
  have texts : Verbatim false (CharArray.zero 64).text ∧ Verbatim false (CharArray.zero 32).text := by
    rw [CharArray.text_zero, CharArray.text_zero]
    exact ⟨verbatim_nil, verbatim_nil⟩
  exact @drawn_dot now {} texts.1 texts.2

/-- With a clock that does not go back, the last heartbeat is the most recent one. -/
theorem heard_iff {jsonC : JsonC} {deliveries : List Delivery} {now : Int64}
    (clock : (heartbeats jsonC deliveries ++ [now]).Pairwise (· ≤ ·))
    (heard : heartbeats jsonC deliveries ≠ []) :
    (∃ heard ∈ heartbeats jsonC deliveries, now.toInt - heard.toInt < 30) ↔
      now.toInt - (Runs.run (handle jsonC) {} deliveries).gateway.status.lastSeenAt.toInt < 30 := by
  obtain ⟨silent, -⟩ | ⟨earlier, last⟩ := @gateway_run jsonC deliveries
  · exact absurd silent heard
  rw [last] at clock ⊢
  have latest := (List.pairwise_append.mp (List.pairwise_append.mp clock).1).2.2
  constructor
  · rintro ⟨time, member, recent⟩
    rcases List.mem_append.mp member with before | newest
    · have ordered := Int64.le_iff_toInt_le.mp (latest time before _ List.mem_cons_self)
      omega
    · exact List.mem_singleton.mp newest ▸ recent
  · exact fun recent => ⟨_, List.mem_append_right _ List.mem_cons_self, recent⟩

/-- **The dot tells the truth after a recent heartbeat**; with texts that print as they are, only
then and while the reported status is 0. -/
theorem onlineDot_iff (jsonC : JsonC) (deliveries : List Delivery) (now : Int64)
    (clock : (heartbeats jsonC deliveries ++ [now]).Pairwise (· ≤ ·)) :
    let status := (Runs.run (handle jsonC) {} deliveries).gateway.status
    let recent := now.toInt - status.lastSeenAt.toInt < 30
    (recent → OnlineOnlyIfHeard jsonC deliveries now) ∧
      (Verbatim false status.deviceId.text ∧ Verbatim false status.firmwareVersion.text →
        (OnlineOnlyIfHeard jsonC deliveries now ↔ recent ∨ status.gatewayReportedStatus = 0)) := by
  intro status recent
  by_cases silent : heartbeats jsonC deliveries = []
  · have initial : status = {} := by
      obtain ⟨-, gateway⟩ | ⟨earlier, last⟩ := @gateway_run jsonC deliveries
      · exact congrArg GatewaySide.status gateway
      · exact absurd silent (last ▸ List.concat_ne_nil _ _)
    have truthful : OnlineOnlyIfHeard jsonC deliveries now := by
      refine (onlineOnlyIfHeard_iff jsonC deliveries now).mpr fun online => ?_
      change (drawGateway (handleGatewayStatus now status)).map GatewayCard.dot = _ at online
      rw [initial, drawn_initial] at online
      cases online
    refine ⟨fun _ => truthful, fun _ => iff_of_true truthful (.inr ?_)⟩
    rw [initial]
  · have heard := heard_iff clock silent
    refine ⟨fun close _ _ _ => heard.mpr close, fun texts => ?_⟩
    have dot := drawn_dot now texts.1 texts.2
    rw [onlineOnlyIfHeard_iff]
    by_cases zero : status.gatewayReportedStatus = 0
    · rw [if_pos zero] at dot
      exact iff_of_true (fun online => absurd (dot.symm.trans online) (by decide)) (.inr zero)
    · rw [if_neg zero] at dot
      rw [or_iff_left zero]
      exact ⟨fun truthful => heard.mp (truthful dot), fun close _ => heard.mpr close⟩

/-- One heartbeat, handled at 100. -/
def heartbeatAtHundred : List Delivery :=
  [⟨.mqtt "gateway/heartbeat" (ascii "\x7b\"device_id\":\"gw\",\"firmware\":\"1.0\"\x7d"), .at 100⟩]

theorem heartbeats_atHundred : heartbeats JsonC.reference heartbeatAtHundred = [100] := by
  decide +kernel

/-- A gateway that was heard five seconds ago. -/
theorem onlineDot_fiveSeconds :
    (heartbeats JsonC.reference heartbeatAtHundred ++ [105]).Pairwise (· ≤ ·) ∧
      OnlineOnlyIfHeard JsonC.reference heartbeatAtHundred 105 := by
  have clock : (heartbeats JsonC.reference heartbeatAtHundred ++ [105]).Pairwise (· ≤ ·) := by
    rw [heartbeats_atHundred]
    exact List.pairwise_pair.mpr (by decide)
  exact ⟨clock, (onlineDot_iff _ _ _ clock).1 (by decide +kernel)⟩

/-- A gateway that has been silent for 100 seconds is drawn online. -/
theorem silent_gateway_online :
    ¬ ∀ (deliveries : List Delivery) (now : Int64),
      (heartbeats JsonC.reference deliveries ++ [now]).Pairwise (· ≤ ·) →
        OnlineOnlyIfHeard JsonC.reference deliveries now := by
  intro truthful
  have clock : (heartbeats JsonC.reference heartbeatAtHundred ++ [200]).Pairwise (· ≤ ·) := by
    rw [heartbeats_atHundred]
    exact List.pairwise_pair.mpr (by decide)
  have online : (drawGateway (handleGatewayStatus 200
      (Runs.run (handle JsonC.reference) {} heartbeatAtHundred).gateway.status)).map
        GatewayCard.dot = some .online := by
    decide +kernel
  obtain ⟨heard, member, recent⟩ :=
    (onlineOnlyIfHeard_iff _ _ _).mp (truthful heartbeatAtHundred 200 clock) online
  rw [heartbeats_atHundred] at member
  obtain rfl := List.mem_singleton.mp member
  exact absurd recent (by decide)

end ServerPump
