/-
**The texts of the gateway, through any heartbeats.**

`update_gateway_heartbeat` copies the device id and the firmware with `strncpy`, up to the last byte of
each array but one. It writes no terminator behind a long text: that the arrays end in a NUL comes from
their static initialiser, and that a short text erases a long one from the zeros `strncpy` pads with.

* `filled_copyTexts`: what one call does to arrays that are filled with texts.
* `filled_afterCalls`: the arrays behind any calls.
* `texts_hold_latest`: they end in a NUL, and read as C strings they are the latest texts, cut at one byte
  less than their size.
-/

import Mathlib.Data.List.ReduceOption
import ServerPump.Proof.GatewayHistory

namespace ServerPump

open CText

/-! ### The law -/

/-- A call of `update_gateway_heartbeat`, with the clock and the outcome of its insertion. -/
structure HeartbeatCall where
  now : Int64
  inserted : Bool
  heartbeat : Heartbeat

/-- The gateway's side behind the calls. -/
def afterCalls (calls : List HeartbeatCall) (side : GatewaySide) : GatewaySide :=
  Runs.run (fun side call => side.hear call.now call.inserted call.heartbeat) side calls

/-- The latest text that is not `NULL`, or the empty string. -/
def latestText (texts : List (Option CStr)) : List UInt8 :=
  (texts.reduceOption.getLast?.map CStr.text).getD []

/-- **The law**: the last byte is NUL, the C string is the latest text, cut at one byte less than the
array has, and behind it there are only zeros. -/
structure HoldsLatest {n : ℕ} (array : CharArray n) (texts : List (Option CStr)) : Prop where
  terminated : array.cells.getLast? = some 0
  text : array.text = (latestText texts).take (n - 1)
  noLeftover : array.cells = array.text ++ List.replicate (n - array.text.length) 0

/-! ### One call -/

theorem latestText_concat (texts : List (Option CStr)) (text : Option CStr) :
    latestText (texts ++ [text]) = text.elim (latestText texts) CStr.text := by
  unfold latestText
  rw [List.reduceOption_append]
  cases text with
  | none =>
    rw [List.reduceOption_singleton]
    simp
  | some text =>
    rw [List.reduceOption_singleton]
    simp

/-- The arrays are filled with these texts, as far as they fit. -/
structure TextsFilled (deviceId firmware : List UInt8) (status : GatewayHardwareStatus) : Prop where
  deviceId : status.deviceId.Filled (deviceId.take 63)
  firmware : status.firmwareVersion.Filled (firmware.take 31)

theorem filled_initial : TextsFilled [] [] {} :=
  ⟨CharArray.filled_zero 64, CharArray.filled_zero 32⟩

/-- **A call leaves an array as it is, or fills it with its own text.** -/
theorem filled_copyTexts {deviceId firmware : List UInt8} {status : GatewayHardwareStatus}
    (filled : TextsFilled deviceId firmware status) (newDeviceId newFirmware : Option CStr) :
    TextsFilled (newDeviceId.elim deviceId CStr.text) (newFirmware.elim firmware CStr.text)
      (status.copyTexts newDeviceId newFirmware) := by
  constructor
  · cases newDeviceId with
    | none => exact filled.deviceId
    | some text => exact filled.deviceId.strncpy (List.length_take_le _ _) (by decide) text.nulFree
  · cases newFirmware with
    | none => exact filled.firmware
    | some text => exact filled.firmware.strncpy (List.length_take_le _ _) (by decide) text.nulFree

theorem filled_stamp {deviceId firmware : List UInt8} {status : GatewayHardwareStatus}
    (filled : TextsFilled deviceId firmware status) (now : Int64) (reported : Int32) :
    TextsFilled deviceId firmware (status.stamp now reported) :=
  ⟨filled.deviceId, filled.firmware⟩

/-! ### Any calls -/

/-- **Behind any calls the arrays are filled with the latest texts.** -/
theorem filled_afterCalls (history : List GatewayRow) (calls : List HeartbeatCall) :
    TextsFilled (latestText (calls.map fun call => call.heartbeat.deviceId))
      (latestText (calls.map fun call => call.heartbeat.firmware))
      (afterCalls calls { gatewayHistory := history }).status := by
  induction calls using List.reverseRecOn with
  | nil => exact filled_initial
  | append_singleton earlier call ih =>
    have last : afterCalls (earlier ++ [call]) { gatewayHistory := history } =
        (afterCalls earlier { gatewayHistory := history }).hear call.now call.inserted
          call.heartbeat := by
      unfold afterCalls
      rw [Runs.run_append]
      rfl
    rw [last, status_hear, List.map_append, List.map_append, List.map_singleton, List.map_singleton,
      latestText_concat, latestText_concat]
    exact filled_copyTexts (filled_stamp ih call.now call.heartbeat.status) _ _

/-- An array that is filled holds the latest text. -/
theorem holdsLatest_of_filled {n : ℕ} {array : CharArray (n + 1)} {texts : List (Option CStr)}
    (filled : array.Filled ((latestText texts).take n)) : HoldsLatest array texts where
  terminated := filled.getLast (Nat.lt_succ_of_le (List.length_take_le _ _))
  text := filled.text_eq
  noLeftover := by
    rw [filled.text_eq]
    exact filled.cells

/-- **Behind any calls both arrays hold the latest texts.** -/
theorem texts_hold_latest (history : List GatewayRow) (calls : List HeartbeatCall) :
    HoldsLatest (afterCalls calls { gatewayHistory := history }).status.deviceId
        (calls.map fun call => call.heartbeat.deviceId) ∧
      HoldsLatest (afterCalls calls { gatewayHistory := history }).status.firmwareVersion
        (calls.map fun call => call.heartbeat.firmware) := by
  obtain ⟨deviceId, firmware⟩ := filled_afterCalls history calls
  exact ⟨holdsLatest_of_filled deviceId, holdsLatest_of_filled firmware⟩

end ServerPump
