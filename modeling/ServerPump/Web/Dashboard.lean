/-
**The gateway card of the dashboard (`loadGateway` in `script.js`).**

Every two seconds the page asks for `/api/gateway/status` and writes four elements from the answer.
Values keep the form they have in the answer; how a page shows a text or a date is left out.

`drawGateway` is what one answer draws. Where `res.json()` or the first property access throws, the
error is caught and nothing is drawn, so that the card stays as it is.
-/

import ServerPump.Library.Json

namespace ServerPump

open CText JsonText

/-- The double nearest to `mantissa * 10 ^ exponent` is zero, that is, the number is at most half of
the least positive double, `2 ^ -1074`. -/
def roundsToZero (mantissa exponent : ℤ) : Bool :=
  mantissa.natAbs * 10 ^ exponent.toNat * 2 ^ 1075 ≤ 10 ^ (-exponent).toNat

/-- Whether a value counts as true in a condition. -/
def truthy : Json → Bool
  | .null => false
  | .bool value => value
  | .num mantissa exponent => !roundsToZero mantissa exponent
  | .str text => !text.isEmpty
  | .arr _ => true
  | .obj _ => true

/-- `value || 'fallback'`, where a property that is absent is not true. -/
def orText (value : Option Json) (fallback : String) : Json :=
  (value.filter truthy).getD (.str (ascii fallback))

/-- `'online'` or `'offline'`. -/
inductive Dot
  | online
  | offline
  deriving DecidableEq

/-- The four elements. The last one is `none` for `'Never'`, else the seconds of the date. -/
structure GatewayCard where
  dot : Dot
  deviceId : Json
  firmware : Json
  lastSeen : Option Json

/-- What is written for an answer; `null` has no properties. -/
def gatewayCard : Json → Option GatewayCard
  | .null => none
  | data => some
    { dot := if (data.member? (ascii "status")).any truthy then .online else .offline
      deviceId := orText (data.member? (ascii "device_id")) "N/A"
      firmware := orText (data.member? (ascii "firmware")) "N/A"
      lastSeen := (data.member? (ascii "last_seen")).filter truthy }

/-- What the body of an answer draws. -/
def drawGateway (body : List UInt8) : Option GatewayCard := (parse false body).bind gatewayCard

/-- One poll; `none` is a request that failed. -/
def loadGateway (response : Option (List UInt8)) (card : GatewayCard) : GatewayCard :=
  (response.bind drawGateway).getD card

end ServerPump
