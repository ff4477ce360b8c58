/-
**What the page reads out of a history answer.**

`res.json()` in `loadHistory`, and the lookups of `renderHistoryTable` that the filters do not make.
`readHistory` reads the integers of the text, and `resJson` makes doubles of them, which are the same up to
53 bits. An answer the server never sends, with a record that lacks one of the seven numbers, is left out:
it counts as failed here.
-/

import ServerPump.Library.Json
import ServerPump.Web.HistoryPage

namespace ServerPump

open CText JsonText

/-! ### The text -/

/-- An integer member of a record, as it is written. -/
def intMember (item : Json) (name : String) : Option ℤ :=
  match item.member? (ascii name) with
  | some (.num mantissa 0) => some mantissa
  | _ => none

def HistoryRecord.ofJson (item : Json) : Option HistoryRecord := do
  let timestamp ← intMember item "timestamp"
  let pump1 ← intMember item "pump1"
  let pump1Status ← intMember item "pump1_status"
  let pump2 ← intMember item "pump2"
  let pump2Status ← intMember item "pump2_status"
  let busy ← intMember item "busy"
  let alarm ← intMember item "alarm"
  return ⟨timestamp, pump1, pump1Status, pump2, pump2Status, busy, alarm⟩

def HistoryAnswer.ofJson (parsed : Json) : Response :=
  match parsed.member? (ascii "count"), parsed.member? (ascii "data") with
  | some (.num count 0), some (.arr items) =>
    match items.mapM HistoryRecord.ofJson with
    | some data => .json (.records count.toNat data)
    | none => .failed
  | _, _ => .json .error

/-- The answer in the text of a body. -/
def readHistory (body : List UInt8) : Response :=
  match parse false body with
  | none => .failed
  | some parsed => HistoryAnswer.ofJson parsed

/-! ### The numbers -/

/-- How many units a number has; it is rounded to the nearest number of them, in the middle to the even one. -/
def nearestEven (number unit : ℕ) : ℕ :=
  let quotient := number / unit
  let rest := number % unit
  if 2 * rest < unit ∨ 2 * rest = unit ∧ quotient % 2 = 0 then quotient else quotient + 1

/-- The double nearest to an integer: 53 of its bits are kept. -/
def toDouble (number : ℤ) : ℤ :=
  let unit := 2 ^ (number.natAbs.log2 - 52)
  number.sign * (nearestEven number.natAbs unit * unit : ℕ)

example : [2 ^ 53 + 1, 2 ^ 53 + 3, -(2 ^ 54 + 2), 2 ^ 63 - 1].map toDouble =
    [2 ^ 53, 2 ^ 53 + 4, -(2 ^ 54), 2 ^ 63] := by decide +kernel

def HistoryRecord.asDoubles (record : HistoryRecord) : HistoryRecord where
  timestamp := toDouble record.timestamp
  pump1 := toDouble record.pump1
  pump1Status := toDouble record.pump1Status
  pump2 := toDouble record.pump2
  pump2Status := toDouble record.pump2Status
  busy := toDouble record.busy
  alarm := toDouble record.alarm

def HistoryAnswer.asDoubles : HistoryAnswer → HistoryAnswer
  | .error => .error
  | .records count data => .records (toDouble count).toNat (data.map HistoryRecord.asDoubles)

/-- `res.json()` -/
def resJson (body : List UInt8) : Response :=
  match readHistory body with
  | .failed => .failed
  | .json answer => .json answer.asDoubles

/-- `BUSY_TEXT[busy]` -/
def busyText (busy : ℤ) : Option String :=
  if 0 ≤ busy then ["Idle", "Starting P1", "Starting P2"][busy.toNat]? else none

end ServerPump
