/-
**`json-c`, as the server uses it.**

The server reads its messages through four functions of `json-c`, which is not part of the
repository. `JsonC` is what the server relies on: a type of parsed values and the four functions.
Every result about messages holds for any such library; `JsonC.reference` is one, over the parser
of `JsonText`, with the conversions of `json_object_get_int` and `json_object_get_string`.
-/

import ServerPump.Library.Json

namespace ServerPump

open CText JsonText

/-- The functions of `json-c` the server calls. A `NULL` result is `none`; the object behind a JSON
`null` member is a value like any other. -/
structure JsonC where
  Value : Type
  tokenerParse : List UInt8 → Option Value
  objectGetEx : Value → String → Option Value
  getInt : Value → Int32
  getString : Value → Option CStr

/-- The conversion of a number to `int32_t`, saturating at its bounds. -/
def saturate (number : ℤ) : Int32 := Int32.ofInt (max (-2 ^ 31) (min number (2 ^ 31 - 1)))

/-- `json_object_get_int`. -/
def jsonObjectGetInt : Json → Int32
  | .bool true => 1
  | .num mantissa exponent =>
    if 0 ≤ exponent then saturate (mantissa * 10 ^ exponent.toNat)
    else saturate (mantissa.tdiv (10 ^ exponent.natAbs))
  | .str text => saturate (strtol (cstr text))
  | _ => 0

/-- The text of a value; of the compound values, which the server's messages have no use for, only
that there is one. -/
def jsonObjectText : Json → List UInt8
  | .str text => text
  | .bool value => if value then ascii "true" else ascii "false"
  | .num mantissa _ => printInt mantissa
  | _ => []

/-- `json_object_get_string`: the C string stops at the first NUL of the text. -/
def jsonObjectGetString : Json → Option CStr
  | .null => none
  | value => some ⟨cstr (jsonObjectText value), cstr_nulFree _⟩

/-- A library over the parser of `JsonText`. A text that spells `null` parses to `NULL`. -/
def JsonC.reference : JsonC where
  Value := Json
  tokenerParse text :=
    match parse false text with
    | some .null => none
    | result => result
  objectGetEx value name := value.member? (ascii name)
  getInt := jsonObjectGetInt
  getString := jsonObjectGetString

end ServerPump
