/-
**JSON texts: a parser over bytes.**

The grammar of RFC 8259, read byte by byte. `parse strict text` is the value a text spells, if it
is well formed. In `strict` mode the text must also be well-formed UTF-8; otherwise the bytes above
`0x7F` pass through undecoded inside strings, as for a reader that replaces what it cannot decode.

* Strings are scanned by a machine with one step per byte (`ScanState.step`): what it emits are
  pieces, bytes of the text or 16-bit units of `\u` escapes, and `assemble` turns the pieces into
  the UTF-8 bytes of the decoded string. An unpaired surrogate decodes to U+FFFD.
* Objects keep their members in order, repeated names included; `Json.member?` looks a name up the
  way JavaScript and `json-c` do, the last one wins.
* Values nest, so the parser descends on a fuel; `parse` starts it with more than the length of the
  text, and every descent consumes at least one byte.
-/

import ServerPump.Library.CText

namespace JsonText

open CText

/-- A JSON value. A number is `mantissa * 10 ^ exponent`. -/
inductive Json
  | null
  | bool (value : Bool)
  | num (mantissa exponent : ℤ)
  | str (text : List UInt8)
  | arr (items : List Json)
  | obj (members : List (List UInt8 × Json))

/-- The member of an object with a name; the last one if the name is repeated. -/
def Json.member? (name : List UInt8) : Json → Option Json
  | .obj members => (members.reverse.find? fun member => member.1 = name).map Prod.snd
  | _ => none

/-! ### UTF-8 -/

/-- Where a UTF-8 text stands between two bytes: between characters, or inside one, where the next
continuation byte must lie in a range and `left` more of them follow it. -/
inductive Utf8State
  | start
  | tail (low high : UInt8) (left : ℕ)
  deriving DecidableEq

/-- `10xxxxxx`. -/
def isContinuation (byte : UInt8) : Bool := 0x80 ≤ byte && byte ≤ 0xBF

/-- One byte of UTF-8; `none` where no character continues with it. -/
def Utf8State.step : Utf8State → UInt8 → Option Utf8State
  | .start, byte =>
    if byte < 0x80 then some .start
    else if 0xC2 ≤ byte ∧ byte ≤ 0xDF then some (.tail 0x80 0xBF 0)
    else if byte = 0xE0 then some (.tail 0xA0 0xBF 1)
    else if byte = 0xED then some (.tail 0x80 0x9F 1)
    else if 0xE1 ≤ byte ∧ byte ≤ 0xEF then some (.tail 0x80 0xBF 1)
    else if byte = 0xF0 then some (.tail 0x90 0xBF 2)
    else if 0xF1 ≤ byte ∧ byte ≤ 0xF3 then some (.tail 0x80 0xBF 2)
    else if byte = 0xF4 then some (.tail 0x80 0x8F 2)
    else none
  | .tail low high left, byte =>
    if isContinuation byte ∧ low ≤ byte ∧ byte ≤ high then
      match left with
      | 0 => some .start
      | more + 1 => some (.tail 0x80 0xBF more)
    else none

/-- The UTF-8 encoding of a code point. -/
def utf8Encode (code : ℕ) : List UInt8 :=
  if code < 0x80 then [code.toUInt8]
  else if code < 0x800 then [(0xC0 + code / 64).toUInt8, (0x80 + code % 64).toUInt8]
  else if code < 0x10000 then
    [(0xE0 + code / 4096).toUInt8, (0x80 + code / 64 % 64).toUInt8, (0x80 + code % 64).toUInt8]
  else
    [(0xF0 + code / 262144).toUInt8, (0x80 + code / 4096 % 64).toUInt8,
      (0x80 + code / 64 % 64).toUInt8, (0x80 + code % 64).toUInt8]

/-! ### Strings -/

/-- Where the scanner stands inside a string. -/
inductive ScanState
  | text (utf8 : Utf8State)
  | escape
  | hex (left unit : ℕ)
  deriving DecidableEq

/-- Between two characters of the string. -/
abbrev ScanState.plain : ScanState := .text .start

/-- What the scanner emits: a byte of the text, or the unit of a `\u` escape. -/
inductive Piece
  | byte (value : UInt8)
  | unit (value : ℕ)
  deriving DecidableEq

def hexDigit (byte : UInt8) : Option ℕ :=
  if isDigit byte then some (byte.toNat - 48)
  else if 97 ≤ byte ∧ byte ≤ 102 then some (byte.toNat - 87)
  else if 65 ≤ byte ∧ byte ≤ 70 then some (byte.toNat - 55)
  else none

/-- The byte a one-letter escape stands for. -/
def simpleEscape (byte : UInt8) : Option UInt8 :=
  if byte = 34 ∨ byte = 92 ∨ byte = 47 then some byte
  else if byte = 98 then some 8
  else if byte = 102 then some 12
  else if byte = 110 then some 10
  else if byte = 114 then some 13
  else if byte = 116 then some 9
  else none

/-- One byte of a string, other than its closing quote. -/
def ScanState.step (strict : Bool) : ScanState → UInt8 → Option (ScanState × List Piece)
  | .text .start, byte =>
    if byte = 92 then some (.escape, [])
    else if byte < 32 then none
    else if strict then (Utf8State.start.step byte).map fun next => (.text next, [.byte byte])
    else some (.plain, [.byte byte])
  | .text inside, byte => (inside.step byte).map fun next => (.text next, [.byte byte])
  | .escape, byte =>
    if byte = 117 then some (.hex 3 0, [])
    else (simpleEscape byte).map fun value => (.plain, [.byte value])
  | .hex left unit, byte =>
    (hexDigit byte).map fun digit =>
      match left with
      | 0 => (.plain, [.unit (16 * unit + digit)])
      | more + 1 => (.hex more (16 * unit + digit), [])

/-- The pieces of a string up to its closing quote, and the text behind the quote. -/
def scan (strict : Bool) : ScanState → List UInt8 → Option (List Piece × List UInt8)
  | _, [] => none
  | state, byte :: rest =>
    if state = .plain ∧ byte = 34 then some ([], rest)
    else
      match state.step strict byte with
      | none => none
      | some (next, emitted) =>
        (scan strict next rest).map fun (later, after) => (emitted ++ later, after)

/-- The bytes of a single unit; a surrogate on its own is replaced. -/
def unitBytes (unit : ℕ) : List UInt8 :=
  if 0xD800 ≤ unit ∧ unit < 0xE000 then utf8Encode 0xFFFD else utf8Encode unit

/-- The decoded string; two units that form a surrogate pair are one character. -/
def assemble : List Piece → List UInt8
  | [] => []
  | .byte value :: rest => value :: assemble rest
  | .unit high :: .unit low :: rest =>
    if (0xD800 ≤ high ∧ high < 0xDC00) ∧ 0xDC00 ≤ low ∧ low < 0xE000 then
      utf8Encode (0x10000 + (high - 0xD800) * 1024 + (low - 0xDC00)) ++ assemble rest
    else unitBytes high ++ assemble (.unit low :: rest)
  | .unit unit :: rest => unitBytes unit ++ assemble rest

/-- A string behind its opening quote. -/
def scanString (strict : Bool) (text : List UInt8) : Option (List UInt8 × List UInt8) :=
  (scan strict .plain text).map fun (pieces, after) => (assemble pieces, after)

/-! ### Numbers -/

/-- A digit sequence in front of a text; `none` if there is no digit. -/
def scanDigits (text : List UInt8) : Option (List UInt8 × List UInt8) :=
  if text.takeWhile isDigit = [] then none
  else some (text.takeWhile isDigit, text.dropWhile isDigit)

/-- The digits after a decimal point, if there is one. -/
def scanFraction (text : List UInt8) : Option (List UInt8 × List UInt8) :=
  match text with
  | 46 :: rest => scanDigits rest
  | _ => some ([], text)

/-- The exponent, if there is one. -/
def scanExponent (text : List UInt8) : Option (ℤ × List UInt8) :=
  match text with
  | byte :: rest =>
    if byte = 101 ∨ byte = 69 then
      match rest with
      | 45 :: digits => (scanDigits digits).map fun (exponent, after) => (-(readNat exponent : ℤ), after)
      | 43 :: digits => (scanDigits digits).map fun (exponent, after) => ((readNat exponent : ℤ), after)
      | digits => (scanDigits digits).map fun (exponent, after) => ((readNat exponent : ℤ), after)
    else some (0, text)
  | [] => some (0, text)

/-- A number without its sign. A leading zero stands alone. -/
def scanUnsigned (negative : Bool) (text : List UInt8) : Option (Json × List UInt8) :=
  (scanDigits text).bind fun (whole, afterWhole) =>
    if whole.head? = some 48 ∧ whole ≠ [48] then none
    else
      (scanFraction afterWhole).bind fun (fraction, afterFraction) =>
        (scanExponent afterFraction).map fun (exponent, after) =>
          let magnitude : ℤ := readNat (whole ++ fraction)
          (.num (if negative then -magnitude else magnitude) (exponent - fraction.length), after)

def scanNumber (text : List UInt8) : Option (Json × List UInt8) :=
  match text with
  | 45 :: rest => scanUnsigned true rest
  | _ => scanUnsigned false text

/-! ### Values -/

/-- JSON white space. -/
def isBlank (byte : UInt8) : Bool := byte = 32 || byte = 9 || byte = 10 || byte = 13

def skipBlank (text : List UInt8) : List UInt8 := text.dropWhile isBlank

/-- A given byte after white space. -/
def expect (byte : UInt8) (text : List UInt8) : Option (List UInt8) :=
  match skipBlank text with
  | first :: rest => if first = byte then some rest else none
  | [] => none

/-- The rest of a literal name. -/
def expectAll (letters text : List UInt8) : Option (List UInt8) :=
  if letters <+: text then some (text.drop letters.length) else none

section Values

variable (strict : Bool)

mutual

/-- A value in front of a text. -/
def parseValue : ℕ → List UInt8 → Option (Json × List UInt8)
  | 0, _ => none
  | fuel + 1, text =>
    match skipBlank text with
    | [] => none
    | byte :: rest =>
      if byte = 123 then
        match expect 125 rest with
        | some after => some (.obj [], after)
        | none => (parseMembers fuel rest).map fun (members, after) => (.obj members, after)
      else if byte = 91 then
        match expect 93 rest with
        | some after => some (.arr [], after)
        | none => (parseElements fuel rest).map fun (items, after) => (.arr items, after)
      else if byte = 34 then (scanString strict rest).map fun (text, after) => (.str text, after)
      else if byte = 116 then (expectAll (ascii "rue") rest).map fun after => (.bool true, after)
      else if byte = 102 then (expectAll (ascii "alse") rest).map fun after => (.bool false, after)
      else if byte = 110 then (expectAll (ascii "ull") rest).map fun after => (.null, after)
      else scanNumber (byte :: rest)

/-- The members of an object, up to its closing brace. -/
def parseMembers : ℕ → List UInt8 → Option (List (List UInt8 × Json) × List UInt8)
  | 0, _ => none
  | fuel + 1, text =>
    (expect 34 text).bind fun quoted =>
    (scanString strict quoted).bind fun (name, afterName) =>
    (expect 58 afterName).bind fun afterColon =>
    (parseValue fuel afterColon).bind fun (value, afterValue) =>
    match expect 44 afterValue with
    | some more => (parseMembers fuel more).map fun (members, after) => ((name, value) :: members, after)
    | none => (expect 125 afterValue).map fun after => ([(name, value)], after)

/-- The elements of an array, up to its closing bracket. -/
def parseElements : ℕ → List UInt8 → Option (List Json × List UInt8)
  | 0, _ => none
  | fuel + 1, text =>
    (parseValue fuel text).bind fun (value, afterValue) =>
    match expect 44 afterValue with
    | some more => (parseElements fuel more).map fun (items, after) => (value :: items, after)
    | none => (expect 93 afterValue).map fun after => ([value], after)

end

/-- The value of a JSON text. -/
def parse (text : List UInt8) : Option Json :=
  match parseValue strict (text.length + 1) text with
  | some (value, rest) => if skipBlank rest = [] then some value else none
  | none => none

end Values

end JsonText
