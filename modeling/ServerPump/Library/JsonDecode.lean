/-
**What the JSON parser reads back.**

* `Verbatim strict text` — a text that a JSON string carries unescaped: no quote, backslash or
  control character and, in strict mode, well-formed UTF-8. `scanString_verbatim` reads it back.
* `scanString_broken` — the converse for a text pasted between quotes: if a scan that starts behind
  the opening quote decodes to the very text, either the text was verbatim or the scan ran over the
  closing quote and stopped at the opening quote of the next string.
* `Denotes strict need text value` — the text is read as the value, whatever delimiter follows it,
  on every fuel from `need` on. Numbers, verbatim strings, objects and arrays denote what they were
  printed from (`denotes_printInt`, `denotes_string`, `denotes_object`, `denotes_array`).
* `parse_integers`, `member?_of_mem` — an object of integers is printed, parsed and looked up.
-/

import Mathlib.Data.List.Nodup
import ServerPump.Library.Json

namespace JsonText

open CText

variable {strict : Bool}

/-! ### Verbatim strings -/

/-- The state of the UTF-8 machine after a text. -/
def utf8Run : Utf8State → List UInt8 → Option Utf8State
  | state, [] => some state
  | state, byte :: rest => (state.step byte).bind fun next => utf8Run next rest

/-- A text of whole UTF-8 characters. -/
def Utf8 (text : List UInt8) : Prop := utf8Run .start text = some .start

instance (text : List UInt8) : Decidable (Utf8 text) :=
  inferInstanceAs (Decidable (utf8Run .start text = some .start))

/-- A byte a JSON string carries unescaped. -/
def PlainByte (byte : UInt8) : Prop := 32 ≤ byte ∧ byte ≠ 34 ∧ byte ≠ 92

instance (byte : UInt8) : Decidable (PlainByte byte) :=
  inferInstanceAs (Decidable (32 ≤ byte ∧ byte ≠ 34 ∧ byte ≠ 92))

/-- A text a JSON string carries unescaped. -/
def Verbatim (strict : Bool) (text : List UInt8) : Prop :=
  (∀ byte ∈ text, PlainByte byte) ∧ (strict = true → Utf8 text)

instance (strict : Bool) (text : List UInt8) : Decidable (Verbatim strict text) :=
  -- byte by byte along the text, not over all bytes there are
  have : Decidable (∀ byte ∈ text, PlainByte byte) := List.decidableBAll PlainByte text
  inferInstanceAs (Decidable ((∀ byte ∈ text, PlainByte byte) ∧ (strict = true → Utf8 text)))

theorem verbatim_nil : Verbatim strict [] := ⟨fun _ member => absurd member List.not_mem_nil, fun _ => rfl⟩

theorem assemble_bytes (text : List UInt8) : assemble (text.map .byte) = text := by
  induction text with
  | nil => rfl
  | cons byte rest ih =>
    show byte :: assemble (rest.map .byte) = byte :: rest
    rw [ih]

/-! ### Scanned texts -/

/-- Reading `consumed` from `state` leads to the closing quote and emits `pieces`. -/
inductive Scans (strict : Bool) : ScanState → List UInt8 → List Piece → Prop
  | close : Scans strict .plain [] []
  | next {state next : ScanState} {byte : UInt8} {emitted later : List Piece} {rest : List UInt8}
      (inside : ¬ (state = .plain ∧ byte = 34)) (moves : state.step strict byte = some (next, emitted))
      (others : Scans strict next rest later) : Scans strict state (byte :: rest) (emitted ++ later)

/-- The scanner reads exactly up to the closing quote. -/
theorem scan_eq_some_iff {state : ScanState} {text after : List UInt8} {pieces : List Piece} :
    scan strict state text = some (pieces, after) ↔
      ∃ consumed, text = consumed ++ 34 :: after ∧ Scans strict state consumed pieces := by
  constructor
  · intro scanned
    induction text generalizing state pieces with
    | nil => cases scanned
    | cons byte rest ih =>
      rw [scan] at scanned
      split at scanned
      · rename_i closing
        obtain ⟨rfl, rfl⟩ := closing
        cases scanned
        exact ⟨[], rfl, .close⟩
      · rename_i inside
        split at scanned
        · cases scanned
        · rename_i next emitted moves
          obtain ⟨⟨later, behind⟩, scannedRest, same⟩ := Option.map_eq_some_iff.mp scanned
          cases same
          obtain ⟨consumed, rfl, others⟩ := ih scannedRest
          exact ⟨byte :: consumed, rfl, .next inside moves others⟩
  · rintro ⟨consumed, rfl, scans⟩
    induction scans with
    | close => rw [List.nil_append, scan, if_pos ⟨rfl, rfl⟩]
    | next inside moves others ih =>
      rw [List.cons_append, scan, if_neg inside, moves]
      simp only [ih, Option.map_some]

/-- Verbatim text is scanned byte for byte. -/
theorem scans_verbatim {text : List UInt8} (plain : ∀ byte ∈ text, PlainByte byte)
    {state : Utf8State} (utf8 : if strict then utf8Run state text = some .start else state = .start) :
    Scans strict (.text state) text (text.map .byte) := by
  induction text generalizing state with
  | nil =>
    have isStart : state = .start := by
      cases strict with
      | false => exact utf8
      | true => exact Option.some.inj utf8
    rw [isStart]
    exact .close
  | cons byte rest ih =>
    obtain ⟨low, notQuote, notBackslash⟩ := plain byte List.mem_cons_self
    have plainRest : ∀ other ∈ rest, PlainByte other :=
      fun other member => plain other (List.mem_cons_of_mem _ member)
    have notControl : ¬ byte < 32 := UInt8.not_lt.mpr low
    have inside : ¬ (ScanState.text state = .plain ∧ byte = 34) := fun both => notQuote both.2
    cases strict with
    | false =>
      obtain rfl : state = .start := utf8
      have restScans : Scans false (.text .start) rest (rest.map .byte) := ih plainRest rfl
      show Scans false (.text .start) (byte :: rest) ([.byte byte] ++ rest.map .byte)
      refine Scans.next inside ?_ restScans
      simp only [ScanState.step, if_neg notBackslash, if_neg notControl]
      rfl
    | true =>
      obtain ⟨next, moves, others⟩ := Option.bind_eq_some_iff.mp utf8
      show Scans true (.text state) (byte :: rest) ([.byte byte] ++ rest.map .byte)
      refine Scans.next inside ?_ (ih plainRest others)
      cases state with
      | start =>
        simp only [ScanState.step, if_neg notBackslash, if_neg notControl, moves, if_true]
        rfl
      | tail low high left =>
        simp only [ScanState.step, moves]
        rfl

theorem scanString_verbatim {text : List UInt8} (verbatim : Verbatim strict text)
    (after : List UInt8) : scanString strict (text ++ 34 :: after) = some (text, after) := by
  have utf8 : if strict then utf8Run .start text = some .start else Utf8State.start = .start := by
    cases strict with
    | false => rfl
    | true => exact verbatim.2 rfl
  have scanned : scan strict .plain (text ++ 34 :: after) = some (text.map .byte, after) :=
    scan_eq_some_iff.mpr ⟨text, rfl, scans_verbatim verbatim.1 utf8⟩
  simp only [scanString, scanned, Option.map_some, assemble_bytes]

/-! ### The length of what is decoded -/

/-- A bound on the bytes a piece decodes to. -/
def Piece.weight : Piece → ℕ
  | .byte _ => 1
  | .unit _ => 4

def weight (pieces : List Piece) : ℕ := (pieces.map Piece.weight).sum

@[simp]
theorem weight_nil : weight [] = 0 := rfl

@[simp]
theorem weight_append (first second : List Piece) :
    weight (first ++ second) = weight first + weight second := by
  simp [weight]

@[simp]
theorem weight_byte (value : UInt8) : weight [.byte value] = 1 := rfl

@[simp]
theorem weight_unit (value : ℕ) : weight [.unit value] = 4 := rfl

theorem length_utf8Encode_le (code : ℕ) : (utf8Encode code).length ≤ 4 := by
  unfold utf8Encode
  split_ifs <;> simp

theorem length_unitBytes_le (unit : ℕ) : (unitBytes unit).length ≤ 4 := by
  unfold unitBytes
  split
  · exact length_utf8Encode_le _
  · exact length_utf8Encode_le _

theorem length_assemble_le (pieces : List Piece) : (assemble pieces).length ≤ weight pieces := by
  induction pieces using assemble.induct with
  | case1 => exact le_rfl
  | case2 value rest ih =>
    simp only [assemble, weight, List.map_cons, List.sum_cons, Piece.weight, List.length_cons] at ih ⊢
    omega
  | case3 high low rest pair ih =>
    have encoded := length_utf8Encode_le (0x10000 + (high - 0xD800) * 1024 + (low - 0xDC00))
    simp only [assemble, if_pos pair, weight, List.map_cons, List.sum_cons, Piece.weight,
      List.length_append] at ih ⊢
    omega
  | case4 high low rest noPair ih =>
    have encoded := length_unitBytes_le high
    simp only [assemble, if_neg noPair, weight, List.map_cons, List.sum_cons, Piece.weight,
      List.length_append] at ih ⊢
    omega
  | case5 unit rest noUnit ih =>
    have encoded := length_unitBytes_le unit
    rw [assemble.eq_4 _ _ noUnit]
    simp only [weight, List.map_cons, List.sum_cons, Piece.weight, List.length_append] at ih ⊢
    omega

/-- Digits of a `\u` escape that were read before. -/
def ScanState.credit : ScanState → ℕ
  | .hex left _ => 3 - left
  | _ => 0

/-- A byte inside a string never emits more than it consumes, once the digits of an escape are
counted when they are read. -/
theorem weight_step {state next : ScanState} {byte : UInt8} {emitted : List Piece}
    (moves : state.step strict byte = some (next, emitted)) :
    weight emitted + next.credit ≤ state.credit + 1 := by
  cases state with
  | text utf8 =>
    cases utf8 with
    | start =>
      simp only [ScanState.step] at moves
      split at moves
      · cases moves
        decide
      · split at moves
        · cases moves
        · split at moves
          · obtain ⟨_, _, same⟩ := Option.map_eq_some_iff.mp moves
            cases same
            exact le_rfl
          · cases moves
            exact le_rfl
    | tail low high left =>
      obtain ⟨_, _, same⟩ := Option.map_eq_some_iff.mp moves
      cases same
      exact le_rfl
  | escape =>
    simp only [ScanState.step] at moves
    split at moves
    · cases moves
      decide
    · obtain ⟨_, _, same⟩ := Option.map_eq_some_iff.mp moves
      cases same
      exact le_rfl
  | hex left unit =>
    obtain ⟨digit, _, same⟩ := Option.map_eq_some_iff.mp moves
    cases left with
    | zero =>
      cases same
      exact le_rfl
    | succ more =>
      cases same
      simp only [ScanState.credit, weight_nil]
      omega

/-- **Decoding never lengthens.** -/
theorem Scans.weight_le {state : ScanState} {consumed : List UInt8} {pieces : List Piece}
    (scans : Scans strict state consumed pieces) :
    weight pieces ≤ consumed.length + state.credit := by
  induction scans with
  | close => exact le_rfl
  | next inside moves others ih =>
    have here := weight_step moves
    rw [weight_append, List.length_cons]
    omega

/-- A text state moves on a byte that it emits, or on a backslash. -/
theorem step_text {utf8 : Utf8State} {byte : UInt8} {next : ScanState} {emitted : List Piece}
    (moves : (ScanState.text utf8).step strict byte = some (next, emitted)) :
    (byte = 92 ∧ next = .escape ∧ emitted = []) ∨
      (byte ≠ 92 ∧ 32 ≤ byte ∧ (utf8 = .start ∨ byte ≠ 34) ∧ emitted = [.byte byte] ∧
        ∃ after, next = .text after ∧ (strict = true → utf8.step byte = some after)) := by
  cases utf8 with
  | start =>
    simp only [ScanState.step] at moves
    split at moves
    · rename_i backslash
      cases moves
      exact Or.inl ⟨backslash, rfl, rfl⟩
    · rename_i notBackslash
      split at moves
      · cases moves
      · rename_i notControl
        have low : 32 ≤ byte := UInt8.not_lt.mp notControl
        split at moves
        · obtain ⟨after, steps, same⟩ := Option.map_eq_some_iff.mp moves
          cases same
          exact Or.inr ⟨notBackslash, low, Or.inl rfl, rfl, after, rfl, fun _ => steps⟩
        · rename_i lenient
          cases moves
          exact Or.inr ⟨notBackslash, low, Or.inl rfl, rfl, .start, rfl,
            fun isStrict => absurd isStrict lenient⟩
  | tail low high left =>
    obtain ⟨after, steps, same⟩ := Option.map_eq_some_iff.mp moves
    cases same
    have continuation : isContinuation byte := by
      simp only [Utf8State.step] at steps
      split at steps
      · rename_i checked
        exact checked.1
      · cases steps
    have high : 128 ≤ byte.toNat := by
      simp only [isContinuation, Bool.and_eq_true, decide_eq_true_eq] at continuation
      exact continuation.1
    refine Or.inr ⟨?_, ?_, Or.inr ?_, rfl, after, rfl, fun _ => steps⟩
    · rintro rfl
      exact absurd high (by decide)
    · exact UInt8.le_iff_toNat_le.mpr (le_trans (by decide) high)
    · rintro rfl
      exact absurd high (by decide)

/-- An escape is longer than what it decodes to. -/
theorem Scans.weight_lt {state : ScanState} {consumed : List UInt8} {pieces : List Piece}
    (scans : Scans strict state consumed pieces) (isText : ∃ utf8, state = .text utf8)
    (escaped : 92 ∈ consumed) : weight pieces < consumed.length := by
  induction scans with
  | close => cases escaped
  | next inside moves others ih =>
    obtain ⟨utf8, rfl⟩ := isText
    rw [weight_append, List.length_cons]
    rcases step_text moves with ⟨_, rfl, rfl⟩ | ⟨notBackslash, _, _, rfl, after, rfl, _⟩
    · have later := others.weight_le
      simp only [ScanState.credit] at later
      rw [weight_nil]
      omega
    · have later := ih ⟨after, rfl⟩ (List.mem_of_ne_of_mem notBackslash.symm escaped)
      rw [weight_byte]
      omega

/-- A scanned text without a backslash is verbatim. -/
theorem Scans.verbatim {state : ScanState} {consumed : List UInt8} {pieces : List Piece}
    (scans : Scans strict state consumed pieces) {utf8 : Utf8State} (isText : state = .text utf8)
    (unescaped : 92 ∉ consumed) :
    (∀ byte ∈ consumed, PlainByte byte) ∧ (strict = true → utf8Run utf8 consumed = some .start) := by
  induction scans generalizing utf8 with
  | close =>
    cases isText
    exact ⟨fun _ member => absurd member List.not_mem_nil, fun _ => rfl⟩
  | next inside moves others ih =>
    subst isText
    rcases step_text moves with ⟨rfl, _, _⟩ | ⟨notBackslash, low, quote, _, after, rfl, steps⟩
    · exact absurd List.mem_cons_self unescaped
    · obtain ⟨plainRest, utf8Rest⟩ := ih rfl fun member => unescaped (List.mem_cons_of_mem _ member)
      refine ⟨?_, fun isStrict => ?_⟩
      · intro byte member
        rcases List.mem_cons.mp member with rfl | member
        · refine ⟨low, ?_, notBackslash⟩
          rcases quote with rfl | notQuote
          · exact fun isQuote => inside ⟨rfl, isQuote⟩
          · exact notQuote
        · exact plainRest byte member
      · rw [utf8Run, steps isStrict]
        exact utf8Rest isStrict

/-- Inside a scanned text every quote is escaped. -/
theorem Scans.quote {state : ScanState} {consumed : List UInt8} {pieces : List Piece}
    (scans : Scans strict state consumed pieces) {front back : List UInt8} {before : UInt8}
    (split : consumed = front ++ before :: 34 :: back) : before = 92 := by
  induction scans generalizing front with
  | close => simp at split
  | @next state next byte emitted later rest inside moves others ih =>
    cases front with
    | cons first front =>
      exact ih (List.cons.inj split).2
    | nil =>
      obtain ⟨rfl, rfl⟩ := List.cons.inj split
      have escaping : next = .escape := by
        cases others with
        | next notClosing reads _ =>
          cases next with
          | escape => rfl
          | hex left unit => cases reads
          | text utf8 =>
            cases utf8 with
            | start => exact absurd ⟨rfl, rfl⟩ notClosing
            | tail low high left =>
              rcases step_text reads with ⟨isBackslash, _⟩ | ⟨_, _, quote, _⟩
              · exact absurd isBackslash (by decide)
              · rcases quote with isStart | notQuote
                · cases isStart
                · exact absurd rfl notQuote
      subst escaping
      cases state with
      | escape =>
        simp only [ScanState.step] at moves
        split at moves
        · cases moves
        · obtain ⟨_, _, same⟩ := Option.map_eq_some_iff.mp moves
          cases same
      | hex left unit =>
        obtain ⟨_, _, same⟩ := Option.map_eq_some_iff.mp moves
        cases left with
        | zero => cases same
        | succ more => cases same
      | text utf8 =>
        rcases step_text moves with ⟨isBackslash, _⟩ | ⟨_, _, _, _, after, other, _⟩
        · exact isBackslash
        · cases other

/-- A text pasted between quotes, with another quoted text behind it: if the scan decodes to the
text itself, the text was verbatim or the scan ended at the next opening quote. -/
theorem scanString_broken {text behind after : List UInt8}
    (scanned : scanString strict (text ++ 34 :: 44 :: 34 :: behind) = some (text, after)) :
    Verbatim strict text ∨ after = behind := by
  obtain ⟨⟨pieces, rest⟩, reads, same⟩ := Option.map_eq_some_iff.mp scanned
  obtain ⟨decoded, rfl⟩ : assemble pieces = text ∧ rest = after := by simpa using same
  obtain ⟨consumed, layout, scans⟩ := scan_eq_some_iff.mp reads
  have decodedLe : text.length ≤ weight pieces := decoded ▸ length_assemble_le pieces
  have weightLe : weight pieces ≤ consumed.length := scans.weight_le
  rcases List.append_eq_append_iff.mp layout with ⟨extra, rfl, behindEq⟩ | ⟨extra, rfl, _⟩
  · rcases extra with _ | ⟨first, _ | ⟨second, _ | ⟨third, extra⟩⟩⟩
    · -- the scan ended at the closing quote, so nothing in the text was escaped
      rw [List.append_nil] at scans weightLe
      refine Or.inl (scans.verbatim rfl fun escaped => ?_)
      have shorter := scans.weight_lt ⟨.start, rfl⟩ escaped
      omega
    · simp at behindEq
    · simp only [List.cons_append, List.nil_append, List.cons.injEq] at behindEq
      exact Or.inr behindEq.2.2.2.symm
    · simp only [List.cons_append, List.cons.injEq] at behindEq
      obtain ⟨rfl, rfl, rfl, _⟩ := behindEq
      have split : text ++ 34 :: 44 :: 34 :: extra = (text ++ [34]) ++ 44 :: 34 :: extra := by simp
      have escaped := scans.quote split
      exact absurd escaped (by decide)
  · have isNil : extra = [] := by
      rw [List.length_append] at decodedLe
      exact List.length_eq_zero_iff.mp (by omega)
    subst isNil
    rw [List.append_nil] at decodedLe ⊢
    refine Or.inl (scans.verbatim rfl fun escaped => ?_)
    have shorter := scans.weight_lt ⟨.start, rfl⟩ escaped
    omega

/-! ### Numbers -/

/-- What may stand behind a value: the end of the text or one of `,`, `]` and `}`. -/
def Delimited (rest : List UInt8) : Prop := ∀ byte ∈ rest.head?, byte = 44 ∨ byte = 93 ∨ byte = 125

theorem delimited_nil : Delimited [] := fun _ member => by cases member

theorem delimited_comma (rest : List UInt8) : Delimited (44 :: rest) :=
  fun _ member => Or.inl (Option.some.inj member).symm

theorem delimited_bracket (rest : List UInt8) : Delimited (93 :: rest) :=
  fun _ member => Or.inr (Or.inl (Option.some.inj member).symm)

theorem delimited_brace (rest : List UInt8) : Delimited (125 :: rest) :=
  fun _ member => Or.inr (Or.inr (Option.some.inj member).symm)

theorem takeWhile_delimited {rest : List UInt8} (delimited : Delimited rest) :
    rest.takeWhile isDigit = [] ∧ rest.dropWhile isDigit = rest := by
  cases rest with
  | nil => exact ⟨rfl, rfl⟩
  | cons byte rest =>
    rcases delimited byte rfl with rfl | rfl | rfl
    · exact ⟨rfl, rfl⟩
    · exact ⟨rfl, rfl⟩
    · exact ⟨rfl, rfl⟩

theorem scanDigits_printNat (number : ℕ) {rest : List UInt8} (delimited : Delimited rest) :
    scanDigits (printNat number ++ rest) = some (printNat number, rest) := by
  have digits : ∀ byte ∈ printNat number, isDigit byte = true := fun _ => isDigit_of_mem_printNat
  obtain ⟨noDigits, allRest⟩ := takeWhile_delimited delimited
  have front : (printNat number ++ rest).takeWhile isDigit = printNat number := by
    rw [List.takeWhile_append_of_pos digits, noDigits, List.append_nil]
  have back : (printNat number ++ rest).dropWhile isDigit = rest := by
    rw [List.dropWhile_append_of_pos digits, allRest]
  rw [scanDigits, front, back, if_neg (printNat_ne_nil number)]

theorem scanFraction_delimited {rest : List UInt8} (delimited : Delimited rest) :
    scanFraction rest = some ([], rest) := by
  cases rest with
  | nil => rfl
  | cons byte rest =>
    rcases delimited byte rfl with rfl | rfl | rfl
    · rfl
    · rfl
    · rfl

theorem scanExponent_delimited {rest : List UInt8} (delimited : Delimited rest) :
    scanExponent rest = some (0, rest) := by
  cases rest with
  | nil => rfl
  | cons byte rest =>
    rcases delimited byte rfl with rfl | rfl | rfl
    · rfl
    · rfl
    · rfl

theorem scanUnsigned_printNat (negative : Bool) (number : ℕ) {rest : List UInt8}
    (delimited : Delimited rest) :
    scanUnsigned negative (printNat number ++ rest) =
      some (.num (if negative then -(number : ℤ) else number) 0, rest) := by
  have noZero : ¬ ((printNat number).head? = some 48 ∧ printNat number ≠ [48]) := by
    rintro ⟨leading, longer⟩
    rcases Nat.eq_zero_or_pos number with rfl | positive
    · exact longer printNat_zero
    · exact head_printNat positive leading
  rw [scanUnsigned, scanDigits_printNat number delimited, Option.bind_some]
  simp only [if_neg noZero, scanFraction_delimited delimited, scanExponent_delimited delimited,
    Option.bind_some, Option.map_some, List.append_nil, readNat_printNat, List.length_nil,
    Nat.cast_zero, sub_zero]

/-- **A printed integer is read back**, up to the delimiter behind it. -/
theorem scanNumber_printInt (number : ℤ) {rest : List UInt8} (delimited : Delimited rest) :
    scanNumber (printInt number ++ rest) = some (.num number 0, rest) := by
  unfold printInt
  split
  · rename_i negative
    show scanUnsigned true (printNat number.natAbs ++ rest) = _
    rw [scanUnsigned_printNat true _ delimited, if_pos rfl, Int.ofNat_natAbs_of_nonpos negative.le,
      neg_neg]
  · rename_i nonnegative
    obtain ⟨first, others, shape⟩ := List.exists_cons_of_ne_nil (printNat_ne_nil number.natAbs)
    have digit : isDigit first := isDigit_of_mem_printNat (shape ▸ List.mem_cons_self)
    have unsigned : scanNumber (printNat number.natAbs ++ rest) =
        scanUnsigned false (printNat number.natAbs ++ rest) := by
      rw [shape, List.cons_append, scanNumber.eq_2]
      intro rest' same
      obtain rfl : first = 45 := (List.cons.inj same).1
      exact absurd digit (by decide)
    rw [unsigned, scanUnsigned_printNat false _ delimited, if_neg (by decide),
      Int.natAbs_of_nonneg (not_lt.mp nonnegative)]

/-! ### Values -/

/-- The text is read as the value, whatever delimiter follows it, on every fuel from `need` on. -/
def Denotes (strict : Bool) (need : ℕ) (text : List UInt8) (value : Json) : Prop :=
  ∀ fuel rest, need ≤ fuel → Delimited rest →
    parseValue strict fuel (text ++ rest) = some (value, rest)

theorem Denotes.mono {need more : ℕ} {text : List UInt8} {value : Json}
    (denotes : Denotes strict need text value) (le : need ≤ more) : Denotes strict more text value :=
  fun fuel rest enough => denotes fuel rest (le.trans enough)

theorem parse_of_denotes {need : ℕ} {text : List UInt8} {value : Json}
    (denotes : Denotes strict need text value) (enough : need ≤ text.length + 1) :
    parse strict text = some value := by
  have read := denotes (text.length + 1) [] enough delimited_nil
  rw [List.append_nil] at read
  rw [parse, read]
  rfl

/-- A value that starts with a sign or a digit is a number. -/
theorem parseValue_number {byte : UInt8} (numeric : byte = 45 ∨ isDigit byte) (fuel : ℕ)
    (rest : List UInt8) : parseValue strict (fuel + 1) (byte :: rest) = scanNumber (byte :: rest) := by
  have range : byte = 45 ∨ (48 ≤ byte.toNat ∧ byte.toNat ≤ 57) := by
    rcases numeric with same | digit
    · exact Or.inl same
    · simp only [isDigit, Bool.and_eq_true, decide_eq_true_eq] at digit
      exact Or.inr digit
  have other : ∀ letter : UInt8, letter.toNat ≠ 45 → (letter.toNat < 48 ∨ 57 < letter.toNat) →
      byte ≠ letter := by
    rintro letter notMinus outside rfl
    rcases range with rfl | inside
    · exact notMinus rfl
    · omega
  have visible : isBlank byte = false := by
    simp [isBlank, other 32 (by decide) (by decide), other 9 (by decide) (by decide),
      other 10 (by decide) (by decide), other 13 (by decide) (by decide)]
  have skipped : skipBlank (byte :: rest) = byte :: rest := by
    simp [skipBlank, visible]
  rw [parseValue, skipped]
  simp only [if_neg (other 123 (by decide) (by decide)), if_neg (other 91 (by decide) (by decide)),
    if_neg (other 34 (by decide) (by decide)), if_neg (other 116 (by decide) (by decide)),
    if_neg (other 102 (by decide) (by decide)), if_neg (other 110 (by decide) (by decide))]

theorem denotes_printInt (number : ℤ) : Denotes strict 1 (printInt number) (.num number 0) := by
  intro fuel rest enough delimited
  obtain ⟨fuel, rfl⟩ : ∃ less, fuel = less + 1 := ⟨fuel - 1, by omega⟩
  obtain ⟨first, others, shape, numeric⟩ :
      ∃ first others, printInt number = first :: others ∧ (first = 45 ∨ isDigit first) := by
    unfold printInt
    split
    · exact ⟨45, _, rfl, Or.inl rfl⟩
    · obtain ⟨first, others, shape⟩ := List.exists_cons_of_ne_nil (printNat_ne_nil number.natAbs)
      exact ⟨first, others, shape, Or.inr (isDigit_of_mem_printNat (shape ▸ List.mem_cons_self))⟩
  rw [shape, List.cons_append, parseValue_number numeric, ← List.cons_append, ← shape]
  exact scanNumber_printInt number delimited

theorem denotes_string {text : List UInt8} (verbatim : Verbatim strict text) :
    Denotes strict 1 (34 :: text ++ [34]) (.str text) := by
  intro fuel rest enough _
  obtain ⟨fuel, rfl⟩ : ∃ less, fuel = less + 1 := ⟨fuel - 1, by omega⟩
  have layout : 34 :: text ++ [34] ++ rest = 34 :: (text ++ 34 :: rest) := by simp
  rw [layout]
  show (scanString strict (text ++ 34 :: rest)).map (fun scan => (Json.str scan.1, scan.2)) = _
  rw [scanString_verbatim verbatim]
  rfl

/-! ### Objects and arrays -/

/-- Items separated by commas. -/
def commaSep : List (List UInt8) → List UInt8
  | [] => []
  | [item] => item
  | item :: next :: rest => item ++ 44 :: commaSep (next :: rest)

theorem commaSep_concat (items : List (List UInt8)) (last : List UInt8) :
    commaSep (items ++ [last]) = commaSep items ++ (if items = [] then [] else [44]) ++ last := by
  induction items with
  | nil => rfl
  | cons item rest ih =>
    cases rest with
    | nil => simp [commaSep]
    | cons next rest =>
      rw [if_neg (List.cons_ne_nil _ _)] at ih ⊢
      show item ++ 44 :: commaSep (next :: rest ++ [last]) = _
      rw [ih]
      simp [commaSep]

/-- `"name":text` -/
def renderMember (name text : List UInt8) : List UInt8 := 34 :: name ++ 34 :: 58 :: text

/-- An object, from the names and texts of its members. -/
def renderObject (members : List (List UInt8 × List UInt8)) : List UInt8 :=
  123 :: commaSep (members.map fun member => renderMember member.1 member.2) ++ [125]

/-- An array, from the texts of its items. -/
def renderArray (items : List (List UInt8)) : List UInt8 := 91 :: commaSep items ++ [93]

/-- One member is read off the front of an object, up to what stands behind it. -/
theorem parseMembers_member {name text rest : List UInt8} {value : Json} {fuel : ℕ}
    (verbatim : Verbatim strict name)
    (read : parseValue strict fuel (text ++ rest) = some (value, rest)) :
    parseMembers strict (fuel + 1) (renderMember name text ++ rest) =
      match expect 44 rest with
      | some more =>
        (parseMembers strict fuel more).map fun (members, after) => ((name, value) :: members, after)
      | none => (expect 125 rest).map fun after => ([(name, value)], after) := by
  have layout : renderMember name text ++ rest = 34 :: (name ++ 34 :: (58 :: (text ++ rest))) := by
    simp [renderMember]
  have opening : expect 34 (34 :: (name ++ 34 :: (58 :: (text ++ rest)))) =
      some (name ++ 34 :: (58 :: (text ++ rest))) := rfl
  have colon : expect 58 (58 :: (text ++ rest)) = some (text ++ rest) := rfl
  rw [layout, parseMembers, opening, Option.bind_some, scanString_verbatim verbatim,
    Option.bind_some]
  show ((expect 58 (58 :: (text ++ rest))).bind fun afterColon =>
    (parseValue strict fuel afterColon).bind _) = _
  rewrite [colon, Option.bind_some, read, Option.bind_some]
  rfl

/-- The members behind a first one whose value is denoted. -/
theorem parseMembers_peel {name text more after : List UInt8} {value : Json} {need fuel : ℕ}
    {members : List (List UInt8 × Json)} (verbatim : Verbatim strict name)
    (denotes : Denotes strict need text value) (enough : need ≤ fuel)
    (read : parseMembers strict (fuel + 1) (renderMember name text ++ 44 :: more) =
      some (members, after)) :
    ∃ others, parseMembers strict fuel more = some (others, after) ∧
      members = (name, value) :: others := by
  rw [parseMembers_member verbatim (denotes fuel (44 :: more) enough (delimited_comma more))] at read
  obtain ⟨⟨others, rest⟩, readMore, same⟩ := Option.map_eq_some_iff.mp read
  cases same
  exact ⟨others, readMore, rfl⟩

/-- The members of an object that is not empty. -/
theorem parseMembers_of_parse {name text more : List UInt8} {members : List (List UInt8 × Json)}
    (read : parse strict (123 :: (renderMember name text ++ more)) = some (.obj members)) :
    ∃ after, parseMembers strict (renderMember name text ++ more).length.succ
      (renderMember name text ++ more) = some (members, after) := by
  unfold parse at read
  split at read
  · rename_i value rest readValue
    split at read
    · obtain rfl := Option.some.inj read
      replace readValue : (match expect 125 (renderMember name text ++ more) with
          | some after => some (Json.obj [], after)
          | none => (parseMembers strict (renderMember name text ++ more).length.succ
              (renderMember name text ++ more)).map fun (members, after) => (.obj members, after)) =
        some (.obj members, rest) := readValue
      have notEmpty : expect 125 (renderMember name text ++ more) = none := rfl
      rw [notEmpty] at readValue
      obtain ⟨⟨found, after⟩, readMembers, same⟩ := Option.map_eq_some_iff.mp readValue
      cases same
      exact ⟨rest, readMembers⟩
    · cases read
  · cases read

/-- **A string member pasted between quotes was verbatim if it is read back**, when another member
follows whose name does not start with a separator. -/
theorem verbatim_of_parseMembers {name text behind after : List UInt8} {key : List UInt8}
    {members : List (List UInt8 × Json)} {fuel : ℕ} (verbatim : Verbatim strict name)
    (noComma : expect 44 behind = none) (noBrace : expect 125 behind = none)
    (read : parseMembers strict fuel (renderMember name (34 :: text ++ [34]) ++ 44 :: 34 :: behind) =
      some ((key, .str text) :: members, after)) : Verbatim strict text := by
  cases fuel with
  | zero => cases read
  | succ fuel =>
    have layout : renderMember name (34 :: text ++ [34]) ++ 44 :: 34 :: behind =
        34 :: (name ++ 34 :: (58 :: (34 :: (text ++ 34 :: 44 :: 34 :: behind)))) := by
      simp [renderMember]
    rw [layout, parseMembers] at read
    obtain ⟨quoted, opened, afterQuote⟩ := Option.bind_eq_some_iff.mp read
    obtain rfl : _ = quoted := Option.some.inj opened
    rw [scanString_verbatim verbatim, Option.bind_some] at afterQuote
    obtain ⟨valueText, colon, afterColon⟩ := Option.bind_eq_some_iff.mp afterQuote
    obtain rfl : _ = valueText := Option.some.inj colon
    obtain ⟨⟨value, rest⟩, readValue, ends⟩ := Option.bind_eq_some_iff.mp afterColon
    cases fuel with
    | zero => cases readValue
    | succ fuel =>
      replace readValue : (scanString strict (text ++ 34 :: 44 :: 34 :: behind)).map
          (fun scan => (Json.str scan.1, scan.2)) = some (value, rest) := readValue
      obtain ⟨⟨decoded, rest⟩, scanned, same⟩ := Option.map_eq_some_iff.mp readValue
      cases same
      dsimp only at ends
      have sameText : decoded = text := by
        split at ends
        · obtain ⟨others, -, same⟩ := Option.map_eq_some_iff.mp ends
          simp only [Prod.mk.injEq, List.cons.injEq, Json.str.injEq] at same
          exact same.1.1.2
        · obtain ⟨others, -, same⟩ := Option.map_eq_some_iff.mp ends
          simp only [Prod.mk.injEq, List.cons.injEq, Json.str.injEq] at same
          exact same.1.1.2
      subst sameText
      rcases scanString_broken scanned with isVerbatim | rfl
      · exact isVerbatim
      · -- the scan ran on to the name of the next member, where no separator follows
        rw [noComma, noBrace] at ends
        cases ends

theorem parseMembers_render {need : ℕ} (members : List (List UInt8 × List UInt8 × Json))
    (verbatim : ∀ member ∈ members, Verbatim strict member.1)
    (denotes : ∀ member ∈ members, Denotes strict need member.2.1 member.2.2)
    (nonempty : members ≠ []) (fuel : ℕ) (enough : need + members.length ≤ fuel)
    (rest : List UInt8) :
    parseMembers strict fuel
        (commaSep (members.map fun member => renderMember member.1 member.2.1) ++ 125 :: rest) =
      some (members.map fun member => (member.1, member.2.2), rest) := by
  induction members generalizing fuel with
  | nil => exact absurd rfl nonempty
  | cons first others ih =>
    obtain ⟨fuel, rfl⟩ : ∃ less, fuel = less + 1 := by
      rw [List.length_cons] at enough
      exact ⟨fuel - 1, by omega⟩
    rw [List.length_cons] at enough
    have verbatimFirst := verbatim first List.mem_cons_self
    have readFirst := denotes first List.mem_cons_self
    cases others with
    | nil =>
      have read := readFirst fuel (125 :: rest) (by omega) (delimited_brace rest)
      exact parseMembers_member verbatimFirst read
    | cons second others =>
      have later := ih (fun member inside => verbatim member (List.mem_cons_of_mem _ inside))
        (fun member inside => denotes member (List.mem_cons_of_mem _ inside))
        (List.cons_ne_nil _ _) fuel (by omega)
      have layout : commaSep ((first :: second :: others).map fun member =>
            renderMember member.1 member.2.1) ++ 125 :: rest =
          renderMember first.1 first.2.1 ++ 44 :: (commaSep ((second :: others).map fun member =>
            renderMember member.1 member.2.1) ++ 125 :: rest) := by
        simp [commaSep]
      have read := readFirst fuel (44 :: (commaSep ((second :: others).map fun member =>
        renderMember member.1 member.2.1) ++ 125 :: rest)) (by omega) (delimited_comma _)
      rw [layout, parseMembers_member verbatimFirst read]
      show (parseMembers strict fuel _).map _ = _
      rw [later]
      rfl

/-- **A rendered object denotes its members.** -/
theorem denotes_object {need : ℕ} (members : List (List UInt8 × List UInt8 × Json))
    (verbatim : ∀ member ∈ members, Verbatim strict member.1)
    (denotes : ∀ member ∈ members, Denotes strict need member.2.1 member.2.2)
    (nonempty : members ≠ []) :
    Denotes strict (need + members.length + 1)
      (renderObject (members.map fun member => (member.1, member.2.1)))
      (.obj (members.map fun member => (member.1, member.2.2))) := by
  intro fuel rest enough _
  obtain ⟨fuel, rfl⟩ : ∃ less, fuel = less + 1 := ⟨fuel - 1, by omega⟩
  have read := parseMembers_render members verbatim denotes nonempty fuel (by omega) rest
  have layout : renderObject (members.map fun member => (member.1, member.2.1)) ++ rest =
      123 :: (commaSep (members.map fun member => renderMember member.1 member.2.1) ++ 125 :: rest) := by
    simp [renderObject, List.map_map, Function.comp_def]
  have notEmpty : expect 125
      (commaSep (members.map fun member => renderMember member.1 member.2.1) ++ 125 :: rest) = none := by
    cases members with
    | nil => exact absurd rfl nonempty
    | cons first others =>
      cases others with
      | nil => rfl
      | cons second others => rfl
  rw [layout]
  show (match expect 125 _ with
    | some after => some (Json.obj [], after)
    | none => (parseMembers strict fuel _).map fun (members, after) => (Json.obj members, after)) = _
  rw [notEmpty, read]
  rfl

/-- No value starts with a closing bracket. -/
theorem expect_bracket_of_parseValue {fuel : ℕ} {text rest : List UInt8} {value : Json}
    (read : parseValue strict fuel text = some (value, rest)) : expect 93 text = none := by
  cases fuel with
  | zero => cases read
  | succ fuel =>
    rw [parseValue] at read
    unfold expect
    split at read
    · rename_i blank
      rw [blank]
    · rename_i byte others shape
      rw [shape]
      by_cases closing : byte = 93
      · subst closing
        cases read
      · exact if_neg closing

theorem expect_bracket_of_parseElements {fuel : ℕ} {text rest : List UInt8} {items : List Json}
    (read : parseElements strict fuel text = some (items, rest)) : expect 93 text = none := by
  cases fuel with
  | zero => cases read
  | succ fuel =>
    obtain ⟨⟨value, afterValue⟩, readValue, _⟩ := Option.bind_eq_some_iff.mp read
    exact expect_bracket_of_parseValue readValue

theorem parseElements_render {need : ℕ} (items : List (List UInt8 × Json))
    (denotes : ∀ item ∈ items, Denotes strict need item.1 item.2)
    (nonempty : items ≠ []) (fuel : ℕ) (enough : need + items.length ≤ fuel) (rest : List UInt8) :
    parseElements strict fuel (commaSep (items.map Prod.fst) ++ 93 :: rest) =
      some (items.map Prod.snd, rest) := by
  induction items generalizing fuel with
  | nil => exact absurd rfl nonempty
  | cons first others ih =>
    obtain ⟨fuel, rfl⟩ : ∃ less, fuel = less + 1 := by
      rw [List.length_cons] at enough
      exact ⟨fuel - 1, by omega⟩
    rw [List.length_cons] at enough
    have readFirst := denotes first List.mem_cons_self
    cases others with
    | nil =>
      have read := readFirst fuel (93 :: rest) (by omega) (delimited_bracket rest)
      simp only [List.map_cons, List.map_nil, commaSep, parseElements, read, Option.bind_some]
      rfl
    | cons second others =>
      have later := ih (fun item inside => denotes item (List.mem_cons_of_mem _ inside))
        (List.cons_ne_nil _ _) fuel (by omega)
      have layout : commaSep ((first :: second :: others).map Prod.fst) ++ 93 :: rest =
          first.1 ++ 44 :: (commaSep ((second :: others).map Prod.fst) ++ 93 :: rest) := by
        simp [commaSep]
      have read := readFirst fuel (44 :: (commaSep ((second :: others).map Prod.fst) ++ 93 :: rest))
        (by omega) (delimited_comma _)
      rw [layout, parseElements, read, Option.bind_some]
      show (parseElements strict fuel _).map _ = _
      rw [later]
      rfl

/-- **A rendered array denotes its items.** -/
theorem denotes_array {need : ℕ} (items : List (List UInt8 × Json))
    (denotes : ∀ item ∈ items, Denotes strict need item.1 item.2) :
    Denotes strict (need + items.length + 1) (renderArray (items.map Prod.fst))
      (.arr (items.map Prod.snd)) := by
  intro fuel rest enough _
  obtain ⟨fuel, rfl⟩ : ∃ less, fuel = less + 1 := ⟨fuel - 1, by omega⟩
  have layout : renderArray (items.map Prod.fst) ++ rest =
      91 :: (commaSep (items.map Prod.fst) ++ 93 :: rest) := by
    simp [renderArray]
  rw [layout]
  show (match expect 93 (commaSep (items.map Prod.fst) ++ 93 :: rest) with
    | some after => some (Json.arr [], after)
    | none => (parseElements strict fuel _).map fun (items, after) => (Json.arr items, after)) = _
  cases items with
  | nil => rfl
  | cons first others =>
    have read := parseElements_render (first :: others) denotes (List.cons_ne_nil _ _)
      fuel (by omega) rest
    rw [expect_bracket_of_parseElements read, read]
    rfl

/-! ### Objects of integers -/

/-- Of distinct names, each finds its own member. -/
theorem member?_of_mem {members : List (List UInt8 × Json)} (distinct : (members.map Prod.fst).Nodup)
    {name : List UInt8} {value : Json} (inside : (name, value) ∈ members) :
    (Json.obj members).member? name = some value := by
  have only : ∀ member ∈ members, member.1 = name → member = (name, value) := fun member other same =>
    List.inj_on_of_nodup_map distinct other inside same
  obtain ⟨found, looked⟩ : ∃ found, members.reverse.find? (fun member => member.1 = name) = some found := by
    rw [← Option.isSome_iff_exists, List.find?_isSome]
    exact ⟨(name, value), List.mem_reverse.mpr inside, by simp⟩
  have named := List.find?_some looked
  have member := List.mem_reverse.mp (List.mem_of_find?_eq_some looked)
  rw [Json.member?, looked, only found member (by simpa using named)]
  rfl

/-- Items that are not empty take at least a byte each. -/
theorem length_le_commaSep (items : List (List UInt8)) (nonempty : ∀ item ∈ items, item ≠ []) :
    items.length ≤ (commaSep items).length := by
  induction items with
  | nil => exact Nat.zero_le _
  | cons first rest ih =>
    have here := List.length_pos_iff.mpr (nonempty first List.mem_cons_self)
    have later := ih fun item inside => nonempty item (List.mem_cons_of_mem _ inside)
    cases rest with
    | nil => exact here
    | cons second others =>
      simp only [commaSep, List.length_append, List.length_cons] at later ⊢
      omega

/-- **A printed object of integers is read back.** -/
theorem parse_integers (strict : Bool) {members : List (List UInt8 × ℤ)} (nonempty : members ≠ [])
    (verbatim : ∀ member ∈ members, Verbatim strict member.1) :
    parse strict (renderObject (members.map fun member => (member.1, printInt member.2))) =
      some (.obj (members.map fun member => (member.1, .num member.2 0))) := by
  let printed := members.map fun member => (member.1, printInt member.2, Json.num member.2 0)
  have denotes : Denotes strict (1 + printed.length + 1)
      (renderObject (printed.map fun member => (member.1, member.2.1)))
      (.obj (printed.map fun member => (member.1, member.2.2))) := by
    apply denotes_object
    · intro member inside
      obtain ⟨source, sourceInside, rfl⟩ := List.mem_map.mp inside
      exact verbatim source sourceInside
    · intro member inside
      obtain ⟨source, -, rfl⟩ := List.mem_map.mp inside
      exact denotes_printInt source.2
    · simpa [printed] using nonempty
  have texts := length_le_commaSep (members.map fun member => renderMember member.1 (printInt member.2))
    (List.forall_mem_map.mpr fun member _ => List.cons_ne_nil _ _)
  simp only [printed, List.map_map, List.length_map] at denotes texts
  refine parse_of_denotes denotes ?_
  simp only [renderObject, List.map_map, Function.comp_def, List.length_append, List.length_cons,
    List.length_nil]
  omega

end JsonText
