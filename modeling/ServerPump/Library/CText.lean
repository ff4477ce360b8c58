/-
**C strings, fixed character arrays and decimal numbers.**

Memory is a list of bytes. The C string that starts a memory is what stands before its first NUL
(`cstr`); the library functions are given by what they do to that string.

* `strncat`, `strncpy`, `snprintf` — the copying functions. `strncpy` writes into a `CharArray n`,
  an array that carries the proof of its size; `text_strncpy` says what is read back, and
  `CharArray.Filled.strncpy` that nothing is left of an earlier text.
* `printNat`, `printInt` — `%d` and `%ld`. `readNat_printNat` reads a printed number back, and
  `length_printInt_le` bounds what is printed by the number of digits.
* `strtol`, `atoi`, `atoll` — the decimal readers, with the saturation of `strtol` and the
  conversion of its result to the narrower type. `strtol_printInt` reads a printed number back.
-/

import Mathlib.Data.List.TakeWhile
import Mathlib.Data.List.TakeDrop
import Mathlib.Tactic.NormNum

namespace CText

/-- The bytes of a string literal. -/
def ascii (literal : String) : List UInt8 := literal.toList.map Char.toUInt8

/-! ### C strings -/

/-- The C string that starts a memory: the bytes before the first NUL. -/
def cstr (memory : List UInt8) : List UInt8 := memory.takeWhile (· ≠ 0)

/-- A C string: a text without a NUL byte. -/
structure CStr where
  text : List UInt8
  nulFree : 0 ∉ text

theorem cstr_nulFree (memory : List UInt8) : 0 ∉ cstr memory := by
  intro member
  simpa using List.mem_takeWhile_imp member

theorem cstr_eq_self {text : List UInt8} (nulFree : 0 ∉ text) : cstr text = text := by
  refine List.takeWhile_eq_self_iff.mpr fun byte member => ?_
  have notNul : byte ≠ 0 := fun isNul => nulFree (isNul ▸ member)
  simpa using notNul

theorem length_cstr_le (memory : List UInt8) : (cstr memory).length ≤ memory.length :=
  (List.takeWhile_sublist _).length_le

/-- Zeros behind a memory do not show. -/
theorem cstr_append_zeros {front zeros : List UInt8} (clear : ∀ byte ∈ zeros, byte = 0) :
    cstr (front ++ zeros) = cstr front := by
  have none : zeros.takeWhile (· ≠ 0) = [] := by
    cases zeros with
    | nil => rfl
    | cons byte rest => simp [clear byte List.mem_cons_self]
  unfold cstr
  rw [List.takeWhile_append, none, List.append_nil]
  split
  · rename_i whole
    exact ((List.takeWhile_prefix _).eq_of_length whole).symm
  · rfl

/-- The C string of a memory ends in its first part, if that has a NUL. -/
theorem cstr_append (front back : List UInt8) :
    cstr (front ++ back) = if 0 ∈ front then cstr front else front ++ cstr back := by
  by_cases ends : 0 ∈ front
  · rw [if_pos ends]
    unfold cstr
    rw [List.takeWhile_append, if_neg]
    intro whole
    have all : front.takeWhile (· ≠ 0) = front := (List.takeWhile_prefix _).eq_of_length whole
    exact cstr_nulFree front (show 0 ∈ front.takeWhile (· ≠ 0) from all.symm ▸ ends)
  · have whole : front.takeWhile (· ≠ 0) = front := cstr_eq_self ends
    rw [if_neg ends]
    unfold cstr
    rw [List.takeWhile_append, whole, if_pos rfl]

/-- A memory that is not empty starts with the empty string exactly if it starts with a NUL. -/
theorem cstr_eq_nil_iff {memory : List UInt8} (nonempty : memory ≠ []) :
    cstr memory = [] ↔ memory.head? = some 0 := by
  obtain ⟨byte, rest, rfl⟩ := List.exists_cons_of_ne_nil nonempty
  by_cases isNul : byte = 0 <;> simp [cstr, isNul]

/-- `strncat(dest, source, count)`: the C string of `dest` afterwards. -/
def strncat (dest source : List UInt8) (count : ℕ) : List UInt8 := dest ++ cstr (source.take count)

/-- `snprintf(buffer, size, ...)` of a formatted text: the C string it stores. It returns the
length of the whole text, stored or not. -/
def snprintf (size : ℕ) (formatted : List UInt8) : List UInt8 := formatted.take (size - 1)

theorem snprintf_of_lt {size : ℕ} {formatted : List UInt8} (fits : formatted.length < size) :
    snprintf size formatted = formatted :=
  List.take_of_length_le (by omega)

/-- A character array of fixed size. -/
@[ext]
structure CharArray (n : ℕ) where
  cells : List UInt8
  size : cells.length = n
  deriving DecidableEq

namespace CharArray

variable {n : ℕ}

/-- The zeroed array of a static initializer. -/
def zero (n : ℕ) : CharArray n := ⟨List.replicate n 0, List.length_replicate⟩

/-- The array read as a C string. -/
def text (array : CharArray n) : List UInt8 := cstr array.cells

theorem text_zero (n : ℕ) : (zero n).text = [] := by
  cases n with
  | zero => rfl
  | succ n => simp [text, zero, cstr, List.replicate_succ]

theorem length_text_le (array : CharArray n) : array.text.length ≤ n :=
  (length_cstr_le array.cells).trans_eq array.size

/-- The cells from `count` on are zero. -/
def ClearFrom (count : ℕ) (array : CharArray n) : Prop := ∀ byte ∈ array.cells.drop count, byte = 0

theorem clearFrom_zero (n count : ℕ) : (zero n).ClearFrom count :=
  fun _ member => List.eq_of_mem_replicate (List.mem_of_mem_drop member)

/-- The text of an array that is clear from `count` on has at most `count` bytes. -/
theorem take_text {count : ℕ} {array : CharArray n} (clear : array.ClearFrom count) :
    array.text.take count = array.text := by
  refine List.take_of_length_le ?_
  unfold text
  rw [← List.take_append_drop count array.cells, cstr_append_zeros clear]
  exact (length_cstr_le _).trans (List.length_take_le _ _)

end CharArray

/-- `strncpy(dest, source, count)`: `count` bytes are written, the source up to its end and zeros
after it; the rest of the array keeps its bytes. -/
def strncpy {n : ℕ} (dest : CharArray n) (source : List UInt8) (count : ℕ) (room : count ≤ n) :
    CharArray n where
  cells := source.take count ++ List.replicate (count - source.length) 0 ++ dest.cells.drop count
  size := by
    simp only [List.length_append, List.length_take, List.length_replicate, List.length_drop,
      dest.size]
    omega

/-- The bytes behind the ones written are kept. -/
theorem drop_strncpy {n count : ℕ} (dest : CharArray n) (source : List UInt8) (room : count ≤ n) :
    (strncpy dest source count room).cells.drop count = dest.cells.drop count := by
  have written : (source.take count ++ List.replicate (count - source.length) 0).length = count := by
    rw [List.length_append, List.length_take, List.length_replicate]
    omega
  unfold strncpy
  rw [List.drop_left' written]

theorem clearFrom_strncpy {n count : ℕ} {dest : CharArray n} {source : List UInt8} (room : count ≤ n)
    (clear : dest.ClearFrom count) : (strncpy dest source count room).ClearFrom count := by
  unfold CharArray.ClearFrom
  rw [drop_strncpy]
  exact clear

/-- **Copying a text again changes nothing.** -/
theorem strncpy_strncpy {n count : ℕ} (dest : CharArray n) (source : List UInt8) (room : count ≤ n) :
    strncpy (strncpy dest source count room) source count room = strncpy dest source count room := by
  apply CharArray.ext
  show source.take count ++ List.replicate (count - source.length) 0 ++
    (strncpy dest source count room).cells.drop count = _
  rw [drop_strncpy]
  rfl

/-- **A copied text is cut at `count` bytes**, where the array behind is clear. -/
theorem text_strncpy {n count : ℕ} {dest : CharArray n} {source : List UInt8} (room : count ≤ n)
    (clear : dest.ClearFrom count) (nulFree : 0 ∉ source) :
    (strncpy dest source count room).text = source.take count := by
  have zeros : ∀ byte ∈ List.replicate (count - source.length) 0 ++ dest.cells.drop count,
      byte = 0 := by
    intro byte member
    rcases List.mem_append.mp member with padding | behind
    · exact List.eq_of_mem_replicate padding
    · exact clear byte behind
  show cstr (source.take count ++ List.replicate (count - source.length) 0 ++ dest.cells.drop count) = _
  rw [List.append_assoc, cstr_append_zeros zeros]
  exact cstr_eq_self fun member => nulFree (List.mem_of_mem_take member)

namespace CharArray

variable {n : ℕ}

/-- **The array has this text, and zeros behind it.** -/
structure Filled (array : CharArray n) (text : List UInt8) : Prop where
  cells : array.cells = text ++ List.replicate (n - text.length) 0
  nulFree : 0 ∉ text

theorem filled_zero (n : ℕ) : (zero n).Filled [] := ⟨rfl, List.not_mem_nil⟩

section Filled

variable {array : CharArray n} {text : List UInt8}

theorem Filled.text_eq (filled : array.Filled text) : array.text = text := by
  have zeros : ∀ byte ∈ List.replicate (n - text.length) (0 : UInt8), byte = 0 :=
    fun _ member => List.eq_of_mem_replicate member
  show cstr array.cells = text
  rw [filled.cells, cstr_append_zeros zeros, cstr_eq_self filled.nulFree]

/-- A text that is shorter than the array ends inside it. -/
theorem Filled.getLast (filled : array.Filled text) (shorter : text.length < n) :
    array.cells.getLast? = some 0 := by
  obtain ⟨more, isMore⟩ : ∃ more, n - text.length = more + 1 := ⟨n - text.length - 1, by omega⟩
  rw [filled.cells, isMore, List.replicate_succ', ← List.append_assoc, List.getLast?_concat]

theorem Filled.drop (filled : array.Filled text) {count : ℕ} (behind : text.length ≤ count) :
    array.cells.drop count = List.replicate (n - count) 0 := by
  rw [filled.cells, List.drop_append, List.drop_eq_nil_of_le behind, List.nil_append,
    List.drop_replicate]
  congr 1
  omega

/-- **Copying a text erases the one before**, if that has at most `count` bytes. -/
theorem Filled.strncpy (filled : array.Filled text) {count : ℕ} (behind : text.length ≤ count)
    (room : count ≤ n) {source : List UInt8} (nulFree : 0 ∉ source) :
    (CText.strncpy array source count room).Filled (source.take count) where
  cells := by
    show source.take count ++ List.replicate (count - source.length) 0 ++ array.cells.drop count = _
    rw [filled.drop behind, List.append_assoc, List.replicate_append_replicate, List.length_take]
    congr 2
    omega
  nulFree := fun member => nulFree (List.mem_of_mem_take member)

end Filled

end CharArray

/-! ### Decimal numbers -/

/-- `'0' ≤ byte ≤ '9'`. -/
def isDigit (byte : UInt8) : Bool := 48 ≤ byte && byte ≤ 57

/-- The number a list of digits spells. -/
def readNat (digits : List UInt8) : ℕ := digits.foldl (fun sofar digit => 10 * sofar + (digit.toNat - 48)) 0

/-- The decimal digits of a natural number. -/
def printNat (number : ℕ) : List UInt8 := (Nat.toDigits 10 number).map Char.toUInt8

/-- `%d` of a signed number. -/
def printInt (number : ℤ) : List UInt8 :=
  if number < 0 then 45 :: printNat number.natAbs else printNat number.natAbs

theorem toNat_toUInt8 {char : Char} (digit : char.isDigit) : char.toUInt8.toNat = char.toNat := by
  have small : char.toNat ≤ 57 := by
    simp only [Char.isDigit, Bool.and_eq_true, decide_eq_true_eq] at digit
    exact digit.2
  show char.toNat % 256 = char.toNat
  omega

theorem isDigit_toUInt8 {char : Char} (digit : char.isDigit) : isDigit char.toUInt8 := by
  have same := toNat_toUInt8 digit
  simp only [Char.isDigit, Bool.and_eq_true, decide_eq_true_eq] at digit
  have low : 48 ≤ char.toNat := digit.1
  have high : char.toNat ≤ 57 := digit.2
  simp only [isDigit, Bool.and_eq_true, decide_eq_true_eq, UInt8.le_iff_toNat_le, same]
  exact ⟨low, high⟩

theorem isDigit_of_mem_printNat {number : ℕ} {byte : UInt8} (member : byte ∈ printNat number) :
    isDigit byte := by
  obtain ⟨char, isMember, rfl⟩ := List.mem_map.mp member
  exact isDigit_toUInt8 (Nat.isDigit_of_mem_toDigits (by decide) (by decide) isMember)

/-- **A printed number reads back.** -/
theorem readNat_printNat (number : ℕ) : readNat (printNat number) = number := by
  have step : ∀ (chars : List Char), (∀ char ∈ chars, char.isDigit) → ∀ start : ℕ,
      (chars.map Char.toUInt8).foldl (fun sofar digit => 10 * sofar + (digit.toNat - 48)) start =
        Nat.ofDigitChars 10 chars start := by
    intro chars
    induction chars with
    | nil => exact fun _ _ => rfl
    | cons char rest ih =>
      intro digits start
      rw [List.map_cons, List.foldl_cons, toNat_toUInt8 (digits char List.mem_cons_self),
        ih fun other member => digits other (List.mem_cons_of_mem _ member)]
      rfl
  unfold readNat printNat
  rw [step _ fun char member => Nat.isDigit_of_mem_toDigits (by decide) (by decide) member]
  exact Nat.ofDigitChars_ten_toDigits

theorem printNat_ne_nil (number : ℕ) : printNat number ≠ [] := by
  simp [printNat, Nat.toDigits_ne_nil]

theorem printNat_zero : printNat 0 = [48] := by decide

/-- Only the number zero is printed with a leading zero digit. -/
theorem head_printNat {number : ℕ} (positive : 0 < number) : (printNat number).head? ≠ some 48 := by
  have digit : ∀ value < 10, 0 < value → (printNat value).head? ≠ some 48 := by decide
  induction number using Nat.strong_induction_on with
  | _ number ih =>
    by_cases single : number < 10
    · exact digit number single positive
    · have split : printNat number = printNat (number / 10) ++ printNat (number % 10) := by
        unfold printNat
        rw [← List.map_append, Nat.toDigits_append_toDigits (by decide) (by omega) (by omega),
          Nat.div_add_mod]
      have front := ih (number / 10) (by omega) (by omega)
      obtain ⟨digit, rest, shape⟩ := List.exists_cons_of_ne_nil (printNat_ne_nil (number / 10))
      rw [split, shape]
      rw [shape] at front
      exact front

theorem length_printNat_pos (number : ℕ) : 0 < (printNat number).length :=
  List.length_pos_iff.mpr (printNat_ne_nil number)

theorem length_printNat_le {number digits : ℕ} (positive : 0 < digits) (small : number < 10 ^ digits) :
    (printNat number).length ≤ digits := by
  rw [printNat, List.length_map]
  exact (Nat.length_toDigits_le_iff (by decide) positive).mpr small

theorem length_printInt_pos (number : ℤ) : 0 < (printInt number).length := by
  unfold printInt
  split
  · exact Nat.succ_pos _
  · exact length_printNat_pos _

/-- A sign and the digits. -/
theorem length_printInt_le {number : ℤ} {digits : ℕ} (positive : 0 < digits)
    (small : number.natAbs < 10 ^ digits) : (printInt number).length ≤ digits + 1 := by
  have bound := length_printNat_le positive small
  unfold printInt
  split
  · simpa using bound
  · omega

theorem length_printInt32_le (number : Int32) : (printInt number.toInt).length ≤ 11 := by
  refine length_printInt_le (by decide) ?_
  have low := number.le_toInt
  have high := number.toInt_lt
  omega

theorem length_printInt64_le (number : Int64) : (printInt number.toInt).length ≤ 20 := by
  refine length_printInt_le (by decide) ?_
  have low := number.le_toInt
  have high := number.toInt_lt
  omega

/-- `isspace`. -/
def isSpace (byte : UInt8) : Bool := byte = 32 || (9 ≤ byte && byte ≤ 13)

/-- `strtol(text, NULL, 10)`: white space, a sign, digits; the value saturates at the bounds of a
64-bit `long`. -/
def strtol (text : List UInt8) : ℤ :=
  let unpadded := text.dropWhile isSpace
  let negative := unpadded.head? = some 45
  let unsigned := if unpadded.head? = some 45 ∨ unpadded.head? = some 43 then unpadded.tail else unpadded
  let magnitude : ℤ := readNat (unsigned.takeWhile isDigit)
  if negative then max (-magnitude) (-2 ^ 63) else min magnitude (2 ^ 63 - 1)

/-- `atoi`: the `int` conversion of `strtol`. -/
def atoi (text : List UInt8) : Int32 := Int32.ofInt (strtol text)

/-- `atoll`. -/
def atoll (text : List UInt8) : Int64 := Int64.ofInt (strtol text)

theorem takeWhile_isDigit_printNat (number : ℕ) : (printNat number).takeWhile isDigit = printNat number :=
  List.takeWhile_eq_self_iff.mpr fun _ member => isDigit_of_mem_printNat member

/-- A digit is no white space and no sign. -/
theorem notSpace_of_isDigit {byte : UInt8} (digit : isDigit byte) :
    isSpace byte = false ∧ byte ≠ 45 ∧ byte ≠ 43 := by
  simp only [isDigit, Bool.and_eq_true, decide_eq_true_eq, UInt8.le_iff_toNat_le] at digit
  have low : 48 ≤ byte.toNat := digit.1
  refine ⟨?_, ?_, ?_⟩
  · simp only [isSpace, Bool.or_eq_false_iff, Bool.and_eq_false_iff, decide_eq_false_iff_not,
      UInt8.le_iff_toNat_le]
    refine ⟨?_, .inr ?_⟩
    · rintro rfl
      exact absurd low (by decide)
    · show ¬ byte.toNat ≤ 13
      omega
  · rintro rfl
    exact absurd low (by decide)
  · rintro rfl
    exact absurd low (by decide)

/-- **A printed number of 64 bits reads back.** -/
theorem strtol_printInt {number : ℤ} (low : -2 ^ 63 ≤ number) (high : number < 2 ^ 63) :
    strtol (printInt number) = number := by
  unfold strtol printInt
  by_cases negative : number < 0
  · rw [if_pos negative]
    have unpadded : (45 :: printNat number.natAbs).dropWhile isSpace = 45 :: printNat number.natAbs := rfl
    rw [unpadded]
    simp only [List.head?_cons, true_or, if_true, List.tail_cons, takeWhile_isDigit_printNat,
      readNat_printNat]
    omega
  · rw [if_neg negative]
    obtain ⟨digit, rest, shape⟩ := List.exists_cons_of_ne_nil (printNat_ne_nil number.natAbs)
    have isFirst : isDigit digit := isDigit_of_mem_printNat (shape ▸ List.mem_cons_self)
    obtain ⟨notSpace, notMinus, notPlus⟩ := notSpace_of_isDigit isFirst
    have unpadded : (printNat number.natAbs).dropWhile isSpace = printNat number.natAbs := by
      rw [shape, List.dropWhile_cons_of_neg (by simp [notSpace])]
    have head : (printNat number.natAbs).head? = some digit := by rw [shape, List.head?_cons]
    simp only [unpadded, head, Option.some.injEq, notMinus, notPlus, or_self, if_false,
      takeWhile_isDigit_printNat, readNat_printNat]
    omega

theorem atoll_printInt {number : ℤ} (low : -2 ^ 63 ≤ number) (high : number < 2 ^ 63) :
    (atoll (printInt number)).toInt = number := by
  unfold atoll
  rw [strtol_printInt low high]
  exact Int64.toInt_ofInt_of_le low high

example : atoi (ascii " -12x") = -12 := by decide

example : atoi (ascii "99999999999999999999") = -1 := by decide

end CText
