/-
**CSV texts: a reader over characters.**

The format of RFC 4180. A file is a sequence of lines, each ended by a line break, which the last one may
lack; a line is a sequence of cells, separated by commas. A cell is plain, without quotes, commas and
line breaks, or it stands in quotes, with the quotes in it doubled, and may have any characters.

* `Reader.step` is one character; `read` is the cells of a text, if it is well formed. The line break is
  a parameter: the CRLF of the format, or a line feed alone, which many programs write.
* `Written` are the texts a cell may have. `feed_written` and `feed_line` say what the reader does on a
  cell and on a line.
* `read_lines`: a text of lines is read back as the cells it was written from.
-/

import Mathlib.Data.List.Forall2

namespace Csv

inductive LineBreak
  | crlf
  | lf
  deriving DecidableEq

def LineBreak.text : LineBreak → List Char
  | .crlf => ['\r', '\n']
  | .lf => ['\n']

/-- Where the reader stands: at the start of a line or of another cell, inside a plain cell, inside
quotes, behind a quote inside quotes, or between the two characters of a CRLF. -/
inductive ReadState
  | lineStart
  | cellStart
  | plain
  | quoted
  | quoteSeen
  | returnSeen
  deriving DecidableEq

/-- The state, the characters of the cell and the cells of the line so far, and the lines before. -/
structure Reader where
  state : ReadState := .lineStart
  cell : List Char := []
  row : List (List Char) := []
  rows : List (List (List Char)) := []
  deriving DecidableEq

def Reader.push (state : ReadState) (char : Char) (reader : Reader) : Reader :=
  { reader with state := state, cell := reader.cell ++ [char] }

def Reader.endLine (state : ReadState) (reader : Reader) : Reader where
  state := state
  rows := reader.rows ++ [reader.row ++ [reader.cell]]

/-- A character behind a cell. -/
def Reader.endCell (lineBreak : LineBreak) (char : Char) (reader : Reader) : Option Reader :=
  if char = ',' then
    some { reader with state := .cellStart, cell := [], row := reader.row ++ [reader.cell] }
  else
    match lineBreak with
    | .crlf => if char = '\r' then some (reader.endLine .returnSeen) else none
    | .lf => if char = '\n' then some (reader.endLine .lineStart) else none

/-- A character of a plain cell. -/
def IsPlain (char : Char) : Prop := char ≠ '"' ∧ char ≠ ',' ∧ char ≠ '\r' ∧ char ≠ '\n'

instance : DecidablePred IsPlain := fun _ => inferInstanceAs (Decidable (_ ∧ _ ∧ _ ∧ _))

def Reader.readPlain (lineBreak : LineBreak) (char : Char) (reader : Reader) : Option Reader :=
  if IsPlain char then some (reader.push .plain char) else reader.endCell lineBreak char

/-- At the start of a cell, a quote opens it. -/
def Reader.readStart (lineBreak : LineBreak) (char : Char) (reader : Reader) : Option Reader :=
  if char = '"' then some { reader with state := .quoted } else reader.readPlain lineBreak char

/-- One character; `none` where the text is not well formed. -/
def Reader.step (lineBreak : LineBreak) (reader : Reader) (char : Char) : Option Reader :=
  match reader.state with
  | .lineStart => reader.readStart lineBreak char
  | .cellStart => reader.readStart lineBreak char
  | .plain => reader.readPlain lineBreak char
  | .quoted =>
    if char = '"' then some { reader with state := .quoteSeen } else some (reader.push .quoted char)
  | .quoteSeen =>
    if char = '"' then some (reader.push .quoted char) else reader.endCell lineBreak char
  | .returnSeen => if char = '\n' then some { reader with state := .lineStart } else none

/-- The end of the text; it may lack a last line break. -/
def Reader.finish (reader : Reader) : Option (List (List (List Char))) :=
  match reader.state with
  | .lineStart => some reader.rows
  | .cellStart | .plain | .quoteSeen => some (reader.rows ++ [reader.row ++ [reader.cell]])
  | .quoted | .returnSeen => none

def Reader.feed (lineBreak : LineBreak) (reader : Reader) (text : List Char) : Option Reader :=
  text.foldlM (Reader.step lineBreak) reader

/-- The lines of a text, with their cells. -/
def read (lineBreak : LineBreak) (text : List Char) : Option (List (List (List Char))) :=
  (Reader.feed lineBreak {} text).bind Reader.finish

example : read .crlf "a,\"b,\"\"c\"\r\n,d".toList =
    some [["a".toList, "b,\"c".toList], ["".toList, "d".toList]] := by
  decide +kernel

/-! ### Written cells and lines -/

/-- The characters of a cell, with its quotes doubled. -/
def doubled (cell : List Char) : List Char :=
  cell.flatMap fun char => if char = '"' then ['"', '"'] else [char]

/-- A cell in quotes. -/
def quoted (cell : List Char) : List Char := '"' :: doubled cell ++ ['"']

/-- The texts of a cell. -/
inductive Written : List Char → List Char → Prop
  | plain {cell : List Char} (each : ∀ char ∈ cell, IsPlain char) : Written cell cell
  | quoted (cell : List Char) : Written (quoted cell) cell

/-- The text of a line. -/
def line (lineBreak : LineBreak) (texts : List (List Char)) : List Char :=
  [','].intercalate texts ++ lineBreak.text

/-- A cell without quotes is only put between two of them. -/
theorem quoted_of_notMem {cell : List Char} (noQuote : '"' ∉ cell) :
    quoted cell = '"' :: cell ++ ['"'] := by
  have same : doubled cell = cell := by
    unfold doubled
    induction cell with
    | nil => rfl
    | cons char rest ih =>
      have here : ¬ char = '"' := (List.ne_of_not_mem_cons noQuote).symm
      rw [List.flatMap_cons, if_neg here, ih (List.not_mem_of_not_mem_cons noQuote),
        List.singleton_append]
  rw [quoted, same]

/-! ### What the reader does -/

section Feed

variable {lineBreak : LineBreak}

theorem feed_append (reader : Reader) (first second : List Char) :
    reader.feed lineBreak (first ++ second) =
      (reader.feed lineBreak first).bind fun next => next.feed lineBreak second :=
  List.foldlM_append

theorem feed_cons (reader : Reader) (char : Char) (rest : List Char) :
    reader.feed lineBreak (char :: rest) =
      (reader.step lineBreak char).bind fun next => next.feed lineBreak rest :=
  List.foldlM_cons

/-- A cell starts here. -/
def ReadState.Starts (state : ReadState) : Prop := state = .lineStart ∨ state = .cellStart

/-- A cell may end here. -/
def ReadState.Ends (state : ReadState) : Prop := state.Starts ∨ state = .plain ∨ state = .quoteSeen

variable {row : List (List Char)} {rows : List (List (List Char))}

/-- **A plain cell is read as it is.** -/
theorem feed_plain {cell : List Char} (each : ∀ char ∈ cell, IsPlain char) {state : ReadState}
    (reads : state.Starts ∨ state = .plain) (sofar : List Char) :
    ∃ ended, (ended.Starts ∨ ended = .plain) ∧
      Reader.feed lineBreak ⟨state, sofar, row, rows⟩ cell = some ⟨ended, sofar ++ cell, row, rows⟩ := by
  induction cell generalizing state sofar with
  | nil => exact ⟨state, reads, by rw [List.append_nil]; rfl⟩
  | cons char rest ih =>
    obtain ⟨isPlain, later⟩ := List.forall_mem_cons.mp each
    have stepped : Reader.step lineBreak ⟨state, sofar, row, rows⟩ char =
        some ⟨.plain, sofar ++ [char], row, rows⟩ := by
      rcases reads with (rfl | rfl) | rfl
      · show (if char = '"' then _ else if IsPlain char then _ else _) = _
        rw [if_neg isPlain.1, if_pos isPlain]
        rfl
      · show (if char = '"' then _ else if IsPlain char then _ else _) = _
        rw [if_neg isPlain.1, if_pos isPlain]
        rfl
      · show (if IsPlain char then _ else _) = _
        rw [if_pos isPlain]
        rfl
    obtain ⟨ended, ends, read⟩ := ih later (.inr rfl) (sofar ++ [char])
    refine ⟨ended, ends, ?_⟩
    rw [feed_cons, stepped, Option.bind_some, read, List.append_assoc, List.singleton_append]

/-- Inside quotes a doubled text is read as it was. -/
theorem feed_doubled (cell sofar : List Char) :
    Reader.feed lineBreak ⟨.quoted, sofar, row, rows⟩ (doubled cell) =
      some ⟨.quoted, sofar ++ cell, row, rows⟩ := by
  induction cell generalizing sofar with
  | nil =>
    rw [List.append_nil]
    rfl
  | cons char rest ih =>
    have first : Reader.feed lineBreak ⟨.quoted, sofar, row, rows⟩
        (if char = '"' then ['"', '"'] else [char]) =
          some ⟨.quoted, sofar ++ [char], row, rows⟩ := by
      by_cases isQuote : char = '"'
      · rw [if_pos isQuote, isQuote]
        rfl
      · rw [if_neg isQuote, feed_cons]
        show (if char = '"' then _ else _ : Option Reader).bind _ = _
        rw [if_neg isQuote]
        rfl
    rw [doubled, List.flatMap_cons, feed_append, first, Option.bind_some]
    rw [← doubled, ih, List.append_assoc, List.singleton_append]

/-- **A written cell is read back**, up to where it may end. -/
theorem feed_written {text cell : List Char} (written : Written text cell) {state : ReadState}
    (starts : state.Starts) :
    ∃ ended : ReadState, ended.Ends ∧
      Reader.feed lineBreak ⟨state, [], row, rows⟩ text = some ⟨ended, cell, row, rows⟩ := by
  cases written with
  | plain each =>
    obtain ⟨ended, ends, read⟩ := @feed_plain lineBreak row rows _ each state (.inl starts) []
    exact ⟨ended, ends.imp id .inl, read⟩
  | quoted =>
    have opened : Reader.step lineBreak ⟨state, [], row, rows⟩ '"' = some ⟨.quoted, [], row, rows⟩ := by
      rcases starts with rfl | rfl <;> rfl
    refine ⟨.quoteSeen, .inr (.inr rfl), ?_⟩
    rw [quoted, List.cons_append, feed_cons, opened, Option.bind_some, feed_append, feed_doubled]
    rfl

/-- Behind a cell, everything but a quote ends it. -/
theorem step_ends {state : ReadState} (ends : state.Ends) {char : Char} (notPlain : ¬ IsPlain char)
    (noQuote : char ≠ '"') (cell : List Char) :
    Reader.step lineBreak ⟨state, cell, row, rows⟩ char =
      Reader.endCell lineBreak char ⟨state, cell, row, rows⟩ := by
  rcases ends with (rfl | rfl) | rfl | rfl
  · show (if char = '"' then _ else if IsPlain char then _ else _) = _
    rw [if_neg noQuote, if_neg notPlain]
  · show (if char = '"' then _ else if IsPlain char then _ else _) = _
    rw [if_neg noQuote, if_neg notPlain]
  · show (if IsPlain char then _ else _) = _
    rw [if_neg notPlain]
  · show (if char = '"' then _ else _) = _
    rw [if_neg noQuote]

theorem step_comma {state : ReadState} (ends : state.Ends) (cell : List Char) :
    Reader.step lineBreak ⟨state, cell, row, rows⟩ ',' =
      some ⟨.cellStart, [], row ++ [cell], rows⟩ := by
  rw [step_ends ends (by decide) (by decide)]
  rfl

theorem feed_lineBreak {state : ReadState} (ends : state.Ends) (cell : List Char) :
    Reader.feed lineBreak ⟨state, cell, row, rows⟩ lineBreak.text =
      some ⟨.lineStart, [], [], rows ++ [row ++ [cell]]⟩ := by
  cases lineBreak with
  | crlf =>
    rw [LineBreak.text, feed_cons, step_ends ends (by decide) (by decide)]
    rfl
  | lf =>
    rw [LineBreak.text, feed_cons, step_ends ends (by decide) (by decide)]
    rfl

/-- **A line is read back**, and the reader stands at the start of the next one. -/
theorem feed_line {texts cells : List (List Char)} (written : List.Forall₂ Written texts cells)
    (nonempty : texts ≠ []) {state : ReadState} (starts : state.Starts) :
    Reader.feed lineBreak ⟨state, [], row, rows⟩ (line lineBreak texts) =
      some ⟨.lineStart, [], [], rows ++ [row ++ cells]⟩ := by
  induction written generalizing state row with
  | nil => exact absurd rfl nonempty
  | @cons text cell texts cells here later ih =>
    obtain ⟨ended, ends, read⟩ := @feed_written lineBreak row rows text cell here state starts
    cases later with
    | nil =>
      have only : line lineBreak [text] = text ++ lineBreak.text := by
        rw [line, List.intercalate_singleton]
      rw [only, feed_append, read, Option.bind_some, feed_lineBreak ends]
    | @cons next other texts cells second others =>
      have split : line lineBreak (text :: next :: texts) =
          text ++ ',' :: line lineBreak (next :: texts) := by
        rw [line, List.intercalate_cons_cons, line]
        simp
      rw [split, feed_append, read, Option.bind_some, feed_cons, step_comma ends, Option.bind_some,
        ih (List.cons_ne_nil _ _) (.inr rfl), List.append_assoc, List.singleton_append]

/-- The texts of a line, and the cells they are written from. -/
def WrittenLine (texts cells : List (List Char)) : Prop :=
  texts ≠ [] ∧ List.Forall₂ Written texts cells

/-- **A text of lines is read back as the cells it was written from.** -/
theorem read_lines {lines cells : List (List (List Char))}
    (written : List.Forall₂ WrittenLine lines cells) :
    read lineBreak (lines.flatMap (line lineBreak)) = some cells := by
  have fed : ∀ before, Reader.feed lineBreak ⟨.lineStart, [], [], before⟩
      (lines.flatMap (line lineBreak)) = some ⟨.lineStart, [], [], before ++ cells⟩ := by
    induction written with
    | nil =>
      intro before
      rw [List.append_nil]
      rfl
    | cons here later ih =>
      intro before
      rw [List.flatMap_cons, feed_append, feed_line here.2 here.1 (.inl rfl), Option.bind_some, ih,
        List.append_assoc]
      rfl
  rw [read, fed []]
  rfl

end Feed

end Csv
