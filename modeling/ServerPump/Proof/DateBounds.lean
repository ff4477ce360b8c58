/-
**The date range of a history request: before 1970 it is no bound.**

`loadHistory` sends a date that is set as its whole seconds. The server prints them back without a
loss, but `db_get_history_filtered` takes a bound that is not positive for one that was not given.

* `inBounds_iff`: the rows a request selects are those within its positive bounds.
* `exists_newest`: if a row is within them, the answer has a record that is at least as new.
* `answer_respects_iff`: the answers to a request respect its dates, for every content of the table,
  exactly if the seconds of each date that is set are positive. Over one table with no row before
  `dateFrom`, the answer does exactly if the seconds of `dateTo` are, or there is no row behind them.
-/

import ServerPump.Proof.HistoryRecords

namespace ServerPump

open CText

/-! ### The dates of a request -/

/-- A date that is set is valid: JavaScript has dates up to `8.64e15` milliseconds from 1970. -/
def ValidDate (date : Option JsDate) : Prop :=
  ∀ value ∈ date, ∃ time : ℤ, value = some time ∧ |time| ≤ 8640000000000000

/-- `Math.floor(date.getTime() / 1000)` of a date that is set. -/
def secondsOf (date : Option JsDate) : Option ℤ := date.join.map (· / 1000)

/-- The record is in the range the user chose. -/
def RespectsDates (dates : DateRange) (record : HistoryRecord) : Prop :=
  (∀ first ∈ secondsOf dates.dateFrom, first ≤ record.timestamp) ∧
    ∀ last ∈ secondsOf dates.dateTo, record.timestamp ≤ last

/-- Every record in the answer to the request is in its range. -/
def AnswerRespects (sqlite : Sqlite) (prepared : Bool) (db : Option (List SnapshotRow))
    (dates : DateRange) : Prop :=
  ∀ count data, readHistory (handlePumpHistory sqlite prepared db (historyArguments dates)) =
    .json (.records count data) → ∀ record ∈ data, RespectsDates dates record

/-- What the server finds in the query. -/
theorem queryParams_historyArguments (dates : DateRange) :
    queryParams (historyArguments dates) =
      { limitStr := some (ascii "5000")
        fromStr := dates.dateFrom.map timestampText
        toStr := dates.dateTo.map timestampText } := by
  obtain ⟨dateFrom, dateTo⟩ := dates
  cases dateFrom <;> cases dateTo <;> rfl

/-- **A date crosses the query without a loss**; the server takes no date for 0. -/
theorem toInt_bound {date : Option JsDate} (valid : ValidDate date) :
    (match date.map timestampText with
      | some text => atoll text
      | none => 0).toInt = (secondsOf date).getD 0 := by
  cases date with
  | none => rfl
  | some value =>
    obtain ⟨time, rfl, range⟩ := valid value rfl
    obtain ⟨low, high⟩ := abs_le.mp range
    exact atoll_printInt (by omega) (by omega)

/-- **The server takes a bound that is not positive for none.** -/
theorem inBounds_iff {dates : DateRange} (validFrom : ValidDate dates.dateFrom)
    (validTo : ValidDate dates.dateTo) (row : SnapshotRow) :
    let params := queryParams (historyArguments dates)
    InBounds (historyFrom params) (historyTo params) row ↔
      (∀ first ∈ secondsOf dates.dateFrom, 0 < first → first ≤ row.timestamp.toInt) ∧
        ∀ last ∈ secondsOf dates.dateTo, 0 < last → row.timestamp.toInt ≤ last := by
  intro params
  have fromEq : (historyFrom params).toInt = (secondsOf dates.dateFrom).getD 0 := by
    rw [← toInt_bound validFrom]
    show (historyFrom (queryParams (historyArguments dates))).toInt = _
    rw [queryParams_historyArguments]
    rfl
  have toEq : (historyTo params).toInt = (secondsOf dates.dateTo).getD 0 := by
    rw [← toInt_bound validTo]
    show (historyTo (queryParams (historyArguments dates))).toInt = _
    rw [queryParams_historyArguments]
    rfl
  unfold InBounds
  simp only [Int64.le_iff_toInt_le, fromEq, toEq, Int64.toInt_zero]
  refine and_congr ?_ ?_
  · cases secondsOf dates.dateFrom with
    | none => simp
    | some first => simp [or_iff_not_imp_left]
  · cases secondsOf dates.dateTo with
    | none => simp
    | some last => simp [or_iff_not_imp_left]

/-! ### The answers -/

section Answers

variable {dates : DateRange} (validFrom : ValidDate dates.dateFrom) (validTo : ValidDate dates.dateTo)

include validFrom validTo in
/-- Positive bounds are respected. -/
theorem answerRespects_of_positive (fromPositive : ∀ first ∈ secondsOf dates.dateFrom, 0 < first)
    (toPositive : ∀ last ∈ secondsOf dates.dateTo, 0 < last) (sqlite : Sqlite) (prepared : Bool)
    (db : Option (List SnapshotRow)) : AnswerRespects sqlite prepared db dates := by
  intro count data read record member
  obtain ⟨table, row, -, -, rfl, inBounds⟩ := exists_row_of_readHistory read member
  obtain ⟨notBefore, notBehind⟩ := (inBounds_iff validFrom validTo row).mp inBounds
  exact ⟨fun first isFirst => notBefore first isFirst (fromPositive first isFirst),
    fun last isLast => notBehind last isLast (toPositive last isLast)⟩

include validFrom validTo in
/-- **Over a table with no row before `dateFrom`, the answer respects the dates exactly if `dateTo` is
positive or no row in range is behind it.** -/
theorem answerRespects_iff_of_from (sqlite : Sqlite) (table : List SnapshotRow)
    (notBefore : ∀ first ∈ secondsOf dates.dateFrom,
      0 < first ∨ ∀ row ∈ table, first ≤ row.timestamp.toInt) :
    AnswerRespects sqlite true (some table) dates ↔
      ∀ last ∈ secondsOf dates.dateTo, 0 < last ∨
        ∀ row ∈ table, (∀ first ∈ secondsOf dates.dateFrom, first ≤ row.timestamp.toInt) →
          row.timestamp.toInt ≤ last := by
  constructor
  · intro respects last isLast
    refine or_iff_not_imp_left.mpr fun notPositive row inTable inRange => ?_
    have inBounds := (inBounds_iff validFrom validTo row).mpr
      ⟨fun first isFirst _ => inRange first isFirst, fun other isOther positive =>
        absurd (Option.some.inj (isLast.symm.trans isOther) ▸ positive) notPositive⟩
    obtain ⟨count, data, newest, read, -, answered, notOlder⟩ :=
      @exists_newest sqlite table (historyArguments dates) row inTable inBounds
    have newestInRange := (respects count data read _ answered).2 last isLast
    exact (Int64.le_iff_toInt_le.mp notOlder).trans newestInRange
  · intro toHarmless count data read record member
    obtain ⟨rows, row, same, inTable, rfl, inBounds⟩ := exists_row_of_readHistory read member
    obtain rfl := Option.some.inj same
    obtain ⟨fromHolds, toHolds⟩ := (inBounds_iff validFrom validTo row).mp inBounds
    have inRange : ∀ first ∈ secondsOf dates.dateFrom, first ≤ row.timestamp.toInt := by
      intro first isFirst
      rcases notBefore first isFirst with positive | every
      · exact fromHolds first isFirst positive
      · exact every row inTable
    refine ⟨inRange, fun last isLast => ?_⟩
    rcases toHarmless last isLast with positive | every
    · exact toHolds last isLast positive
    · exact every row inTable inRange

/-- A row with this time. -/
def SnapshotRow.ofTime (time : ℤ) : SnapshotRow := ⟨0, 0, 0, 0, 0, 0, Int64.ofInt time⟩

theorem toInt_ofTime {time : ℤ} (low : -2 ^ 63 ≤ time) (high : time < 2 ^ 63) :
    (SnapshotRow.ofTime time).timestamp.toInt = time :=
  Int64.toInt_ofInt_of_le low high

/-- The seconds of a valid date are far from the bounds of `time_t`. -/
theorem abs_secondsOf_le {date : Option JsDate} (valid : ValidDate date) {seconds : ℤ}
    (isSet : seconds ∈ secondsOf date) : |seconds| ≤ 8640000000000 := by
  obtain ⟨time, isTime, rfl⟩ := Option.map_eq_some_iff.mp isSet
  obtain ⟨value, isValue, range⟩ := valid _ (Option.join_eq_some_iff.mp isTime)
  cases isValue
  rw [abs_le] at range ⊢
  omega

include validFrom validTo in
/-- Over a row from before a first date that is not positive, the answer does not respect it. -/
theorem first_positive (respects : ∀ table, AnswerRespects .stable true (some table) dates) {first : ℤ}
    (isFirst : first ∈ secondsOf dates.dateFrom) : 0 < first := by
  by_contra notPositive
  have range := abs_le.mp (abs_secondsOf_le validFrom isFirst)
  let row := SnapshotRow.ofTime (first - 1)
  have time : row.timestamp.toInt = first - 1 := toInt_ofTime (by omega) (by omega)
  have inBounds := (inBounds_iff validFrom validTo row).mpr
    ⟨fun other isOther positive =>
      absurd (Option.some.inj (isFirst.symm.trans isOther) ▸ positive) notPositive,
      fun last _ positive => by omega⟩
  obtain ⟨count, data, newest, read, inTable, answered, -⟩ :=
    @exists_newest .stable [row] (historyArguments dates) row List.mem_cons_self inBounds
  obtain rfl := List.mem_singleton.mp inTable
  have notBefore : first ≤ row.timestamp.toInt :=
    (respects [row] count data read _ answered).1 first isFirst
  omega

include validFrom validTo in
/-- Over a row from behind a last date that is not positive, the answer does not respect it. -/
theorem last_positive (respects : ∀ table, AnswerRespects .stable true (some table) dates)
    (fromPositive : ∀ first ∈ secondsOf dates.dateFrom, 0 < first) {last : ℤ}
    (isLast : last ∈ secondsOf dates.dateTo) : 0 < last := by
  by_contra notPositive
  let time := (secondsOf dates.dateFrom).getD 1
  have positive : 0 < time ∧ time ≤ 8640000000000 := by
    show 0 < (secondsOf dates.dateFrom).getD 1 ∧ (secondsOf dates.dateFrom).getD 1 ≤ _
    cases isSet : secondsOf dates.dateFrom with
    | none => decide
    | some first =>
      exact ⟨fromPositive first isSet, (abs_le.mp (abs_secondsOf_le validFrom isSet)).2⟩
  have stamped : (SnapshotRow.ofTime time).timestamp.toInt = time :=
    toInt_ofTime (by omega) (by omega)
  have inRange : ∀ first ∈ secondsOf dates.dateFrom,
      first ≤ (SnapshotRow.ofTime time).timestamp.toInt := by
    intro first isFirst
    rw [stamped]
    show first ≤ (secondsOf dates.dateFrom).getD 1
    rw [show secondsOf dates.dateFrom = some first from isFirst]
    exact le_refl first
  have exactly := answerRespects_iff_of_from validFrom validTo .stable [.ofTime time]
    fun first isFirst => .inl (fromPositive first isFirst)
  rcases exactly.mp (respects _) last isLast with isPositive | every
  · exact notPositive isPositive
  · have := every _ List.mem_cons_self inRange
    omega

end Answers

/-- **The answers respect the dates, whatever the table holds, exactly if each date that is set is
positive in seconds.** Over a table with no row before `dateFrom` only `dateTo` matters, and only if a
row in range is behind it. -/
theorem answer_respects_iff (dates : DateRange) (validFrom : ValidDate dates.dateFrom)
    (validTo : ValidDate dates.dateTo) :
    ((∀ sqlite prepared db, AnswerRespects sqlite prepared db dates) ↔
      (∀ first ∈ secondsOf dates.dateFrom, 0 < first) ∧ ∀ last ∈ secondsOf dates.dateTo, 0 < last) ∧
    ∀ (sqlite : Sqlite) (table : List SnapshotRow),
      (∀ first ∈ secondsOf dates.dateFrom, 0 < first ∨ ∀ row ∈ table, first ≤ row.timestamp.toInt) →
        (AnswerRespects sqlite true (some table) dates ↔
          ∀ last ∈ secondsOf dates.dateTo, 0 < last ∨
            ∀ row ∈ table, (∀ first ∈ secondsOf dates.dateFrom, first ≤ row.timestamp.toInt) →
              row.timestamp.toInt ≤ last) := by
  refine ⟨⟨fun respects => ?_, fun positive => ?_⟩, answerRespects_iff_of_from validFrom validTo⟩
  · have fromPositive : ∀ first ∈ secondsOf dates.dateFrom, 0 < first := fun _ isFirst =>
      first_positive validFrom validTo (fun table => respects .stable true (some table)) isFirst
    exact ⟨fromPositive, fun _ isLast => last_positive validFrom validTo
      (fun table => respects .stable true (some table)) fromPositive isLast⟩
  · exact answerRespects_of_positive validFrom validTo positive.1 positive.2

/-- From the first of January 2024 to the last millisecond of the month. -/
def january : DateRange := ⟨some (some 1704067200000), some (some 1706745599999)⟩

theorem answer_respects_january :
    ValidDate january.dateFrom ∧ ValidDate january.dateTo ∧
      ∀ sqlite prepared db, AnswerRespects sqlite prepared db january := by
  have validFrom : ValidDate january.dateFrom := fun _ isSet =>
    ⟨1704067200000, (Option.some.inj isSet).symm, by decide⟩
  have validTo : ValidDate january.dateTo := fun _ isSet =>
    ⟨1706745599999, (Option.some.inj isSet).symm, by decide⟩
  refine ⟨validFrom, validTo, (answer_respects_iff january validFrom validTo).1.mpr ⟨?_, ?_⟩⟩
  · exact fun first isFirst => Option.some.inj isFirst ▸ (by decide : (0 : ℤ) < 1704067200000 / 1000)
  · exact fun last isLast => Option.some.inj isLast ▸ (by decide : (0 : ℤ) < 1706745599999 / 1000)

/-- Up to the start of the year 2: its first digit was typed. -/
def yearTwo : DateRange := ⟨none, some (some (-62104060800000))⟩

/-- A record of 1970 is answered. -/
theorem range_ignored :
    ValidDate yearTwo.dateFrom ∧ ValidDate yearTwo.dateTo ∧
      ¬ AnswerRespects .stable true (some [.ofTime 100]) yearTwo := by
  have validFrom : ValidDate yearTwo.dateFrom := nofun
  have validTo : ValidDate yearTwo.dateTo := fun _ isSet =>
    ⟨-62104060800000, (Option.some.inj isSet).symm, by decide⟩
  refine ⟨validFrom, validTo, fun respects => ?_⟩
  have exactly := (answerRespects_iff_of_from validFrom validTo .stable [.ofTime 100] nofun).mp respects
  rcases exactly (-62104060800) rfl with positive | every
  · exact absurd positive (by decide)
  · exact absurd (every _ List.mem_cons_self nofun) (by decide)

end ServerPump
