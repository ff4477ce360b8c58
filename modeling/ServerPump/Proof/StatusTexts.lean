/-
**One text for a state, from three encoders.**

The publisher, the status handler and the history each print the state of the pumps with a format of
their own, into buffers of 256 bytes, of 1024 bytes, and of more than 200 bytes. The three formats are the
same one, and a text has at most 168 bytes with its comma.

* `publisherText_eq`, `pumpStatusText_eq`: the texts are the one of the snapshot.
* `parsed_rowText`: a text parses to the seven values it was printed from.
* `row_injective`: different states have different snapshots.
* `one_text`: all of it, for every state.
-/

import ServerPump.Proof.HistoryRecords
import ServerPump.Proof.HistoryRing

namespace ServerPump

open CText JsonText

/-- **The law**: the three texts of a state are one, none is cut off, and it says which state it is. -/
structure OneText (status : PumpStatus) : Prop where
  stored : ∀ tables, (dbInsertSnapshot true status.pump1 status.pump1Status status.pump2
    status.pump2Status status.busy status.alarm status.timestamp tables).pumpSnapshots =
      tables.pumpSnapshots ++ [status.row]
  published : publisherPayload status = rowText status.row
  answered : handlePumpStatus status = rowText status.row
  written : ∀ (remaining : ℤ) (count : ℕ), remaining > 200 →
    snprintf remaining.toNat (entryText count status.row) =
      (if count > 0 then ascii "," else ascii "") ++ rowText status.row
  whole : publisherPayload status = publisherText status ∧ handlePumpStatus status = pumpStatusText status
  parsed : ∀ strict, (parse strict (rowText status.row)).bind HistoryRecord.ofJson =
    some status.row.record
  distinct : ∀ other : PumpStatus, rowText other.row = rowText status.row → other = status

/-! ### The texts -/

theorem publisherText_eq (status : PumpStatus) : publisherText status = rowText status.row := rfl

theorem pumpStatusText_eq (status : PumpStatus) : pumpStatusText status = rowText status.row := rfl

/-- **A text parses to the values of its row.** -/
theorem parsed_rowText (strict : Bool) (row : SnapshotRow) :
    (parse strict (rowText row)).bind HistoryRecord.ofJson = some row.record := by
  have enough : 9 ≤ (rowText row).length + 1 := by
    have long := length_rowText_ge row
    omega
  rw [parse_of_denotes (denotes_rowText strict row) enough, Option.bind_some, ofJson_rowJson]

/-! ### The values -/

theorem record_injective : Function.Injective SnapshotRow.record := by
  intro first second same
  rcases first with ⟨pump1, pump1Status, pump2, pump2Status, busy, alarm, timestamp⟩
  rcases second with ⟨_, _, _, _, _, _, _⟩
  simp only [SnapshotRow.record, HistoryRecord.mk.injEq, Int32.toInt_inj, Int64.toInt_inj] at same
  obtain ⟨rfl, rfl, rfl, rfl, rfl, rfl, rfl⟩ := same
  rfl

/-- **Different states have different snapshots.** -/
theorem row_injective : Function.Injective PumpStatus.row := by
  intro first second same
  rcases first with ⟨⟨pump1, pump2, pump1Status, pump2Status, busy, alarm⟩, timestamp⟩
  rcases second with ⟨⟨_, _, _, _, _, _⟩, _⟩
  simp only [PumpStatus.row, snapshotOf, SnapshotRow.mk.injEq] at same
  obtain ⟨rfl, rfl, rfl, rfl, rfl, rfl, rfl⟩ := same
  rfl

/-- Different rows have different texts. -/
theorem rowText_injective : Function.Injective rowText := by
  intro first second same
  have records := parsed_rowText true first
  rw [same, parsed_rowText true second] at records
  exact (record_injective (Option.some.inj records)).symm

/-! ### One text -/

/-- No buffer of 168 bytes or more cuts a text. -/
theorem snprintf_rowText {size : ℕ} (room : 168 ≤ size) (row : SnapshotRow) :
    snprintf size (rowText row) = rowText row := by
  have short := length_rowText_le row
  exact snprintf_of_lt (by omega)

theorem publisherPayload_eq (status : PumpStatus) : publisherPayload status = publisherText status := by
  rw [publisherPayload, publisherText_eq]
  exact snprintf_rowText (by decide) status.row

theorem handlePumpStatus_eq (status : PumpStatus) : handlePumpStatus status = pumpStatusText status := by
  rw [handlePumpStatus, pumpStatusText_eq]
  exact snprintf_rowText (by decide) status.row

/-- **Every state has one text.** -/
theorem one_text (status : PumpStatus) : OneText status where
  stored _ := rfl
  published := publisherPayload_eq status
  answered := handlePumpStatus_eq status
  written remaining count margin := by
    have short := length_entryText_le count status.row
    have fits : (entryText count status.row).length < remaining.toNat := by omega
    rw [snprintf_of_lt fits]
    rfl
  whole := ⟨publisherPayload_eq status, handlePumpStatus_eq status⟩
  parsed strict := parsed_rowText strict status.row
  distinct _ same := row_injective (rowText_injective same)

/-- The longest text. -/
example : (handlePumpStatus ⟨⟨-2147483648, -2147483648, -2147483648, -2147483648, -2147483648,
    -2147483648⟩, -9223372036854775808⟩).length = 167 := by
  decide +kernel

end ServerPump
