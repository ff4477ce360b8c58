/-
**Change logs.**

A register that is logged on change: a report that repeats the current value leaves no trace, any
other report becomes the new value and the newest entry of the log.

* `replay initial log` — the value a log leads to, its newest entry (the initial value if there is
  none).
* `Journal initial` — a log together with the proof that every entry differs from the one before
  it, the first one from the initial value. `Journal.report` is the only operation.
* `Journal.value_report`, `Journal.log_report`: a report becomes the value, and is logged exactly if
  it was not the value before.
* `changes initial values` — a list of values without repetitions, which is what a journal of the
  reports keeps; `changes_concat` is for one more value.
* `Records initial course log` — a log of values with their times keeps at least the changes;
  `changes_of_records` and `valueAt_of_records`: it then leads to the same changes, and at any time to the
  same value.
* `Alternates off on log` — the entries are `on`, `off`, `on`, and so on; `alternates_concat_iff`: such
  a log goes on alternating with an entry `off` or `on` exactly if the entry is a change.
-/

import Mathlib.Data.List.Chain
import Mathlib.Data.List.Destutter

namespace ChangeLog

variable {α : Type*}

/-- The value a log leads to from `initial`. -/
def replay (initial : α) (log : List α) : α := log.getLastD initial

@[simp]
theorem replay_concat (initial : α) (log : List α) (value : α) :
    replay initial (log ++ [value]) = value := by
  simp [replay]

/-- Every entry differs from the one before it, the first one from `initial`. -/
def Changing (initial : α) (log : List α) : Prop := (initial :: log).IsChain (· ≠ ·)

theorem changing_nil (initial : α) : Changing initial [] := List.isChain_singleton initial

theorem changing_concat {initial : α} {log : List α} {value : α} (changing : Changing initial log)
    (differs : replay initial log ≠ value) : Changing initial (log ++ [value]) := by
  unfold Changing
  rw [← List.cons_append, List.isChain_append]
  refine ⟨changing, List.isChain_singleton value, ?_⟩
  intro last isLast first isFirst
  obtain rfl : value = first := by simpa using isFirst
  have lastEq : replay initial log = last := by
    rw [List.getLast?_cons] at isLast
    rw [replay, List.getLastD_eq_getLast?]
    exact Option.some.inj isLast
  exact lastEq ▸ differs

/-! ### A list without its repetitions -/

section Changes

variable [DecidableEq α]

/-- The values that differ from the one before, the first one from `initial`. -/
def changes (initial : α) (values : List α) : List α := (values.destutter' (· ≠ ·) initial).tail

theorem changes_cons (initial value : α) (rest : List α) :
    changes initial (value :: rest) =
      if initial ≠ value then value :: changes value rest else changes initial rest := by
  have keeps : ∀ (first : α) (others : List α),
      others.destutter' (· ≠ ·) first = first :: changes first others := by
    intro first others
    induction others generalizing first with
    | nil => rfl
    | cons other others ih =>
      by_cases differs : first ≠ other
      · rw [changes, List.destutter'_cons_pos others differs, List.tail_cons]
      · rw [changes, List.destutter'_cons_neg others differs, ih, List.tail_cons]
  by_cases differs : initial ≠ value
  · rw [changes, List.destutter'_cons_pos rest differs, if_pos differs, List.tail_cons, keeps]
  · rw [changes, List.destutter'_cons_neg rest differs, if_neg differs, changes]

/-- The values lead where their changes lead. -/
@[simp]
theorem replay_changes (initial : α) (values : List α) :
    replay initial (changes initial values) = replay initial values := by
  induction values generalizing initial with
  | nil => rfl
  | cons value rest ih =>
    rw [changes_cons]
    split
    · rw [replay, replay, List.getLastD_cons, List.getLastD_cons]
      exact ih value
    · rename_i same
      rw [ih, ← not_not.mp same, replay, replay, List.getLastD_cons]

/-- **One more value** is kept exactly if it is a change. -/
theorem changes_concat (initial : α) (values : List α) (value : α) :
    changes initial (values ++ [value]) =
      changes initial values ++ if replay initial values ≠ value then [value] else [] := by
  induction values generalizing initial with
  | nil =>
    rw [List.nil_append, changes_cons]
    rfl
  | cons first rest ih =>
    rw [List.cons_append, changes_cons, changes_cons]
    have later : replay initial (first :: rest) = replay first rest := List.getLastD_cons ..
    by_cases differs : initial ≠ first
    · rw [if_pos differs, if_pos differs, ih, later, List.cons_append]
    · rw [if_neg differs, if_neg differs, ih, later, not_not.mp differs]

theorem changing_changes (initial : α) (values : List α) : Changing initial (changes initial values) := by
  induction values using List.reverseRecOn with
  | nil => exact changing_nil initial
  | append_singleton values value ih =>
    rw [changes_concat]
    split
    · exact changing_concat ih (by rwa [replay_changes])
    · rwa [List.append_nil]

end Changes

/-! ### Logs with times -/

section Times

variable {τ : Type*}

/-- The log keeps those values of a course that differ from the one before, and perhaps others. -/
inductive Records (initial : α) : List (α × τ) → List (α × τ) → Prop
  | nil : Records initial [] []
  | kept {course log : List (α × τ)} (entry : α × τ) (records : Records initial course log) :
      Records initial (course ++ [entry]) (log ++ [entry])
  | skipped {course log : List (α × τ)} (entry : α × τ) (records : Records initial course log)
      (repeats : replay initial (course.map Prod.fst) = entry.1) :
      Records initial (course ++ [entry]) log

/-- The value at a time: that of the last entry up to it. -/
def valueAt [LE τ] [DecidableLE τ] (initial : α) (entries : List (α × τ)) (time : τ) : α :=
  replay initial ((entries.filter fun entry => entry.2 ≤ time).map Prod.fst)

theorem sublist_of_records {initial : α} {course log : List (α × τ)} (records : Records initial course log) :
    log.Sublist course := by
  induction records with
  | nil => exact List.Sublist.refl []
  | kept entry _ ih => exact ih.append_right [entry]
  | skipped entry _ _ ih => exact ih.trans (List.sublist_append_left _ _)

theorem replay_of_records {initial : α} {course log : List (α × τ)} (records : Records initial course log) :
    replay initial (log.map Prod.fst) = replay initial (course.map Prod.fst) := by
  induction records with
  | nil => rfl
  | kept entry _ _ => simp
  | skipped entry _ repeats ih => rw [List.map_append, List.map_singleton, replay_concat, ih, repeats]

/-- **Without its repetitions, the log is the course without its own.** -/
theorem changes_of_records [DecidableEq α] {initial : α} {course log : List (α × τ)}
    (records : Records initial course log) :
    changes initial (log.map Prod.fst) = changes initial (course.map Prod.fst) := by
  induction records with
  | nil => rfl
  | kept entry records ih =>
    rw [List.map_append, List.map_append, List.map_singleton, changes_concat, changes_concat, ih,
      replay_of_records records]
  | skipped entry _ repeats ih =>
    rw [List.map_append, List.map_singleton, changes_concat, if_neg (not_not.mpr repeats), List.append_nil, ih]

section Order

variable [Preorder τ] [DecidableLE τ]

/-- No entry up to the end of a span of time lies within it. -/
theorem valueAt_congr (initial : α) {entries : List (α × τ)} {earlier later : τ} (order : earlier ≤ later)
    (still : ∀ entry ∈ entries, entry.2 ≤ later → entry.2 ≤ earlier) :
    valueAt initial entries earlier = valueAt initial entries later := by
  unfold valueAt
  congr 2
  refine List.filter_congr fun entry inside => ?_
  exact decide_eq_decide.mpr ⟨fun before => before.trans order, still entry inside⟩

/-- One more entry. -/
theorem valueAt_concat (initial : α) (entries : List (α × τ)) (entry : α × τ) (time : τ) :
    valueAt initial (entries ++ [entry]) time =
      if entry.2 ≤ time then entry.1 else valueAt initial entries time := by
  unfold valueAt
  rw [List.filter_append]
  split_ifs with before
  · simp [before]
  · simp [before]

/-- **The log has the value of the course at any time**, if the times go on. -/
theorem valueAt_of_records {initial : α} {course log : List (α × τ)} (records : Records initial course log)
    (ordered : (course.map Prod.snd).Pairwise (· ≤ ·)) (time : τ) :
    valueAt initial log time = valueAt initial course time := by
  induction records with
  | nil => rfl
  | kept entry _ ih =>
    rw [List.map_append, List.pairwise_append] at ordered
    rw [valueAt_concat, valueAt_concat, ih ordered.1]
  | @skipped course log entry records repeats ih =>
    rw [List.map_append, List.pairwise_append] at ordered
    have latest : ∀ other ∈ course, other.2 ≤ entry.2 := fun other inside =>
      ordered.2.2 other.2 (List.mem_map_of_mem inside) entry.2 (List.mem_singleton_self _)
    rw [ih ordered.1, valueAt_concat]
    split_ifs with before
    · -- everything came before the entry, which repeats the last value
      have all : course.filter (fun other => other.2 ≤ time) = course :=
        List.filter_eq_self.mpr fun other inside => decide_eq_true ((latest other inside).trans before)
      rw [valueAt, all, repeats]
    · rfl

/-- The value of the last entry. -/
theorem exists_last (initial : α) {entries : List (α × τ)} (time : τ)
    (ordered : (entries.map Prod.snd).Pairwise (· ≤ ·)) {entry : α × τ} (inside : entry ∈ entries)
    (before : entry.2 ≤ time) :
    ∃ last ∈ entries, last.2 ≤ time ∧ entry.2 ≤ last.2 ∧ valueAt initial entries time = last.1 := by
  have member : entry ∈ entries.filter fun other => other.2 ≤ time :=
    List.mem_filter.mpr ⟨inside, decide_eq_true before⟩
  rcases List.eq_nil_or_concat (entries.filter fun other => other.2 ≤ time) with empty | ⟨others, last, split⟩
  · rw [empty] at member
    cases member
  · rw [List.concat_eq_append] at split
    have kept : last ∈ entries.filter fun other => other.2 ≤ time := by simp [split]
    obtain ⟨lastIn, notLate⟩ := List.mem_filter.mp kept
    refine ⟨last, lastIn, of_decide_eq_true notLate, ?_, ?_⟩
    · have sorted : ((others ++ [last]).map Prod.snd).Pairwise (· ≤ ·) :=
        split ▸ ordered.sublist (List.filter_sublist.map Prod.snd)
      rw [split] at member
      rcases List.mem_append.mp member with earlier | own
      · rw [List.map_append, List.pairwise_append] at sorted
        exact sorted.2.2 _ (List.mem_map_of_mem earlier) _ (List.mem_singleton_self _)
      · rw [List.mem_singleton.mp own]
    · rw [valueAt, split, List.map_append, List.map_singleton, replay_concat]

end Order

end Times

/-! ### A register with two values -/

/-- The entries are `on`, `off`, `on`, and so on. -/
def Alternates (off on : α) (log : List α) : Prop :=
  ∀ index value, log[index]? = some value → value = if index % 2 = 0 then on else off

variable {off on : α}

theorem alternates_nil : Alternates off on [] := nofun

theorem alternates_concat {log : List α} {value : α} :
    Alternates off on (log ++ [value]) ↔
      Alternates off on log ∧ value = if log.length % 2 = 0 then on else off := by
  constructor
  · intro alternates
    refine ⟨fun index entry found => ?_, ?_⟩
    · have inside := (List.getElem?_eq_some_iff.mp found).1
      exact alternates index entry (by rw [List.getElem?_append_left inside, found])
    · exact alternates log.length value (by simp)
  · rintro ⟨alternates, isNext⟩ index entry found
    rcases Nat.lt_trichotomy index log.length with before | rfl | behind
    · rw [List.getElem?_append_left before] at found
      exact alternates index entry found
    · rw [List.getElem?_concat_length, Option.some.injEq] at found
      exact found ▸ isNext
    · have outside : (log ++ [value]).length ≤ index := by
        rw [List.length_append, List.length_singleton]
        exact behind
      rw [List.getElem?_eq_none outside] at found
      cases found

/-- The value an alternating log leads to. -/
theorem replay_of_alternates {log : List α} (alternates : Alternates off on log) :
    replay off log = if log.length % 2 = 0 then off else on := by
  rcases List.eq_nil_or_concat log with rfl | ⟨before, last, rfl⟩
  · rfl
  · rw [List.concat_eq_append] at alternates ⊢
    rw [replay_concat, (alternates_concat.mp alternates).2, List.length_append, List.length_singleton]
    split <;> split <;> first | rfl | omega

/-- **An alternating log goes on alternating exactly with a change.** -/
theorem alternates_concat_iff (apart : off ≠ on) {log : List α} (alternates : Alternates off on log)
    {value : α} (known : value = off ∨ value = on) :
    Alternates off on (log ++ [value]) ↔ replay off log ≠ value := by
  rw [alternates_concat, replay_of_alternates alternates]
  by_cases even : log.length % 2 = 0
  · rw [if_pos even, if_pos even]
    rcases known with rfl | rfl
    · simp [apart]
    · simp [alternates, apart]
  · rw [if_neg even, if_neg even]
    rcases known with rfl | rfl
    · simp [alternates, apart.symm]
    · simp [apart.symm]

/-! ### Journals -/

/-- A change log. -/
structure Journal (initial : α) where
  log : List α
  changing : Changing initial log

namespace Journal

variable {initial : α}

/-- The journal before any report. -/
def empty (initial : α) : Journal initial := ⟨[], changing_nil initial⟩

/-- The current value. -/
def value (journal : Journal initial) : α := replay initial journal.log

variable [DecidableEq α]

/-- A report: logged exactly when it changes the value. -/
def report (journal : Journal initial) (reported : α) : Journal initial :=
  if differs : journal.value ≠ reported then
    ⟨journal.log ++ [reported], changing_concat journal.changing differs⟩
  else journal

theorem log_report (journal : Journal initial) (reported : α) :
    (journal.report reported).log =
      if journal.value ≠ reported then journal.log ++ [reported] else journal.log := by
  unfold report
  split
  · rfl
  · rfl

@[simp]
theorem value_report (journal : Journal initial) (reported : α) :
    (journal.report reported).value = reported := by
  unfold value
  rw [log_report]
  split
  · exact replay_concat initial journal.log reported
  · rename_i same
    exact not_not.mp same

end Journal

end ChangeLog
