/-
**The dates behind the date inputs.**

A quick filter chooses two dates and writes them into the date inputs, through `toISOLocal`. What that
returns ends in `Z`, and an input of type `datetime-local` takes no text with a zone: it becomes empty.
The inputs never show the dates that are chosen, and when one of them is used, the other one's date is
dropped.

* `shownDate_eq`: what the inputs show.
* `chosen_filterByDateRange`: a filter by the inputs as they are chooses no dates.
* `roundTrip_never`: the round trip through the inputs loses the dates of every quick filter.
-/

import ServerPump.Proof.DateBounds
import ServerPump.Proof.HistoryPage

namespace ServerPump

/-- **What the page relies on**: an ISO text ends in `Z`, and a `datetime-local` input keeps no such
text. -/
structure DateInputs (browser : Browser) : Prop where
  iso : ∀ time, (browser.toISOString time).endsWith "Z"
  sanitised : ∀ text : String, text.endsWith "Z" → browser.datetimeLocal text = ""

/-- **The law**: the dates are the same ones, to the second. -/
structure SameDates (before after : HistoryPage) : Prop where
  dateFrom : secondsOf after.activeFilters.dateFrom = secondsOf before.activeFilters.dateFrom
  dateTo : secondsOf after.activeFilters.dateTo = secondsOf before.activeFilters.dateTo

/-- `filterByDateRange` with the inputs as they are. -/
def filterByInputs (browser : Browser) (page : HistoryPage) : HistoryPage :=
  filterByDateRange browser page.inputs.datetimeFrom page.inputs.datetimeTo page

section Inputs

variable {browser : Browser}

/-- **The inputs show nothing.** -/
theorem shownDate_eq (inputs : DateInputs browser) (date : Option JsDate) :
    shownDate browser date = "" := by
  unfold shownDate
  split
  · exact inputs.sanitised _ (inputs.iso _)
  · rfl

theorem inputs_applyQuickFilter (inputs : DateInputs browser) (range : QuickRange) (now : ℤ)
    (page : HistoryPage) :
    (applyQuickFilter browser range now page).inputs.datetimeFrom = "" ∧
      (applyQuickFilter browser range now page).inputs.datetimeTo = "" :=
  ⟨shownDate_eq inputs _, shownDate_eq inputs _⟩

/-- **A filter by the inputs behind a quick filter chooses no dates.** -/
theorem chosen_filterByInputs (inputs : DateInputs browser) (range : QuickRange) (now : ℤ)
    (page : HistoryPage) :
    (filterByInputs browser (applyQuickFilter browser range now page)).activeFilters.toDateRange =
      {} := by
  obtain ⟨noFrom, noTo⟩ := inputs_applyQuickFilter inputs range now page
  unfold filterByInputs
  rw [noFrom, noTo]
  rfl

/-- Any other quick range chooses both dates. -/
theorem exists_quickDates {range : QuickRange} (chosen : range ≠ .all) (now : ℤ) :
    ∃ first last, quickDates browser now range = ⟨some (some first), some (some last)⟩ := by
  cases range with
  | all => exact absurd rfl chosen
  | _ => exact ⟨_, _, rfl⟩

/-- **The round trip through the inputs loses the dates of every quick filter**, at every time and in
every time zone. -/
theorem roundTrip_never (inputs : DateInputs browser) {range : QuickRange} (chosen : range ≠ .all)
    (now : ℤ) (page : HistoryPage) :
    ¬ SameDates (applyQuickFilter browser range now page)
      (filterByInputs browser (applyQuickFilter browser range now page)) := by
  intro same
  obtain ⟨first, last, dates⟩ := @exists_quickDates browser range chosen now
  have before : (applyQuickFilter browser range now page).activeFilters.dateFrom = some (some first) :=
    congrArg DateRange.dateFrom dates
  have after := congrArg DateRange.dateFrom (chosen_filterByInputs inputs range now page)
  have seconds := same.dateFrom
  rw [before, after] at seconds
  cases seconds

end Inputs

/-- A browser in the zone UTC, on the first of January 2024. -/
def januaryBrowser : Browser :=
  { sampleBrowser with
    parseDate := fun text =>
      if text = "2024-01-01T00:00:00.000" then some 1704067200000
      else if text = "2024-01-01T23:59:59.000" then some 1704153599000
      else none
    toISOString := fun time =>
      if time = 1704153599000 then "2024-01-01T23:59:59.000Z" else "2024-01-01T00:00:00.000Z" }

theorem januaryBrowser_inputs : DateInputs januaryBrowser where
  iso := by
    intro time
    show (if time = 1704153599000 then _ else _ : String).endsWith "Z"
    split
    · decide +kernel
    · decide +kernel
  sanitised _ ends := if_pos ends

theorem roundTrip_never_today :
    DateInputs januaryBrowser ∧ QuickRange.today ≠ .all ∧
      ¬ SameDates (applyQuickFilter januaryBrowser .today 1704100000000 {})
        (filterByInputs januaryBrowser (applyQuickFilter januaryBrowser .today 1704100000000 {})) := by
  have chosen : QuickRange.today ≠ .all := by decide
  exact ⟨januaryBrowser_inputs, chosen, roundTrip_never januaryBrowser_inputs chosen 1704100000000 {}⟩

/-- The dates of today are gone. -/
theorem today_dropped :
    ¬ ∀ (range : QuickRange) (now : ℤ) (page : HistoryPage), range ≠ .all →
      SameDates (applyQuickFilter januaryBrowser range now page)
        (filterByInputs januaryBrowser (applyQuickFilter januaryBrowser range now page)) := by
  intro always
  have same := (always .today 1704100000000 {} (by decide)).dateFrom
  revert same
  decide +kernel

end ServerPump
