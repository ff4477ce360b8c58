/-
**The search box and its timer.**

What is typed into the search box becomes the active search term 300 ms later. `refreshHistory` clears
the box and the term at once, but not the timer: a text that was typed before it is searched for after
it, while the box is empty. The two selects have no timer.

* `FilterState`: the filters, their controls and the timer alone; `filterState_step` says that the page
  steps as they do.
* `pendingSearch_run_iff`: a text is pending exactly if it was typed, and since then nothing was typed
  and the timer has not fired.
* `matchesControls_iff`: the filters are what the controls show whenever no timer is pending, throughout
  a run, exactly if `refreshHistory` never comes between a text and its timer.
-/

import ServerPump.Library.Runs
import ServerPump.Proof.HistoryPage

namespace ServerPump

/-! ### The law -/

/-- With no timer pending, the filters are what the controls show. -/
def MatchesControls (page : HistoryPage) : Prop :=
  page.pendingSearch = none →
    page.activeFilters.searchTerm = page.inputs.searchInput ∧
      page.activeFilters.pump1Status = page.inputs.filterP1 ∧
      page.activeFilters.pump2Status = page.inputs.filterP2

/-- An event that leaves a pending text pending. -/
def HistoryEvent.Quiet : HistoryEvent → Prop
  | .handleSearchInput _ => False
  | .searchTimer => False
  | _ => True

/-- **No text is cleared while it is pending**: between the typing of a text and its timer there is no
`refreshHistory`, unless the box was emptied anyway. -/
def NoneCleared (events : List HistoryEvent) : Prop :=
  ∀ before value between after,
    events = (before ++ .handleSearchInput value :: between) ++ .searchTimer :: after →
      (∀ event ∈ between, event.Quiet) → value ≠ "" → .refreshHistory ∉ between

/-! ### The filters and their controls -/

/-- The filters, what their controls show, and the text of the timer. -/
structure FilterState where
  searchTerm : String := ""
  searchInput : String := ""
  pump1Status : Option ℤ := none
  filterP1 : Option ℤ := none
  pump2Status : Option ℤ := none
  filterP2 : Option ℤ := none
  pendingSearch : Option String := none

def HistoryPage.filterState (page : HistoryPage) : FilterState where
  searchTerm := page.activeFilters.searchTerm
  searchInput := page.inputs.searchInput
  pump1Status := page.activeFilters.pump1Status
  filterP1 := page.inputs.filterP1
  pump2Status := page.activeFilters.pump2Status
  filterP2 := page.inputs.filterP2
  pendingSearch := page.pendingSearch

/-- What an event does to them. -/
def FilterState.next (state : FilterState) : HistoryEvent → FilterState
  | .refreshHistory => { pendingSearch := state.pendingSearch }
  | .filterByStatus .pump1 status => { state with pump1Status := status, filterP1 := status }
  | .filterByStatus .pump2 status => { state with pump2Status := status, filterP2 := status }
  | .handleSearchInput value => { state with searchInput := value, pendingSearch := some value }
  | .searchTimer =>
    { state with searchTerm := state.pendingSearch.getD state.searchTerm, pendingSearch := none }
  | _ => state

section View

variable {browser : Browser}

theorem filterState_applyLocalFilters {page drawn : HistoryPage}
    (applied : applyLocalFilters browser page = some drawn) : drawn.filterState = page.filterState := by
  unfold applyLocalFilters at applied
  split at applied
  · cases applied
    rfl
  · cases applied
  · rename_i count data _
    obtain ⟨found, -, rfl⟩ := Option.map_eq_some_iff.mp applied
    unfold drawHistory HistoryPage.clampPage
    split <;> rfl

theorem filterState_redraw (page : HistoryPage) :
    (redraw browser page).filterState = page.filterState := by
  unfold redraw
  cases applied : applyLocalFilters browser page with
  | none => rfl
  | some drawn => exact filterState_applyLocalFilters applied

theorem filterState_receiveHistory (request : DateRange) (response : Response) (page : HistoryPage) :
    (receiveHistory browser request response page).filterState = page.filterState := by
  unfold receiveHistory
  split
  · rfl
  · rfl
  · rename_i count data
    dsimp only
    split
    · rfl
    · cases applied : applyLocalFilters browser (storeHistory request count data page) with
      | none => rfl
      | some drawn =>
        show drawn.filterState = _
        rw [filterState_applyLocalFilters applied]
        rfl

/-- **The filters and their controls step by themselves.** -/
theorem filterState_step (page : HistoryPage) (event : HistoryEvent) :
    (historyStep browser page event).filterState = page.filterState.next event := by
  cases event with
  | applyQuickFilter range now => rfl
  | filterByDateRange fromInput toInput => rfl
  | clearDateFilter => rfl
  | refreshHistory => rfl
  | showPage target =>
    dsimp only [historyStep, showPage]
    split <;> rfl
  | filterByStatus pump status =>
    refine (filterState_redraw _).trans ?_
    cases pump <;> rfl
  | handleSearchInput value => rfl
  | searchTimer =>
    dsimp only [historyStep, searchTimer]
    split
    next value pending =>
      rw [filterState_redraw]
      simp [HistoryPage.filterState, FilterState.next, takeSearch, pending]
    next pending => simp [HistoryPage.filterState, FilterState.next, pending]
  | sortTable column =>
    refine (filterState_redraw _).trans ?_
    unfold chooseSort
    split <;> rfl
  | goToPage target =>
    dsimp only [historyStep]
    split
    · unfold goToPage
      split <;> rfl
    · rfl
  | changeRowsPerPage value =>
    dsimp only [historyStep]
    split <;> rfl
  | respond index response =>
    dsimp only [historyStep]
    split
    · exact filterState_receiveHistory _ _ _
    · rfl

theorem filterState_run (events : List HistoryEvent) :
    (Runs.run (historyStep browser) {} events).filterState = Runs.run FilterState.next {} events :=
  Runs.run_map filterState_step {} events

end View

/-! ### The pending text -/

/-- Quiet events leave the timer alone; `refreshHistory` clears the box. -/
theorem run_quiet {between : List HistoryEvent} (quiet : ∀ event ∈ between, event.Quiet)
    (state : FilterState) :
    (Runs.run FilterState.next state between).pendingSearch = state.pendingSearch ∧
      (Runs.run FilterState.next state between).searchInput =
        if .refreshHistory ∈ between then "" else state.searchInput := by
  induction between generalizing state with
  | nil => exact ⟨rfl, rfl⟩
  | cons event rest ih =>
    obtain ⟨here, later⟩ := List.forall_mem_cons.mp quiet
    obtain ⟨pending, box⟩ := ih later (state.next event)
    rw [Runs.run_cons, pending, box]
    cases event with
    | handleSearchInput value => exact here.elim
    | searchTimer => exact here.elim
    | refreshHistory => exact ⟨rfl, by simp [FilterState.next]⟩
    | filterByStatus pump status => cases pump <;> exact ⟨rfl, by simp [FilterState.next]⟩
    | _ => exact ⟨rfl, by simp [FilterState.next]⟩

/-- **A text is pending exactly if it was typed and only quiet events came since.** -/
theorem pendingSearch_run_iff {events : List HistoryEvent} {value : String} :
    (Runs.run FilterState.next {} events).pendingSearch = some value ↔
      ∃ before between, events = before ++ .handleSearchInput value :: between ∧
        ∀ event ∈ between, event.Quiet := by
  constructor
  · intro pending
    induction events using List.reverseRecOn with
    | nil => cases pending
    | append_singleton earlier event ih =>
      rw [Runs.run_append] at pending
      -- a quiet event comes behind the others
      have behind : event.Quiet → (Runs.run FilterState.next {} earlier).pendingSearch = some value →
          ∃ before between, earlier ++ [event] = before ++ .handleSearchInput value :: between ∧
            ∀ other ∈ between, other.Quiet := by
        intro quiet already
        obtain ⟨before, between, rfl, others⟩ := ih already
        refine ⟨before, between ++ [event], by simp, fun other member => ?_⟩
        rcases List.mem_append.mp member with inner | last
        · exact others other inner
        · rw [List.mem_singleton.mp last]
          exact quiet
      cases event with
      | handleSearchInput typed =>
        obtain rfl : typed = value := Option.some.inj pending
        exact ⟨earlier, [], rfl, nofun⟩
      | searchTimer => cases pending
      | filterByStatus pump status => cases pump <;> exact behind trivial pending
      | _ => exact behind trivial pending
  · rintro ⟨before, between, rfl, quiet⟩
    rw [Runs.run_append, Runs.run_cons, (run_quiet quiet _).1]
    rfl

/-! ### Runs -/

/-- The law, of the filters and their controls alone. -/
def FilterState.Matches (state : FilterState) : Prop :=
  state.pendingSearch = none → state.searchTerm = state.searchInput ∧
    state.pump1Status = state.filterP1 ∧ state.pump2Status = state.filterP2

/-- The timer finds its text in the box. -/
def FilterState.TimerShown (state : FilterState) (event : HistoryEvent) : Prop :=
  event = .searchTimer → ∀ value ∈ state.pendingSearch, value = state.searchInput

/-- The selects are always what they show. -/
def FilterState.SelectsShown (state : FilterState) : Prop :=
  state.pump1Status = state.filterP1 ∧ state.pump2Status = state.filterP2

theorem selectsShown_next (state : FilterState) (event : HistoryEvent)
    (shown : state.SelectsShown) : (state.next event).SelectsShown := by
  obtain ⟨first, second⟩ := shown
  cases event with
  | refreshHistory => exact ⟨rfl, rfl⟩
  | filterByStatus pump status =>
    cases pump with
    | pump1 => exact ⟨rfl, second⟩
    | pump2 => exact ⟨first, rfl⟩
  | _ => exact ⟨first, second⟩

/-- **An event keeps the law exactly if it is no timer for a text that the box does not show.** -/
theorem matches_next_iff (state : FilterState) (event : HistoryEvent) (shown : state.SelectsShown)
    (holds : state.Matches) : (state.next event).Matches ↔ state.TimerShown event := by
  have selects := selectsShown_next state event shown
  cases event with
  | refreshHistory => exact iff_of_true (fun _ => ⟨rfl, rfl, rfl⟩) nofun
  | handleSearchInput value => exact iff_of_true nofun nofun
  | filterByStatus pump status =>
    refine iff_of_true (fun quiet => ⟨?_, selects⟩) nofun
    cases pump <;> exact (holds quiet).1
  | searchTimer =>
    have fired : (state.next .searchTimer).Matches ↔
        state.pendingSearch.getD state.searchTerm = state.searchInput :=
      ⟨fun law => (law rfl).1, fun found _ => ⟨found, selects⟩⟩
    rw [fired]
    unfold FilterState.TimerShown
    cases pending : state.pendingSearch with
    | none => exact iff_of_true (holds pending).1 nofun
    | some value => simp
  | _ => exact iff_of_true holds nofun

/-- **Each timer finds its text exactly if none was cleared.** -/
theorem guarded_timerShown_iff (events : List HistoryEvent) :
    Runs.Guarded FilterState.next FilterState.TimerShown {} events ↔ NoneCleared events := by
  rw [Runs.guarded_iff_split]
  constructor
  · intro shown before value between after split quiet nonempty cleared
    have pending : (Runs.run FilterState.next {}
        (before ++ .handleSearchInput value :: between)).pendingSearch = some value :=
      pendingSearch_run_iff.mpr ⟨before, between, rfl, quiet⟩
    have found := shown _ _ after split rfl value pending
    rw [Runs.run_append, Runs.run_cons, (run_quiet quiet _).2, if_pos cleared] at found
    exact nonempty found
  · rintro kept before event after split rfl value pending
    obtain ⟨earlier, between, rfl, quiet⟩ := pendingSearch_run_iff.mp pending
    rw [Runs.run_append, Runs.run_cons, (run_quiet quiet _).2]
    by_cases empty : value = ""
    · subst empty
      exact (ite_self _).symm
    · rw [if_neg (kept earlier value between after split quiet empty)]
      rfl

/-- **The filters are what the controls show, in every state of a run with no timer pending, exactly
if no text of the run is cleared while it is pending.** -/
theorem matchesControls_iff (browser : Browser) (events : List HistoryEvent) :
    Runs.Always (historyStep browser) MatchesControls {} events ↔ NoneCleared events := by
  have view : Runs.Always (historyStep browser) MatchesControls {} events ↔
      Runs.Always FilterState.next FilterState.Matches {} events := by
    rw [Runs.always_iff, Runs.always_iff]
    refine forall₂_congr fun before _ => ?_
    rw [← filterState_run before]
    exact Iff.rfl
  rw [view, ← guarded_timerShown_iff]
  exact Runs.always_iff_guarded selectsShown_next matches_next_iff ⟨rfl, rfl⟩
    (fun _ => ⟨rfl, rfl, rfl⟩) events

/-- A text is typed, the page is reset, and then the timer fires. -/
def resetWhileTyping : List HistoryEvent :=
  [.showPage .history, .handleSearchInput "error", .refreshHistory, .searchTimer]

/-- The records are searched for a text that the empty box does not show. -/
theorem cleared_text_searched :
    ¬ ∀ events, Runs.Always (historyStep sampleBrowser) MatchesControls {} events := by
  intro always
  have last := Runs.always_iff.mp (always resetWhileTyping) _ List.prefix_rfl
  have quiet : (Runs.run (historyStep sampleBrowser) {} resetWhileTyping).pendingSearch = none := by
    decide +kernel
  have term := (last quiet).1
  revert term
  decide +kernel

end ServerPump
