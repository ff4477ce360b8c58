/-
**The panel shows a state the pumps were in.**

An answer to a poll is printed under the lock, at one moment behind the one the poll was sent at. It may
arrive late, behind the answer to a later poll, so that the panel may go back; but it never mixes two
states, and it never shows a state from before its poll.

* `seen_next`: one step of the server, for one poll.
* `shows_next`: the invariant, with the run so far.
* `panel_shows_past`: in every run, the panel is that of one live state, at a moment when its poll was
  open, and it has a text for each of its values.
-/

import ServerPump.Proof.Domain
import ServerPump.Proof.Gets
import ServerPump.Proof.StatusTexts
import ServerPump.Web.StatusPage

namespace ServerPump

open Runs

/-! ### The law -/

/-- The live state at a moment. -/
def StatusPage.live (page : StatusPage) : PumpStatus := page.daemon.world.machine.side.current

section Law

variable (jsonC : JsonC) (sqlite : Sqlite)

/-- The page behind a run. -/
def pageAfter (labels : List StatusLabel) : StatusPage := run (StatusPage.next jsonC sqlite) {} labels

/-- The state was live in the run, when the request had been sent. -/
def SeenSince (labels : List StatusLabel) (id : ℕ) (status : PumpStatus) : Prop :=
  ∃ before, before <+: labels ∧ id < (pageAfter jsonC sqlite before).daemon.opened ∧
    status = (pageAfter jsonC sqlite before).live

/-- The panel has a text and an icon for each of its values. -/
structure StatusPanel.Readable (panel : StatusPanel) : Prop where
  busy : panel.busyText ∈ ["Idle", "Starting P1", "Starting P2"] ∧
    panel.busyIcon ∈ ["check_circle", "sync"]
  pumps : ∀ card ∈ [panel.pump1, panel.pump2],
    card.statusText ∈ ["Unknown", "Running", "Stopped", "Error"]

/-- **The law**: the panel is drawn from one state, which was live when the request had been sent. -/
structure ShowsPast (labels : List StatusLabel) : Prop where
  past : ∀ (id : ℕ) (panel : StatusPanel), (pageAfter jsonC sqlite labels).panel = some (id, panel) →
    (∃ status now, SeenSince jsonC sqlite labels id status ∧ panel = statusPanel now status.row.record) ∧
      panel.Readable

end Law

/-! ### The texts -/

/-- A text that is there is one of the array. -/
theorem printed_mem {texts : List String} {value : ℤ}
    (found : (if 0 ≤ value then texts[value.toNat]? else none).isSome) :
    printed (if 0 ≤ value then texts[value.toNat]? else none) ∈ texts := by
  obtain ⟨text, same⟩ := Option.isSome_iff_exists.mp found
  rw [same]
  split_ifs at same
  exact List.mem_of_getElem? same

theorem busyIcon_mem {busy : Int32} (range : 0 ≤ busy ∧ busy ≤ 2) :
    printed (busyIcon busy.toInt) ∈ ["check_circle", "sync"] := by
  have low : 0 ≤ busy.toInt := Int32.le_iff_toInt_le.mp range.1
  have high : busy.toInt ≤ 2 := Int32.le_iff_toInt_le.mp range.2
  have within : busy.toInt < ["check_circle", "sync", "sync"].length := by
    show busy.toInt < 3
    omega
  have inside : printed (busyIcon busy.toInt) ∈ ["check_circle", "sync", "sync"] :=
    printed_mem (isSome_lookup low within)
  simpa using inside

/-- **A state in range has its texts.** -/
theorem readable_statusPanel {status : PumpStatus} (domain : InDomain status.toPumpFields) (now : ℤ) :
    (statusPanel now status.row.record).Readable where
  busy := by
    have found := busyText_isSome domain.busy
    have shown : (busyText status.busy.toInt).getD "--" = printed (busyText status.busy.toInt) := by
      obtain ⟨text, same⟩ := Option.isSome_iff_exists.mp found
      rw [same]
      rfl
    refine ⟨?_, busyIcon_mem domain.busy⟩
    show (busyText status.busy.toInt).getD "--" ∈ _
    rw [shown]
    exact printed_mem found
  pumps := List.forall_mem_cons.mpr ⟨printed_mem (statusText_isSome domain.pump1Status),
    List.forall_mem_cons.mpr ⟨printed_mem (statusText_isSome domain.pump2Status), nofun⟩⟩

/-- What the page draws from an answer is the panel of the state it was printed from. -/
theorem drawStatus_handlePumpStatus (now : ℤ) (status : PumpStatus) :
    drawStatus now (handlePumpStatus status) = some (statusPanel now status.row.record) := by
  rw [drawStatus, handlePumpStatus_eq, pumpStatusText_eq, parsed_rowText]
  rfl

/-! ### The ranges -/

section Domain

variable {jsonC : JsonC}

theorem domainSafe_turn {machine : Machine} (safe : DomainSafe machine.reading) (turn : Turn) :
    DomainSafe (machine.turn jsonC turn).reading := by
  obtain ⟨labels, ran⟩ := covers_run jsonC machine [turn]
  have moved : (machine.turn jsonC turn).reading = run (ReadingMachine.next jsonC) machine.reading labels :=
    ran.symm
  rw [moved]
  exact invariant_run (domainSafe_next jsonC) safe labels

/-- What happens in the world is a turn of the machine, or leaves it alone. -/
theorem machine_world (world : World) (label : WorldLabel) :
    (world.next jsonC label).machine = world.machine ∨
      ∃ turn, (world.next jsonC label).machine = world.machine.turn jsonC turn := by
  cases label with
  | publish topic payload => exact .inl rfl
  | controlPost payload published =>
    unfold World.next
    dsimp only
    split_ifs <;> exact .inl rfl
  | feedbackPost payload => exact .inr ⟨⟨.post payload, true⟩, rfl⟩
  | deliver topic =>
    unfold World.next World.deliver
    dsimp only
    split
    · rename_i payload waiting
      split_ifs
      · exact .inr ⟨⟨.message topic.name payload, true⟩, rfl⟩
      · exact .inl rfl
    · exact .inl rfl
  | acknowledge topic => exact .inl rfl
  | resend topic => exact .inl rfl
  | step thread now inserted => exact .inr ⟨⟨.step thread now, inserted⟩, rfl⟩
  | publishStatus => exact .inl rfl

theorem domainSafe_world {world : World} (safe : DomainSafe world.machine.reading) (label : WorldLabel) :
    DomainSafe (world.next jsonC label).machine.reading := by
  rcases machine_world world label with same | ⟨turn, moved⟩
  · rwa [same]
  · rw [moved]
    exact domainSafe_turn safe turn

theorem domainSafe_worlds {world : World} (safe : DomainSafe world.machine.reading)
    (labels : List WorldLabel) : DomainSafe (run (World.next jsonC) world labels).machine.reading := by
  have kept : ∀ world label, DomainSafe (World.machine world).reading →
      DomainSafe (World.next jsonC world label).machine.reading := fun _ label safe =>
    domainSafe_world safe label
  exact invariant_run kept safe labels

/-- **The ranges hold whatever the daemon does.** -/
theorem domainSafe_daemon (sqlite : Sqlite) (labels : List DaemonLabel) :
    DomainSafe (run (Daemon.next jsonC sqlite) {} labels).world.machine.reading := by
  have initial : DomainSafe (World.machine {}).reading := domainSafe_initial
  rw [(tracked_run jsonC sqlite labels).world]
  exact domainSafe_worlds initial _

end Domain

/-! ### One poll -/

/-- A request of `loadStatus`: once it is answered, its answer is that of a state with a property. -/
def PollState (seen : PumpStatus → Prop) : RequestState → Prop :=
  GetState statusRequest .pumpStatus fun answer => ∃ status, seen status ∧ answer.body = handlePumpStatus status

section Poll

variable {jsonC : JsonC} {daemon : Daemon} {seen after : PumpStatus → Prop} {id : ℕ}

theorem PollState.mono (weaken : ∀ status, seen status → after status) {state : RequestState}
    (poll : PollState seen state) : PollState after state :=
  GetState.mono (fun _ ⟨status, was, same⟩ => ⟨status, weaken status was, same⟩) poll

/-- The only call for the request answers it. -/
theorem statusRequest_answeredAtOnce : statusRequest.AnsweredAtOnce .pumpStatus where
  fresh := by decide
  selects _ _ := rfl

/-- **One step of the server**, for one poll: an answer is that of the state it finds. -/
theorem seen_next (sqlite : Sqlite) (unused : ∀ id, daemon.opened ≤ id → daemon.requests id = .unused)
    (poll : PollState seen (daemon.requests id)) (label : DaemonLabel) :
    PollState (fun status => seen status ∨ status = daemon.world.machine.side.current)
      ((daemon.next jsonC sqlite label).requests id) := by
  refine (get_next sqlite unused statusRequest_answeredAtOnce poll label).mono fun answer => ?_
  rintro (⟨status, was, body⟩ | ⟨io, published, rfl⟩)
  · exact ⟨status, .inl was, body⟩
  · refine ⟨daemon.world.machine.side.current, .inr rfl, ?_⟩
    rw [answerOf, jsonAnswer]

end Poll

/-! ### The page -/

/-- What a label of the page does to the server. -/
def StatusPage.passes (page : StatusPage) : StatusLabel → Option DaemonLabel
  | .daemon label => some label
  | .poll => some (.openRequest statusRequest)
  | .timer => if page.timers = 0 then none else some (.openRequest statusRequest)
  | .click control =>
    if control ∈ page.panel.elim [] fun shown => shown.2.buttons then
      some (.openRequest (controlRequest control))
    else none
  | .arrive id _ =>
    match page.daemon.requests id with
    | .answered _ => if id ∈ page.polls ∨ id ∈ page.controls then some (.receive id) else none
    | _ => none

section Page

variable (jsonC : JsonC) (sqlite : Sqlite)

theorem daemon_next (page : StatusPage) (label : StatusLabel) :
    (page.next jsonC sqlite label).daemon =
      run (Daemon.next jsonC sqlite) page.daemon (page.passes label).toList := by
  cases label with
  | daemon label => rfl
  | poll => rfl
  | timer =>
    unfold StatusPage.next StatusPage.passes
    dsimp only
    split_ifs <;> rfl
  | click control =>
    unfold StatusPage.next StatusPage.passes
    dsimp only
    split_ifs <;> rfl
  | arrive id now =>
    unfold StatusPage.passes
    show (page.arrive id now).daemon = _
    unfold StatusPage.arrive
    dsimp only
    cases page.daemon.requests id with
    | answered answer =>
      dsimp only
      by_cases poll : id ∈ page.polls
      · rw [if_pos poll, if_pos (.inl poll)]
        rfl
      · by_cases control : id ∈ page.controls
        · rw [if_neg poll, if_pos control, if_pos (.inr control)]
          rfl
        · rw [if_neg poll, if_neg control, if_neg (not_or.mpr ⟨poll, control⟩)]
          rfl
    | unused | reading | handling | closed => rfl

/-- What happens at the server in a run of the page. -/
def serverLabels (labels : List StatusLabel) : List DaemonLabel :=
  emitted (StatusPage.next jsonC sqlite) (fun page label => (page.passes label).toList) {} labels

/-- **The server behind the page** runs as the daemon does. -/
theorem daemon_pageAfter (labels : List StatusLabel) :
    (pageAfter jsonC sqlite labels).daemon =
      run (Daemon.next jsonC sqlite) {} (serverLabels jsonC sqlite labels) :=
  run_emitted (daemon_next jsonC sqlite) {} labels

theorem pageAfter_concat (labels : List StatusLabel) (label : StatusLabel) :
    pageAfter jsonC sqlite (labels ++ [label]) = (pageAfter jsonC sqlite labels).next jsonC sqlite label := by
  rw [pageAfter, run_append]
  rfl

variable {jsonC sqlite}

theorem SeenSince.mono {labels more : List StatusLabel} (isPrefix : labels <+: more) {id : ℕ}
    {status : PumpStatus} (seen : SeenSince jsonC sqlite labels id status) :
    SeenSince jsonC sqlite more id status := by
  obtain ⟨before, within, opened, live⟩ := seen
  exact ⟨before, within.trans isPrefix, opened, live⟩

/-- The invariant: an open poll that is answered has a state that was live since it was sent, and so has
the panel. -/
structure Shows (jsonC : JsonC) (sqlite : Sqlite) (labels : List StatusLabel) (page : StatusPage) : Prop where
  reached : page = pageAfter jsonC sqlite labels
  polls : ∀ id ∈ page.polls, PollState (SeenSince jsonC sqlite labels id) (page.daemon.requests id)
  panel : ∀ (id : ℕ) (panel : StatusPanel), page.panel = some (id, panel) →
    ∃ status now, SeenSince jsonC sqlite labels id status ∧ panel = statusPanel now status.row.record

variable {labels : List StatusLabel} {page : StatusPage}

variable (jsonC sqlite) in
theorem unused_pageAfter (labels : List StatusLabel) :
    ∀ id, (pageAfter jsonC sqlite labels).daemon.opened ≤ id →
      (pageAfter jsonC sqlite labels).daemon.requests id = .unused := by
  intro id le
  rw [daemon_pageAfter] at le ⊢
  exact ((tracked_run jsonC sqlite _).unused id le).1

/-- A poll, behind one more step of the server. -/
theorem polls_next (shows_ : Shows jsonC sqlite labels page) (label : StatusLabel) {id : ℕ}
    (poll : id ∈ page.polls) :
    PollState (SeenSince jsonC sqlite (labels ++ [label]) id)
      ((page.next jsonC sqlite label).daemon.requests id) := by
  have unused := unused_pageAfter jsonC sqlite labels
  rw [← shows_.reached] at unused
  have before := shows_.polls id poll
  have grown : labels <+: labels ++ [label] := List.prefix_append labels [label]
  have opened := used_of_get unused before
  rw [daemon_next]
  cases page.passes label with
  | none => exact before.mono fun _ => SeenSince.mono grown
  | some passed =>
    refine (seen_next sqlite unused before passed).mono fun status => ?_
    rintro (seen | rfl)
    · exact seen.mono grown
    · exact ⟨labels, grown, shows_.reached ▸ opened, shows_.reached ▸ rfl⟩

/-- A poll that has just been sent. -/
theorem polls_loadStatus (labels : List StatusLabel) (page : StatusPage) :
    PollState (SeenSince jsonC sqlite labels page.daemon.opened)
      (page.loadStatus.daemon.requests page.daemon.opened) :=
  getState_openRequest statusRequest_answeredAtOnce.fresh page.daemon

/-- **An answer is drawn**, or not. -/
theorem panel_arrive (shows_ : Shows jsonC sqlite labels page) (id : ℕ) (now : ℤ) {shown : ℕ}
    {panel : StatusPanel} (drawn : (page.arrive id now).panel = some (shown, panel)) :
    ∃ status now, SeenSince jsonC sqlite labels shown status ∧
      panel = statusPanel now status.row.record := by
  revert drawn
  unfold StatusPage.arrive
  cases answered : page.daemon.requests id with
  | answered answer =>
    dsimp only
    split_ifs with poll control
    · have polled := shows_.polls id poll
      rw [answered] at polled
      obtain ⟨status, seen, body⟩ := polled
      intro drawn
      have drawn : ((drawStatus now answer.body).map fun panel => (id, panel)).or page.panel =
        some (shown, panel) := drawn
      rw [body, drawStatus_handlePumpStatus] at drawn
      cases drawn
      exact ⟨status, now, seen, rfl⟩
    · exact shows_.panel shown panel
    · exact shows_.panel shown panel
  | unused | reading | handling | closed => exact shows_.panel shown panel

/-- A poll that is open was open before, or has just been sent. -/
theorem mem_polls_next (page : StatusPage) (label : StatusLabel) {id : ℕ}
    (poll : id ∈ (page.next jsonC sqlite label).polls) :
    id ∈ page.polls ∨
      (id = page.daemon.opened ∧ (page.next jsonC sqlite label).daemon = page.loadStatus.daemon) := by
  have sent : id ∈ page.loadStatus.polls → id ∈ page.polls ∨ id = page.daemon.opened := fun poll =>
    (List.mem_append.mp poll).imp_right List.mem_singleton.mp
  cases label with
  | daemon label => exact .inl poll
  | poll => exact (sent poll).imp_right fun new => ⟨new, rfl⟩
  | timer =>
    unfold StatusPage.next at poll ⊢
    dsimp only at poll ⊢
    split_ifs at poll ⊢
    · exact .inl poll
    · exact (sent poll).imp_right fun new => ⟨new, rfl⟩
  | click control =>
    unfold StatusPage.next at poll
    dsimp only at poll
    split_ifs at poll <;> exact .inl poll
  | arrive other now =>
    left
    have poll : id ∈ (page.arrive other now).polls := poll
    unfold StatusPage.arrive at poll
    split at poll
    · split_ifs at poll
      · exact List.mem_of_mem_erase poll
      · exact poll
      · exact poll
    · exact poll

/-- **The invariant is kept by every step.** -/
theorem shows_next (labels : List StatusLabel) (page : StatusPage) (label : StatusLabel)
    (shows_ : Shows jsonC sqlite labels page) :
    Shows jsonC sqlite (labels ++ [label]) (page.next jsonC sqlite label) where
  reached := by rw [pageAfter_concat, ← shows_.reached]
  polls id poll := by
    rcases mem_polls_next page label poll with old | ⟨rfl, new⟩
    · exact polls_next shows_ label old
    · rw [new]
      exact polls_loadStatus _ page
  panel := by
    have kept : ∀ (id : ℕ) (panel : StatusPanel), page.panel = some (id, panel) →
        ∃ status now, SeenSince jsonC sqlite (labels ++ [label]) id status ∧
          panel = statusPanel now status.row.record := by
      intro id panel drawn
      obtain ⟨status, now, seen, same⟩ := shows_.panel id panel drawn
      exact ⟨status, now, seen.mono (List.prefix_append labels [label]), same⟩
    intro id panel drawn
    cases label with
    | arrive other now =>
      obtain ⟨status, now, seen, same⟩ := panel_arrive shows_ other now drawn
      exact ⟨status, now, seen.mono (List.prefix_append _ _), same⟩
    | daemon label => exact kept id panel drawn
    | poll => exact kept id panel drawn
    | timer =>
      refine kept id panel ?_
      rw [← drawn]
      show page.panel = (ite _ _ _ : StatusPage).panel
      split_ifs <;> rfl
    | click control =>
      refine kept id panel ?_
      rw [← drawn]
      show page.panel = (ite _ _ _ : StatusPage).panel
      split_ifs <;> rfl

end Page

/-- **In every run, the panel shows a state that was live when its poll was open**, and has a text for each
of its values. -/
theorem panel_shows_past (jsonC : JsonC) (sqlite : Sqlite) (labels : List StatusLabel) :
    ShowsPast jsonC sqlite labels where
  past id panel drawn := by
    have initial : Shows jsonC sqlite [] {} :=
      ⟨rfl, nofun, fun _ _ drawn => absurd drawn.symm (Option.some_ne_none _)⟩
    have shown : Shows jsonC sqlite labels (pageAfter jsonC sqlite labels) :=
      invariant_history shows_next initial labels
    obtain ⟨status, now, seen, same⟩ := shown.panel id panel drawn
    refine ⟨⟨status, now, seen, same⟩, ?_⟩
    obtain ⟨before, -, -, live⟩ := seen
    have domain : InDomain status.toPumpFields := by
      rw [live, StatusPage.live, daemon_pageAfter]
      exact (domainSafe_daemon sqlite _).live
    rw [same]
    exact readable_statusPanel domain now

end ServerPump
