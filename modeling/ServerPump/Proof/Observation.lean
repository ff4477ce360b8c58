/-
**What an observer sees while one feedback message is handled.**

The message is applied by two updates, the hardware status first and then `busy` and `alarm`. The
publisher and `handle_pump_status` may read between them, and the first update inserts its snapshot
before the second begins.

* `phase_turn`: the invariant of the handling. The live fields are those before the message, those
  after its hardware status, or those after the whole message.
* `observed_feedback`: every state shown is one of the three, and no run shows a mixture exactly if
  the fields after the hardware status are those before or those after the message.
* `observed_mixture`: a message whose mixture is shown.
-/

import ServerPump.Proof.Linearization

namespace ServerPump

open CText

/-- What an observer is shown since the machine was at `start`: the live fields, which the publisher
and `handle_pump_status` read under the lock, or those of a snapshot inserted since. -/
def Shown (start reached : Machine) (fields : PumpFields) : Prop :=
  fields = reached.side.current.toPumpFields ∨
    ∃ row ∈ reached.side.tables.pumpSnapshots.drop start.side.tables.pumpSnapshots.length,
      row.fields = fields

/-- One feedback message arrives, and afterwards nothing else. -/
def Undisturbed (payload : List UInt8) (turns : List Turn) : Prop :=
  ∃ inserted steps, turns = ⟨.message "pump/feedback" payload, inserted⟩ :: steps ∧
    ∀ turn ∈ steps, turn.label.input? = none

section Fields

variable (jsonC : JsonC) (io : MessageIo) (payload : List UInt8) (side : PumpSide)

/-- The fields once the hardware status in the message is handled. -/
def afterStatus : PumpFields :=
  match jsonC.tokenerParse (mqttPayload payload) with
  | none => side.current.toPumpFields
  | some parsed => (feedbackStatus jsonC io.report parsed side).current.toPumpFields

/-- The fields once the message is handled. -/
def afterMessage : PumpFields :=
  (pumpFeedback jsonC io (mqttPayload payload) side).current.toPumpFields

theorem afterStatus_eq {parsed : jsonC.Value}
    (parses : jsonC.tokenerParse (mqttPayload payload) = some parsed) :
    afterStatus jsonC io payload side =
      settle (statusCalls jsonC parsed) side.current.toPumpFields := by
  rw [afterStatus, parses]
  show (feedbackStatus jsonC io.report parsed side).current.toPumpFields = _
  rw [feedbackStatus_eq, run_current, written_statusReports]

theorem afterMessage_eq :
    afterMessage jsonC io payload side =
      settle (messageCalls jsonC "pump/feedback" payload) side.current.toPumpFields :=
  handle_fields jsonC { pumps := side } ⟨.mqtt "pump/feedback" payload, io⟩

theorem messageCalls_feedback :
    messageCalls jsonC "pump/feedback" payload =
      match jsonC.tokenerParse (mqttPayload payload) with
      | none => []
      | some parsed => statusCalls jsonC parsed ++ systemCalls jsonC parsed := rfl

end Fields

/-! ### The phases of the handling -/

/-- The calls left to do, with the live fields at that point. -/
inductive Phase (before middle after : PumpFields) : List Call → PumpFields → Prop
  | begin (pumpId status : Int32) (rest : List Call)
      (writes : before.setStatus pumpId status = middle)
      (later : Phase before middle after rest middle) :
      Phase before middle after (.update (.feedback pumpId status) :: rest) before
  | half (call : Call) (writes : call.settle middle = after) : Phase before middle after [call] middle
  | done : Phase before middle after [] after

/-- One of the three states. -/
def OneOf (before middle after fields : PumpFields) : Prop :=
  fields = before ∨ fields = middle ∨ fields = after

section Phases

variable {before middle after live : PumpFields} {calls : List Call}

theorem phase_fields (phase : Phase before middle after calls live) :
    OneOf before middle after live := by
  cases phase with
  | begin => exact .inl rfl
  | half => exact .inr (.inl rfl)
  | done => exact .inr (.inr rfl)

theorem phase_opens {update : Update}
    (phase : Phase before middle after (.update update :: calls) live) :
    Phase before middle after calls (update.write live) := by
  cases phase with
  | begin pumpId status rest writes later =>
    show Phase before middle after calls (before.setStatus pumpId status)
    rw [writes]
    exact later
  | half call writes =>
    show Phase before middle after [] ((Call.update update).settle middle)
    rw [writes]
    exact .done

theorem phase_fills {busy alarm : Option Int32}
    (phase : Phase before middle after (.fillSystem busy alarm :: calls) live) :
    Phase before middle after
      (.update (.system (busy.getD live.busy) (alarm.getD live.alarm)) :: calls) live := by
  cases phase with
  | half call writes => exact .half _ writes

theorem phase_systemCalls (jsonC : JsonC) (parsed : jsonC.Value) :
    Phase before middle (settle (systemCalls jsonC parsed) middle) (systemCalls jsonC parsed) middle := by
  unfold systemCalls
  split
  · exact .half _ rfl
  · exact .done

end Phases

/-- **The phase a message begins in.** -/
theorem phase_messageCalls (jsonC : JsonC) (io : MessageIo) (payload : List UInt8) (side : PumpSide) :
    Phase side.current.toPumpFields (afterStatus jsonC io payload side)
      (afterMessage jsonC io payload side) (messageCalls jsonC "pump/feedback" payload)
      side.current.toPumpFields := by
  rw [afterMessage_eq, messageCalls_feedback]
  cases parses : jsonC.tokenerParse (mqttPayload payload) with
  | none => exact .done
  | some parsed =>
    dsimp only
    rw [afterStatus_eq jsonC io payload side parses, settle_append]
    have system : Phase side.current.toPumpFields
        (settle (statusCalls jsonC parsed) side.current.toPumpFields) _ _ _ :=
      phase_systemCalls jsonC parsed
    generalize settle (systemCalls jsonC parsed) _ = after at system ⊢
    rcases statusCalls_cases jsonC parsed with nothing | ⟨pumpId, status, one⟩
    · rw [nothing] at system ⊢
      exact system
    · rw [one] at system ⊢
      exact .begin pumpId status _ rfl system

/-! ### The run -/

/-- The invariant: the phase of the MQTT thread, an idle HTTP thread, and the snapshots so far. -/
structure Watched (start : Machine) (before middle after : PumpFields) (machine : Machine) : Prop where
  http : machine.threads .http = {}
  phase : Phase before middle after (machine.threads .mqtt).calls machine.side.current.toPumpFields
  rows : ∃ rows, machine.side.tables.pumpSnapshots = start.side.tables.pumpSnapshots ++ rows ∧
    ∀ row ∈ rows, OneOf before middle after row.fields

section Run

variable {start machine : Machine} {before middle after : PumpFields}

theorem shown_of_watched (watched : Watched start before middle after machine) {fields : PumpFields}
    (shown : Shown start machine fields) : OneOf before middle after fields := by
  rcases shown with rfl | ⟨row, member, rfl⟩
  · exact phase_fields watched.phase
  · obtain ⟨rows, appended, each⟩ := watched.rows
    rw [appended, List.drop_left] at member
    exact each row member

/-- Only the MQTT thread is at work. -/
theorem Watched.thread_eq (watched : Watched start before middle after machine) {thread : Thread}
    (working : machine.threads thread ≠ {}) : thread = .mqtt := by
  cases thread with
  | mqtt => rfl
  | http => exact absurd watched.http working

/-- **A step of the handling.** -/
theorem watched_turn (jsonC : JsonC) (watched : Watched start before middle after machine)
    {turn : Turn} (silent : turn.label.input? = none) :
    Watched start before middle after (machine.turn jsonC turn) := by
  have takesNone : machine.takes turn.label = none := by rw [Machine.takes, silent]; rfl
  have moves := moves_turn jsonC machine turn
  generalize machine.turn jsonC turn = moved at moves ⊢
  cases moves with
  | take input takes waiting =>
    rw [takesNone] at takes
    cases takes
  | stay takes => exact watched
  | inside thread side branch takes busy current logged =>
    obtain rfl := watched.thread_eq fun idle => busy (by rw [idle])
    refine ⟨(Machine.become_other .mqtt side _ machine).trans watched.http, ?_, ?_⟩
    · rw [Machine.become_self, Machine.become_side, current]
      exact watched.phase
    · obtain ⟨rows, appended, each⟩ := watched.rows
      obtain ⟨added, gained, same⟩ := logged.snapshots
      refine ⟨rows ++ added, ?_, fun row member => ?_⟩
      · rw [Machine.become_side, gained, appended, List.append_assoc]
      · rcases List.mem_append.mp member with old | new
        · exact each row old
        · rw [same row new]
          exact phase_fields watched.phase
  | opens thread now update calls here =>
    obtain rfl := watched.thread_eq fun idle => by cases idle.symm.trans here
    have phase := watched.phase
    rw [here] at phase
    refine ⟨(Machine.become_other .mqtt _ _ machine).trans watched.http, ?_, watched.rows⟩
    rw [Machine.openUpdate, Machine.become_self]
    exact phase_opens phase
  | fills thread busy alarm calls takes here =>
    obtain rfl := watched.thread_eq fun idle => by cases idle.symm.trans here
    have phase := watched.phase
    rw [here] at phase
    refine ⟨(Machine.become_other .mqtt _ _ machine).trans watched.http, ?_, watched.rows⟩
    rw [Machine.fillSystem, Machine.become_self]
    exact phase_fills phase

theorem watched_run (jsonC : JsonC) (steps : List Turn)
    (silent : ∀ turn ∈ steps, turn.label.input? = none)
    (watched : Watched start before middle after machine) :
    Runs.Always (Machine.turn jsonC) (Watched start before middle after) machine steps := by
  induction steps generalizing machine with
  | nil => exact watched
  | cons turn rest ih =>
    exact ⟨watched, ih (fun other member => silent other (List.mem_cons_of_mem _ member))
      (watched_turn jsonC watched (silent turn List.mem_cons_self))⟩

/-- The message is taken by a machine at rest. -/
theorem turn_message (jsonC : JsonC) (resting : ∀ thread, start.Waiting thread) (payload : List UInt8)
    (inserted : Bool) :
    start.turn jsonC ⟨.message "pump/feedback" payload, inserted⟩ =
      start.become .mqtt start.side ⟨none, messageCalls jsonC "pump/feedback" payload⟩ := by
  have arrives : (Label.message "pump/feedback" payload).input? =
      some (.mqtt "pump/feedback" payload) := rfl
  rw [turn_input jsonC start arrives]
  exact if_pos (resting .mqtt)

end Run

section Main

variable (jsonC : JsonC) {start : Machine} (payload : List UInt8) (io : MessageIo)

/-- Whatever is shown in the course of a run is allowed. -/
def ShowsOnly (allowed : PumpFields → Prop) (start : Machine) (turns : List Turn) : Prop :=
  Runs.Always (Machine.turn jsonC) (fun reached => ∀ fields, Shown start reached fields → allowed fields)
    start turns

/-- **The three states**: before the message, after its hardware status, after the whole of it. -/
theorem showsOnly_threeStates (resting : ∀ thread, start.Waiting thread) {turns : List Turn}
    (undisturbed : Undisturbed payload turns) :
    ShowsOnly jsonC (OneOf start.side.current.toPumpFields (afterStatus jsonC io payload start.side)
      (afterMessage jsonC io payload start.side)) start turns := by
  obtain ⟨inserted, steps, rfl, silent⟩ := undisturbed
  have unchanged : start.side.tables.pumpSnapshots =
      start.side.tables.pumpSnapshots ++ [] := (List.append_nil _).symm
  refine ⟨fun fields shown => ?_, ?_⟩
  · rcases shown with rfl | ⟨row, member, -⟩
    · exact .inl rfl
    · rw [List.drop_length] at member
      cases member
  · rw [turn_message jsonC resting]
    have watched : Watched start start.side.current.toPumpFields
        (afterStatus jsonC io payload start.side) (afterMessage jsonC io payload start.side)
        (start.become .mqtt start.side ⟨none, messageCalls jsonC "pump/feedback" payload⟩) := by
      refine ⟨(Machine.become_other .mqtt _ _ start).trans (resting .http), ?_, [], unchanged, nofun⟩
      rw [Machine.become_self]
      exact phase_messageCalls jsonC io payload start.side
    exact (watched_run jsonC steps silent watched).mono fun _ here _ => shown_of_watched here

/-- The first step of the handling shows the fields after the hardware status. -/
theorem shown_afterStatus (resting : ∀ thread, start.Waiting thread) :
    afterStatus jsonC io payload start.side = start.side.current.toPumpFields ∨
      (Runs.run (Machine.turn jsonC) start
        [⟨.message "pump/feedback" payload, true⟩, ⟨.step .mqtt 0, true⟩]).side.current.toPumpFields =
          afterStatus jsonC io payload start.side := by
  rw [Runs.run_cons, turn_message jsonC resting, Runs.run_cons, Runs.run_nil, messageCalls_feedback]
  cases parses : jsonC.tokenerParse (mqttPayload payload) with
  | none =>
    left
    rw [afterStatus, parses]
  | some parsed =>
    rw [afterStatus_eq jsonC io payload start.side parses]
    dsimp only
    rcases statusCalls_cases jsonC parsed with nothing | ⟨pumpId, status, one⟩
    · left
      rw [nothing]
      rfl
    · right
      rw [one, List.singleton_append, turn_opens jsonC (Machine.become_self .mqtt start.side _ start)]
      rfl

/-- **What an observer is shown while one feedback message is handled.** It is one of the three
states; no run shows the one in the middle as a mixture exactly if it is one of the other two. -/
theorem observed_feedback (resting : ∀ thread, start.Waiting thread) :
    (∀ turns, Undisturbed payload turns →
      ShowsOnly jsonC (OneOf start.side.current.toPumpFields (afterStatus jsonC io payload start.side)
        (afterMessage jsonC io payload start.side)) start turns) ∧
    ((∀ turns, Undisturbed payload turns →
      ShowsOnly jsonC (fun fields => fields = start.side.current.toPumpFields ∨
        fields = afterMessage jsonC io payload start.side) start turns) ↔
      afterStatus jsonC io payload start.side = start.side.current.toPumpFields ∨
        afterStatus jsonC io payload start.side = afterMessage jsonC io payload start.side) := by
  refine ⟨fun turns => showsOnly_threeStates jsonC payload io resting, ?_, ?_⟩
  · intro whole
    rcases shown_afterStatus jsonC payload io resting with before | shown
    · exact .inl before
    · have always := whole [⟨.message "pump/feedback" payload, true⟩, ⟨.step .mqtt 0, true⟩]
        ⟨true, _, rfl, by simp [Label.input?]⟩
      rcases Runs.always_iff.mp always _ List.prefix_rfl _ (.inl rfl) with before | after
      · exact .inl (shown.symm.trans before)
      · exact .inr (shown.symm.trans after)
  · intro same turns undisturbed
    refine (showsOnly_threeStates jsonC payload io resting undisturbed).mono fun reached allowed =>
      fun fields shown => ?_
    rcases allowed fields shown with before | middle | after
    · exact .inl before
    · rw [middle]
      exact same
    · exact .inr after

end Main

/-- Pump 1 runs, and the gateway is starting it. -/
def startingMessage : List UInt8 := ascii "\x7b\"pump_id\":1,\"status\":1,\"busy\":1\x7d"

/-- The hardware status alone moves the state, and so does the rest of the message. -/
theorem observed_startingMessage :
    (∀ turns, Undisturbed startingMessage turns →
      ShowsOnly JsonC.reference (OneOf {} { pump1Status := 1 } { pump1Status := 1, busy := 1 })
        {} turns) ∧
    ¬ ∀ turns, Undisturbed startingMessage turns →
      ShowsOnly JsonC.reference (fun fields => fields = {} ∨ fields = { pump1Status := 1, busy := 1 })
        {} turns := by
  have observed := @observed_feedback JsonC.reference {} startingMessage (.at 0) fun _ => rfl
  have middle : afterStatus JsonC.reference (.at 0) startingMessage {} = { pump1Status := 1 } := by
    decide +kernel
  have after : afterMessage JsonC.reference (.at 0) startingMessage {} =
      { pump1Status := 1, busy := 1 } := by decide +kernel
  rw [middle, after] at observed
  exact ⟨observed.1, fun whole => absurd (observed.2.mp whole) (by decide)⟩

/-- The snapshot of the hardware status carries the new status with the old `busy`. -/
theorem observed_mixture :
    ¬ ∀ (start : Machine) (payload : List UInt8), (∀ thread, start.Waiting thread) →
      ∀ turns, Undisturbed payload turns →
        ShowsOnly JsonC.reference (fun fields => fields = start.side.current.toPumpFields ∨
          fields = afterMessage JsonC.reference (.at 0) payload start.side) start turns := by
  intro whole
  have always := whole {} startingMessage (fun _ => rfl)
    [⟨.message "pump/feedback" startingMessage, true⟩, ⟨.step .mqtt 100, true⟩,
      ⟨.step .mqtt 100, true⟩, ⟨.step .mqtt 100, true⟩] ⟨true, _, rfl, by simp [Label.input?]⟩
  have snapshot := Runs.always_iff.mp always _ List.prefix_rfl { pump1Status := 1 }
    (.inr ⟨⟨0, 1, 0, 0, 0, 0, 100⟩, by decide +kernel, rfl⟩)
  exact absurd snapshot (by decide +kernel)

end ServerPump
