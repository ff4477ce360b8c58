/-
**A button that is pressed shows on its card.**

The page sends the command as the body of a POST, which the network cuts into chunks. The handler publishes
what it has put together, the broker brings it to the callback, at least once, and the next poll reads the
live state.

* `commandFor_controlBody`: what the server reads in the body is what the button stands for.
* `sent_daemon`: the messages under `pump/control` are those other clients publish and the bodies of the
  POSTs, each once.
* `press_shown`: when the last command for a pump is that of a button, and everything has been delivered
  and handled, its card shows it.
-/

import ServerPump.Proof.ControlLoop
import ServerPump.Proof.ShownState

namespace ServerPump

open CText ChangeLog JsonText Redelivery Runs

/-! ### The law -/

/-- **What the server relies on in `json-c`**: of an object of integers with distinct names, every member
is found and read. -/
def JsonC.ReadsIntegers (jsonC : JsonC) : Prop :=
  ∀ members : List (String × Int32), members ≠ [] →
    (members.map fun member => ascii member.1).Nodup →
    (∀ member ∈ members, Verbatim true (ascii member.1)) →
    ∃ parsed, jsonC.tokenerParse (renderObject (members.map fun member =>
        (ascii member.1, printInt member.2.toInt))) = some parsed ∧
      ∀ member ∈ members, ∃ value, jsonC.objectGetEx parsed member.1 = some value ∧
        jsonC.getInt value = member.2

/-- What is published under `pump/control`, by another client or for a POST. -/
def DaemonEvent.sends : DaemonEvent → Option (List UInt8)
  | outside (.publish .control payload) => some payload
  | called _ (.control payload) true => some payload
  | _ => none

/-- The call behind a button, with numbers of 32 bits. -/
def PumpControl.of (pumpId state : Int32) : PumpControl := ⟨pumpId.toInt, state.toInt⟩

/-- The card of a pump. -/
def StatusPanel.card (panel : StatusPanel) : Pump → PumpCard
  | .one => panel.pump1
  | .two => panel.pump2

/-- The last command published for a pump is the one sent by the page when a button was pressed. -/
def PressedLast (jsonC : JsonC) (pump : Pump) (state : Int32) (events : List DaemonEvent) : Prop :=
  ∃ before id endpoint after, events = before ++ .called id endpoint true :: after ∧
    (openings events)[id]? = some (controlRequest (.of pump.id state)) ∧
    ∀ payload ∈ after.filterMap DaemonEvent.sends, commandFor jsonC pump payload = none

/-! ### The body -/

/-- An integer of 32 bits is read as it is. -/
theorem saturate_toInt (number : Int32) : saturate number.toInt = number := by
  have low := number.le_toInt
  have high := number.toInt_lt
  rw [saturate, min_eq_left (by omega), max_eq_right (by omega), Int32.ofInt_toInt]

theorem reference_readsIntegers : JsonC.reference.ReadsIntegers := by
  intro members nonempty distinct plain
  let integers := members.map fun member => (ascii member.1, member.2.toInt)
  have parsed : parse false (renderObject (integers.map fun member => (member.1, printInt member.2))) =
      some (.obj (integers.map fun member => (member.1, .num member.2 0))) := by
    apply parse_integers
    · simpa [integers] using nonempty
    · intro member inside
      obtain ⟨source, sourceInside, rfl⟩ := List.mem_map.mp inside
      exact ⟨(plain source sourceInside).1, nofun⟩
  simp only [integers, List.map_map, Function.comp_def] at parsed
  refine ⟨.obj (members.map fun member => (ascii member.1, .num member.2.toInt 0)), ?_, ?_⟩
  · simp only [JsonC.reference, parsed]
  · intro member inside
    refine ⟨.num member.2.toInt 0, ?_, ?_⟩
    · apply member?_of_mem
      · simpa [Function.comp_def] using distinct
      · exact List.mem_map.mpr ⟨member, inside, rfl⟩
    · show jsonObjectGetInt (.num member.2.toInt 0) = member.2
      simp [jsonObjectGetInt, saturate_toInt]

theorem controlBody_eq (control : PumpControl) :
    controlBody control = renderObject [(ascii "pump_id", printInt control.pumpId),
      (ascii "state", printInt control.state)] := by
  simp only [controlBody, renderObject, renderMember, commaSep, List.map_cons, List.map_nil,
    List.append_assoc, List.cons_append]
  rfl

theorem nulFree_printInt (number : ℤ) : 0 ∉ printInt number := by
  have digits : ∀ natural : ℕ, 0 ∉ printNat natural := fun natural member =>
    absurd (isDigit_of_mem_printNat member) (by decide)
  unfold printInt
  split_ifs <;> simp [digits]

theorem nulFree_controlBody (control : PumpControl) : 0 ∉ controlBody control := by
  have texts : ∀ text ∈ [ascii "\x7b\"pump_id\":", ascii ",\"state\":", ascii "\x7d"], 0 ∉ text := by
    decide
  simp only [controlBody, List.mem_append, not_or]
  exact ⟨⟨⟨⟨texts _ (by simp), nulFree_printInt _⟩, texts _ (by simp)⟩, nulFree_printInt _⟩,
    texts _ (by simp)⟩

theorem length_controlBody_lt (pumpId state : Int32) :
    (controlBody (.of pumpId state)).length < postBufferSize := by
  have first := length_printInt32_le pumpId
  have second := length_printInt32_le state
  have texts : (ascii "\x7b\"pump_id\":").length = 11 ∧ (ascii ",\"state\":").length = 9 ∧
      (ascii "\x7d").length = 1 := by
    decide
  have size : postBufferSize = 1024 := rfl
  simp only [controlBody, PumpControl.of, List.length_append]
  omega

/-- The callback parses the body as it was sent. -/
theorem mqttPayload_controlBody (pumpId state : Int32) :
    mqttPayload (controlBody (.of pumpId state)) = controlBody (.of pumpId state) := by
  rw [mqttPayload, cstr_eq_self (nulFree_controlBody _)]
  exact snprintf_of_lt (length_controlBody_lt pumpId state)

/-- **The command in the body** is that of the button. -/
theorem commandFor_controlBody {jsonC : JsonC} (reads : jsonC.ReadsIntegers) (pump : Pump)
    (pumpId state : Int32) :
    commandFor jsonC pump (controlBody (.of pumpId state)) = if pumpId = pump.id then some state else none := by
  have distinct : ([("pump_id", pumpId), ("state", state)].map fun member => ascii member.1).Nodup := by
    simp only [List.map_cons, List.map_nil]
    decide
  have plain : ∀ member ∈ [("pump_id", pumpId), ("state", state)], Verbatim true (ascii member.1) := by
    simp only [List.forall_mem_cons]
    exact ⟨by decide, by decide, nofun⟩
  obtain ⟨parsed, read, members⟩ := reads _ (List.cons_ne_nil _ _) distinct plain
  obtain ⟨idValue, idFound, idRead⟩ := members ("pump_id", pumpId) (.head _)
  obtain ⟨stateValue, stateFound, stateRead⟩ := members ("state", state) (.tail _ (.head _))
  have body : controlBody (.of pumpId state) = renderObject ([("pump_id", pumpId), ("state", state)].map
      fun member : String × Int32 => (ascii member.1, printInt member.2.toInt)) := controlBody_eq _
  rw [commandFor, mqttPayload_controlBody, body, read]
  simp only [Option.bind_eq_bind, Option.bind_some, idFound, stateFound, idRead, stateRead]

/-! ### The messages -/

/-- The messages under `pump/control`, in the order they were sent. -/
def World.commands (world : World) : List (List UInt8) := (world.channels .control).sent

section Sent

variable {jsonC : JsonC}

/-- What leaves the messages of a channel alone. -/
theorem commands_onChannel (world : World) (topic : Topic)
    {change : Channel (List UInt8) → Channel (List UInt8)}
    (same : ∀ channel, (change channel).sent = channel.sent) :
    (world.onChannel topic change).commands = world.commands := by
  rw [World.commands, channels_onChannel]
  split_ifs
  · exact same _
  · rfl

theorem sent_acknowledge (channel : Channel (List UInt8)) : channel.acknowledge.sent = channel.sent := by
  unfold Channel.acknowledge
  split_ifs <;> rfl

/-- **What happens outside**: only a message that is published is one more. -/
theorem commands_outside (world : World) {label : WorldLabel} (outside : label.Outside) :
    (world.next jsonC label).commands = world.commands ++ (DaemonEvent.outside label).sends.toList := by
  cases label with
  | publish topic payload =>
    show (world.onChannel topic (Channel.publish payload)).commands = _
    rw [World.commands, channels_onChannel]
    cases topic with
    | control => rfl
    | heartbeat | feedback => exact (List.append_nil _).symm
  | controlPost payload published => exact outside.elim
  | feedbackPost payload => exact outside.elim
  | deliver topic =>
    rw [show (DaemonEvent.outside (.deliver topic)).sends = none from rfl, Option.toList_none,
      List.append_nil]
    show (world.deliver jsonC topic).commands = _
    unfold World.deliver
    split
    · split_ifs
      · exact commands_onChannel _ topic fun _ => rfl
      · rfl
    · rfl
  | acknowledge topic =>
    exact (commands_onChannel world topic sent_acknowledge).trans (List.append_nil _).symm
  | resend topic =>
    have same : (world.onChannel topic Channel.resend).commands = world.commands :=
      commands_onChannel world topic fun _ => rfl
    exact same.trans (List.append_nil _).symm
  | step thread now inserted => exact (List.append_nil _).symm
  | publishStatus => exact (List.append_nil _).symm

/-- **What a handler publishes**, when its request is complete. -/
theorem commands_effect (world : World) (waiting : world.machine.Waiting .http) (id : ℕ)
    (endpoint : Endpoint) (published : Bool) :
    (run (World.next jsonC) world (endpoint.effect published).toList).commands =
      world.commands ++ (DaemonEvent.called id endpoint published).sends.toList := by
  cases endpoint with
  | control payload =>
    show (world.next jsonC (.controlPost payload published)).commands = _
    unfold World.next
    dsimp only
    cases published with
    | true =>
      rw [if_pos ⟨waiting, rfl⟩, World.commands, channels_onChannel]
      rfl
    | false =>
      rw [if_neg (by simp)]
      exact (List.append_nil _).symm
  | feedback payload => exact (List.append_nil _).symm
  | options | pumpStatus | pumpHistory | gatewayStatus | notFound | notAllowed =>
    exact (List.append_nil _).symm

theorem filterMap_sends_concat (events : List DaemonEvent) (event : DaemonEvent) :
    (events ++ [event]).filterMap DaemonEvent.sends =
      events.filterMap DaemonEvent.sends ++ event.sends.toList := by
  rw [List.filterMap_append]
  cases sends : event.sends with
  | none => rw [List.filterMap_cons_none sends]; rfl
  | some payload => rw [List.filterMap_cons_some sends]; rfl

theorem world_of_finished {sqlite : Sqlite} {daemon after : Daemon} {io : RequestIo}
    (finished : Finished jsonC sqlite daemon io after) : after.world = daemon.world := by
  cases finished <;> rfl

theorem world_of_left {daemon after : Daemon} {id : ℕ} (left : Left daemon id after) :
    after.world = daemon.world := by
  cases left <;> rfl

/-- The invariant: each message is there once. -/
def SentOnce (events : List DaemonEvent) (daemon : Daemon) : Prop :=
  daemon.world.commands = events.filterMap DaemonEvent.sends

theorem sentOnce_next (jsonC : JsonC) (sqlite : Sqlite) (events : List DaemonEvent) (daemon : Daemon)
    (label : DaemonLabel) (sent : SentOnce events daemon) :
    SentOnce (events ++ daemon.emits label) (daemon.next jsonC sqlite label) := by
  have quiet : ∀ after : Daemon, after.world = daemon.world → SentOnce (events ++ []) after := by
    intro after same
    rw [List.append_nil, SentOnce, same]
    exact sent
  cases label with
  | world label =>
    show SentOnce (events ++ if label.Outside then [.outside label] else [])
      (if label.Outside then daemon.onWorld jsonC (some label) else daemon)
    split_ifs with outside
    · rw [SentOnce, filterMap_sends_concat, ← sent]
      exact commands_outside daemon.world outside
    · exact quiet daemon rfl
  | openRequest request =>
    show SentOnce (events ++ if request.Fresh then [.opened request] else []) (daemon.openRequest request)
    split_ifs with fresh
    · rw [SentOnce, filterMap_sends_concat, ← sent, openRequest_world]
      exact (List.append_nil _).symm
    · exact quiet _ (openRequest_world request daemon)
  | call id size io =>
    show SentOnce (events ++ (daemon.reaches id size io).toList) (daemon.call jsonC id size io)
    have called := called_call jsonC daemon id size io
    revert called
    generalize daemon.call jsonC id size io = after
    generalize daemon.reaches id size io = reached
    intro called
    cases called with
    | idle => exact quiet daemon rfl
    | refused here outcome => exact quiet _ rfl
    | passed here outcome => exact quiet _ rfl
    | @ended now endpoint here free outcome =>
      rw [Option.toList_some, SentOnce, filterMap_sends_concat, ← sent]
      exact commands_effect daemon.world free.2 id endpoint io.published
  | finish io => exact quiet _ (world_of_finished (finished_finish jsonC sqlite daemon io))
  | receive id => exact quiet _ (world_of_left (left_receive daemon id))
  | abort id => exact quiet _ (world_of_left (left_abort daemon id))

/-- **The messages under `pump/control`** are those that were published, each once. -/
theorem sent_daemon (jsonC : JsonC) (sqlite : Sqlite) (labels : List DaemonLabel) :
    (run (Daemon.next jsonC sqlite) {} labels).world.commands =
      (daemonEvents jsonC sqlite labels).filterMap DaemonEvent.sends := by
  have initial : SentOnce [] {} := rfl
  exact invariant_emitted (sentOnce_next jsonC sqlite) initial labels

end Sent

/-! ### The card -/

/-- **Cut into chunks or not**, the handler is called with the body. -/
theorem calls_of_press {request : Request} {control : PumpControl} (upload : request.upload = controlBody control)
    {calls : List Endpoint} (alone : AsAlone request .control calls) :
    calls = [.control (controlBody control)] := by
  obtain ⟨chunks, whole, rfl⟩ := alone
  rw [upload] at whole
  have noNul : ∀ chunk ∈ chunks, 0 ∉ chunk.bytes := by
    intro chunk inside isNul
    apply nulFree_controlBody control
    rw [← whole]
    exact List.mem_flatMap.mpr ⟨chunk, inside, isNul⟩
  have ends : EndsOnce chunks := List.pairwise_of_forall_mem_list fun chunk inside _ _ isNul =>
    absurd isNul (noNul chunk inside)
  rw [handlerCalls_eq, (flatMap_cstr_iff chunks).mpr ends, whole, cstr_eq_self (nulFree_controlBody control)]
  rfl

/-- The message of a button that was pressed last decides the command. -/
theorem replay_of_pressedLast {jsonC : JsonC} (reads : jsonC.ReadsIntegers) {pump : Pump} {state : Int32}
    {events : List DaemonEvent} {daemon : Daemon} (isolated : Isolated jsonC (openings events) events daemon)
    (last : PressedLast jsonC pump state events) :
    replay 0 ((events.filterMap DaemonEvent.sends).filterMap (commandFor jsonC pump)) = state := by
  obtain ⟨before, id, endpoint, after, split, opened, none_later⟩ := last
  have called : endpoint ∈ callsOf id events := by
    rw [split]
    exact List.mem_filterMap.mpr ⟨_, List.mem_append_right _ List.mem_cons_self, if_pos rfl⟩
  have own : endpoint = .control (controlBody (.of pump.id state)) := by
    rcases isolated.posts id _ .control opened rfl rfl with alone | ⟨none_called, -⟩
    · rw [calls_of_press rfl alone] at called
      exact List.mem_singleton.mp called
    · rw [none_called] at called
      cases called
  have sends : (DaemonEvent.called id endpoint true).sends = some (controlBody (.of pump.id state)) := by
    rw [own]
    rfl
  have command := commandFor_controlBody reads pump pump.id state
  rw [if_pos rfl] at command
  have later : (after.filterMap DaemonEvent.sends).filterMap (commandFor jsonC pump) = [] :=
    List.filterMap_eq_nil_iff.mpr none_later
  rw [split, List.filterMap_append, List.filterMap_cons_some sends, List.filterMap_append,
    List.filterMap_cons_some command, later, replay_concat]

/-- What a card says of its command. -/
theorem card_command (now : ℤ) (status : PumpStatus) (pump : Pump) :
    ((statusPanel now status.row.record).card pump).command =
      if status.commandOf pump.id = 0 then "OFF" else "ON" := by
  have zero : ∀ number : Int32, number.toInt ≠ 0 ↔ ¬ number = 0 := fun number =>
    not_congr ⟨fun same => Int32.toInt_inj.mp same, fun same => by rw [same]; rfl⟩
  cases pump with
  | one =>
    show (if status.pump1.toInt ≠ 0 then "ON" else "OFF") = if status.pump1 = 0 then "OFF" else "ON"
    simp only [zero, ite_not]
  | two =>
    show (if status.pump2.toInt ≠ 0 then "ON" else "OFF") = if status.pump2 = 0 then "OFF" else "ON"
    simp only [zero, ite_not]

/-- **A button that is pressed shows on its card**, once the broker has delivered everything: the next poll
draws the command of the last button pressed. -/
theorem press_shown (jsonC : JsonC) (reads : jsonC.ReadsIntegers) (sqlite : Sqlite)
    (labels : List StatusLabel) (pump : Pump) (state : Int32)
    (last : PressedLast jsonC pump state (daemonEvents jsonC sqlite (serverLabels jsonC sqlite labels)))
    (waiting : (pageAfter jsonC sqlite labels).daemon.world.machine.Waiting .mqtt)
    (caughtUp : ((pageAfter jsonC sqlite labels).daemon.world.channels .control).CaughtUp) (now : ℤ) :
    ∃ panel, drawStatus now (handlePumpStatus (pageAfter jsonC sqlite labels).live) = some panel ∧
      (panel.card pump).command = if state = 0 then "OFF" else "ON" := by
  refine ⟨_, drawStatus_handlePumpStatus now _, ?_⟩
  rw [StatusPage.live, daemon_pageAfter, card_command]
  rw [daemon_pageAfter] at waiting caughtUp
  have tracked := tracked_run jsonC sqlite (serverLabels jsonC sqlite labels)
  have receives : Receives jsonC (run (Daemon.next jsonC sqlite) {} (serverLabels jsonC sqlite labels)).world := by
    rw [tracked.world]
    exact invariant_run (receives_next jsonC) (receives_initial jsonC) _
  have sent := sent_daemon jsonC sqlite (serverLabels jsonC sqlite labels)
  have decided := replay_of_pressedLast reads (isolated_of_tracked tracked) last
  have command := value_of_receives receives waiting (mqttOnly_commands pump) caughtUp
  rw [← sent] at decided
  have commanded : (run (Daemon.next jsonC sqlite) {}
      (serverLabels jsonC sqlite labels)).world.machine.side.current.commandOf pump.id = state :=
    command.trans decided
  rw [commanded]

/-- The page draws its first panel, and then pump 1 is switched on. The body comes in two chunks, with the
request of another client in between. -/
def switchedOn : List StatusLabel :=
  let call (id size : ℕ) : StatusLabel := .daemon (.call id size {})
  [.poll, call 0 0, .daemon (.finish {}), .arrive 0 0, .click ⟨1, 1⟩, call 1 0, call 1 7, .poll, call 2 0,
    .daemon (.finish {}), call 1 30, call 1 0, .daemon (.finish {}), .daemon (.world (.deliver .control))] ++
    List.replicate 5 (.daemon (.world (.step .mqtt 100 true)))

/-- What the run gives off before the handler is called, and behind it. -/
def switchedOnBefore : List DaemonEvent :=
  [.opened statusRequest, .called 0 .pumpStatus true, .opened (controlRequest ⟨1, 1⟩),
    .opened statusRequest, .called 2 .pumpStatus true]

def switchedOnAfter : List DaemonEvent :=
  .outside (.deliver .control) :: List.replicate 5 (.outside (.step .mqtt 100 true))

theorem press_shown_switchedOn :
    ∃ panel, drawStatus 0 (handlePumpStatus (pageAfter JsonC.reference Sqlite.stable switchedOn).live) =
        some panel ∧ (panel.card .one).command = "ON" := by
  have split : daemonEvents JsonC.reference Sqlite.stable
      (serverLabels JsonC.reference Sqlite.stable switchedOn) =
        switchedOnBefore ++ .called 1 (.control (controlBody ⟨1, 1⟩)) true :: switchedOnAfter := by
    decide +kernel
  have opened : (openings (daemonEvents JsonC.reference Sqlite.stable
      (serverLabels JsonC.reference Sqlite.stable switchedOn)))[1]? = some (controlRequest (.of 1 1)) := by
    decide +kernel
  have none_later : ∀ payload ∈ switchedOnAfter.filterMap DaemonEvent.sends,
      commandFor JsonC.reference .one payload = none := by
    decide +kernel
  exact press_shown JsonC.reference reference_readsIntegers Sqlite.stable switchedOn .one 1
    ⟨switchedOnBefore, 1, .control (controlBody ⟨1, 1⟩), switchedOnAfter, split, opened, none_later⟩
    (by decide +kernel) (by decide +kernel) 0

end ServerPump
