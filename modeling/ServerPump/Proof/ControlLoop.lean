/-
**A control goes through the broker: nothing is lost, and a repetition does no harm.**

A command reaches the pumps only as a message, and the broker may deliver a message more than once. Each
message sets a register or leaves it alone, so that it makes up for its own repetition; what the POSTs do
in the meantime touches no register that messages set.

* `sets_messageCalls`: what a message sets.
* `receives_next`: the invariant. Each register, with what the callback has still to do, is that of a
  receiver of its topic.
* `messages_determine_registers`: when everything published has been delivered, the live commands,
  `busy` and `alarm` are those of the last message that set them, however often each was delivered.
-/

import ServerPump.Proof.Observation
import ServerPump.Proof.OwnRegisters
import ServerPump.Server.Broker

namespace ServerPump

open CText ChangeLog Redelivery

/-! ### What a message sets -/

section Messages

variable (jsonC : JsonC)

/-- The command for a pump in a control message. -/
def commandFor (pump : Pump) (payload : List UInt8) : Option Int32 := do
  let parsed ← jsonC.tokenerParse (mqttPayload payload)
  let pumpId ← jsonC.objectGetEx parsed "pump_id"
  let state ← jsonC.objectGetEx parsed "state"
  if jsonC.getInt pumpId = pump.id then some (jsonC.getInt state) else none

/-- The value of `busy` a feedback message sets. -/
def busyIn (payload : List UInt8) : Option Int32 :=
  (jsonC.tokenerParse (mqttPayload payload)).bind (newBusy jsonC)

/-- The value of `alarm` a feedback message sets. -/
def alarmIn (payload : List UInt8) : Option Int32 :=
  (jsonC.tokenerParse (mqttPayload payload)).bind (newAlarm jsonC)

/-- The topic whose messages set a register. -/
def Register.topic : Register → Topic
  | .of .commands _ => .control
  | _ => .feedback

/-- The value a message of its topic sets a register to. -/
def Register.setBy : Register → List UInt8 → Option Int32
  | .of .commands pump => commandFor jsonC pump
  | .of .feedback _ => fun _ => none
  | .busy => busyIn jsonC
  | .alarm => alarmIn jsonC

/-- The value a call sets a register to. -/
def Call.sets (register : Register) : Call → Option Int32
  | .update made => made.puts register
  | .fillSystem busy alarm =>
    match register with
    | .busy => busy
    | .alarm => alarm
    | .of _ _ => none

theorem value_callSettle (register : Register) (fields : PumpFields) (call : Call) :
    register.value (call.settle fields) = assign (Call.sets register) (register.value fields) call := by
  cases call with
  | update made => exact value_write made fields register
  | fillSystem busy alarm =>
    show register.value ((Update.system (busy.getD fields.busy) (alarm.getD fields.alarm)).write fields) = _
    rw [value_write]
    cases register with
    | of table pump => cases table <;> rfl
    | busy => rfl
    | alarm => rfl

/-- **A register after some calls** has the value set last. -/
theorem value_settle (register : Register) (calls : List Call) (fields : PumpFields) :
    register.value (settle calls fields) =
      replay (register.value fields) (calls.filterMap (Call.sets register)) := by
  rw [← run_assign]
  exact @Runs.run_map _ _ _ _ _ register.value (value_callSettle register) fields calls

theorem sets_controlCalls (register : Register) (own : register.MqttOnly) (payload : List UInt8) :
    (controlCalls jsonC (mqttPayload payload)).filterMap (Call.sets register) =
      (if Topic.control = register.topic then register.setBy jsonC payload else none).toList := by
  have reads : controlCalls jsonC (mqttPayload payload) = [] ∧
        (∀ pump, commandFor jsonC pump payload = none) ∨
      ∃ pumpId state, controlCalls jsonC (mqttPayload payload) = [.update (.command pumpId state)] ∧
        ∀ pump, commandFor jsonC pump payload = if pumpId = pump.id then some state else none := by
    unfold controlCalls commandFor
    cases jsonC.tokenerParse (mqttPayload payload) with
    | none => exact .inl ⟨rfl, fun _ => rfl⟩
    | some parsed =>
      simp only [Option.bind_eq_bind, Option.bind_some]
      cases jsonC.objectGetEx parsed "pump_id" with
      | none => exact .inl ⟨rfl, fun _ => rfl⟩
      | some pumpId =>
        cases jsonC.objectGetEx parsed "state" with
        | none => exact .inl ⟨rfl, fun _ => rfl⟩
        | some state => exact .inr ⟨_, _, rfl, fun _ => rfl⟩
  rcases reads with ⟨nothing, none_⟩ | ⟨pumpId, state, one, some_⟩
  · rw [nothing]
    cases register with
    | of table pump =>
      cases table with
      | commands =>
        show [] = (commandFor jsonC pump payload).toList
        rw [none_, Option.toList_none]
      | feedback => rfl
    | busy => rfl
    | alarm => rfl
  · rw [one]
    cases register with
    | of table pump =>
      cases table with
      | commands =>
        show _ = (commandFor jsonC pump payload).toList
        rw [some_]
        by_cases this : pumpId = pump.id <;> simp [Call.sets, Update.puts, this]
      | feedback => exact absurd rfl (own pump)
    | busy => rfl
    | alarm => rfl

theorem sets_systemCalls (register : Register) (parsed : jsonC.Value) :
    (systemCalls jsonC parsed).filterMap (Call.sets register) =
      (Call.sets register (.fillSystem (newBusy jsonC parsed) (newAlarm jsonC parsed))).toList := by
  unfold systemCalls
  by_cases given : (newBusy jsonC parsed).isSome ∨ (newAlarm jsonC parsed).isSome
  · rw [if_pos given]
    cases set : Call.sets register (.fillSystem (newBusy jsonC parsed) (newAlarm jsonC parsed)) with
    | none => rw [List.filterMap_cons_none set]; rfl
    | some value => rw [List.filterMap_cons_some set]; rfl
  · rw [if_neg given]
    obtain ⟨busy, alarm⟩ := not_or.mp given
    rw [Option.not_isSome_iff_eq_none.mp busy, Option.not_isSome_iff_eq_none.mp alarm]
    cases register <;> rfl

theorem sets_statusCalls {register : Register} (own : register.MqttOnly) (parsed : jsonC.Value) :
    (statusCalls jsonC parsed).filterMap (Call.sets register) = [] := by
  rcases statusCalls_cases jsonC parsed with nothing | ⟨pumpId, status, one⟩
  · rw [nothing]
    rfl
  · rw [one]
    exact List.filterMap_cons_none (puts_feedback own)

/-- **What a message sets.** -/
theorem sets_messageCalls {register : Register} (own : register.MqttOnly) (topic : Topic)
    (payload : List UInt8) :
    (messageCalls jsonC topic.name payload).filterMap (Call.sets register) =
      (if topic = register.topic then register.setBy jsonC payload else none).toList := by
  cases topic with
  | heartbeat =>
    rw [if_neg (by cases register with
      | of table pump => cases table <;> exact nofun
      | busy => exact nofun
      | alarm => exact nofun)]
    rfl
  | control => exact sets_controlCalls jsonC register own payload
  | feedback =>
    rw [show messageCalls jsonC Topic.feedback.name payload = _ from messageCalls_feedback jsonC payload]
    cases parses : jsonC.tokenerParse (mqttPayload payload) with
    | none =>
      cases register with
      | of table pump => cases table <;> rfl
      | busy => rw [show Register.setBy jsonC .busy payload = none by
          rw [Register.setBy, busyIn, parses]; rfl]; rfl
      | alarm => rw [show Register.setBy jsonC .alarm payload = none by
          rw [Register.setBy, alarmIn, parses]; rfl]; rfl
    | some parsed =>
      dsimp only
      rw [List.filterMap_append, sets_statusCalls jsonC own, List.nil_append, sets_systemCalls]
      cases register with
      | of table pump =>
        cases table with
        | commands => rfl
        | feedback => exact absurd rfl (own pump)
      | busy =>
        show (newBusy jsonC parsed).toList = (busyIn jsonC payload).toList
        rw [busyIn, parses, Option.bind_some]
      | alarm =>
        show (newAlarm jsonC parsed).toList = (alarmIn jsonC payload).toList
        rw [alarmIn, parses, Option.bind_some]

end Messages

/-! ### The registers, with what the callback has still to do -/

/-- The value of a register once the callback has made the calls it has still to make. -/
def Machine.pending (register : Register) (machine : Machine) : Int32 :=
  register.value (settle (machine.threads .mqtt).calls machine.side.current.toPumpFields)

/-- The HTTP thread has no calls to make but those of its POSTs. -/
def PostsOnly (machine : Machine) : Prop :=
  ∀ call ∈ (machine.threads .http).calls, ∃ pumpId status, call = .update (.feedback pumpId status)

section Turns

variable (jsonC : JsonC) {machine : Machine} {register : Register}

theorem sets_postCalls (own : register.MqttOnly) (payload : List UInt8) :
    (postCalls jsonC payload).filterMap (Call.sets register) = [] := by
  refine List.filterMap_eq_nil_iff.mpr fun call member => ?_
  obtain ⟨pumpId, status, rfl⟩ := (feedbackOnly_postCalls jsonC payload).2 call member
  exact puts_feedback own

/-- A POST that is taken sets no register of messages. -/
theorem sets_takesPost (machine : Machine) (own : register.MqttOnly) (payload : List UInt8) :
    ((machine.takes (.post payload)).toList.flatMap (Input.calls jsonC)).filterMap
      (Call.sets register) = [] := by
  refine List.filterMap_eq_nil_iff.mpr fun call member => ?_
  obtain ⟨input, taken, isCall⟩ := List.mem_flatMap.mp member
  have isPost : input = .feedbackPost payload :=
    (Option.some.inj (Option.filter_eq_some_iff.mp (Option.mem_toList.mp taken)).1).symm
  subst isPost
  exact List.filterMap_eq_nil_iff.mp (sets_postCalls jsonC own payload) call isCall

theorem pending_of_waiting (waiting : machine.Waiting .mqtt) (register : Register) :
    machine.pending register = register.value machine.side.current.toPumpFields := by
  rw [Machine.pending, show machine.threads .mqtt = {} from waiting]
  rfl

/-- The HTTP thread moves on; the registers of messages keep their values. -/
theorem pending_http {side : PumpSide} {state : ThreadState}
    (same : register.value side.current.toPumpFields =
      register.value machine.side.current.toPumpFields) :
    (machine.become .http side state).pending register = machine.pending register := by
  rw [Machine.pending, Machine.pending, Machine.become_side, value_settle, value_settle, same,
    show (machine.become .http side state).threads .mqtt = machine.threads .mqtt from
      Machine.become_other .http side state machine]

theorem pending_mqtt (side : PumpSide) (state : ThreadState) :
    (machine.become .mqtt side state).pending register =
      register.value (settle state.calls side.current.toPumpFields) := by
  rw [Machine.pending, Machine.become_side, Machine.become_self]

/-- The MQTT thread moves on. -/
theorem postsOnly_mqtt {side : PumpSide} {state : ThreadState} (posts : PostsOnly machine) :
    PostsOnly (machine.become .mqtt side state) := by
  unfold PostsOnly
  rw [show (machine.become .mqtt side state).threads .http = machine.threads .http from
    Machine.become_other .mqtt side state machine]
  exact posts

theorem postsOnly_http {side : PumpSide} {state : ThreadState}
    (own : ∀ call ∈ state.calls, ∃ pumpId status, call = .update (.feedback pumpId status)) :
    PostsOnly (machine.become .http side state) := by
  unfold PostsOnly
  rw [Machine.become_self]
  exact own

/-- **A turn of the machine** leaves a register as it will be, but for what a message that is taken
sets. -/
theorem pending_moves {turn : Turn} {moved : Machine} (own : register.MqttOnly)
    (posts : PostsOnly machine) (moves : machine.Moves jsonC turn moved) :
    PostsOnly moved ∧ moved.pending register = replay (machine.pending register)
      (((machine.takes turn.label).toList.flatMap (Input.calls jsonC)).filterMap (Call.sets register)) := by
  cases moves with
  | take input takes waiting =>
    rw [takes, Option.toList_some, List.flatMap_singleton]
    cases input with
    | mqtt topicName payload =>
      refine ⟨postsOnly_mqtt posts, ?_⟩
      rw [show Input.thread (.mqtt topicName payload) = .mqtt from rfl, pending_mqtt,
        pending_of_waiting waiting, value_settle]
    | feedbackPost payload =>
      refine ⟨postsOnly_http (feedbackOnly_postCalls jsonC payload).2, ?_⟩
      rw [show Input.thread (.feedbackPost payload) = .http from rfl, pending_http rfl,
        show Input.calls jsonC (.feedbackPost payload) = postCalls jsonC payload from rfl,
        sets_postCalls jsonC own]
      rfl
  | stay takes =>
    rw [takes]
    exact ⟨posts, rfl⟩
  | inside thread side branch takes busy current logged =>
    rw [takes]
    cases thread with
    | mqtt =>
      refine ⟨postsOnly_mqtt posts, ?_⟩
      rw [pending_mqtt, current]
      rfl
    | http =>
      refine ⟨postsOnly_http posts, pending_http ?_⟩
      rw [current]
  | opens thread now update calls here =>
    cases thread with
    | mqtt =>
      refine ⟨postsOnly_mqtt posts, ?_⟩
      rw [Machine.openUpdate, pending_mqtt, Machine.pending, here]
      rfl
    | http =>
      have feedback := posts (.update update) (by rw [here]; exact List.mem_cons_self)
      obtain ⟨pumpId, status, same⟩ := feedback
      cases same
      refine ⟨postsOnly_http fun call member =>
        posts call (by rw [here]; exact List.mem_cons_of_mem _ member), ?_⟩
      exact pending_http (value_setStatus pumpId status machine.side.current.toPumpFields own)
  | fills thread busy alarm calls takes here =>
    rw [takes]
    cases thread with
    | mqtt =>
      refine ⟨postsOnly_mqtt posts, ?_⟩
      rw [Machine.fillSystem, pending_mqtt, Machine.pending, here]
      rfl
    | http =>
      obtain ⟨pumpId, status, same⟩ := posts (.fillSystem busy alarm) (by rw [here]; exact List.mem_cons_self)
      cases same

end Turns

/-! ### The world -/

/-- The invariant: each register is that of a receiver of its topic. -/
structure Receives (jsonC : JsonC) (world : World) : Prop where
  posts : PostsOnly world.machine
  registers : ∀ register : Register, register.MqttOnly →
    Keeps (assign (register.setBy jsonC)) 0 (world.channels register.topic)
      (world.machine.pending register)

section Worlds

variable {jsonC : JsonC} {world : World}

theorem receives_initial (jsonC : JsonC) : Receives jsonC {} where
  posts := nofun
  registers register _ := by
    have zero : Machine.pending register {} = 0 := by
      cases register with
      | of table pump => cases table <;> cases pump <;> rfl
      | busy => rfl
      | alarm => rfl
    rw [zero]
    exact keeps_initial _ 0

theorem channels_onChannel (topic other : Topic) (change : Channel (List UInt8) → Channel (List UInt8))
    (world : World) :
    (world.onChannel topic change).channels other =
      if topic = other then change (world.channels other) else world.channels other := by
  by_cases same : topic = other
  · subst same
    rw [if_pos rfl]
    exact Function.update_self _ _ _
  · rw [if_neg same]
    exact Function.update_of_ne (Ne.symm same) _ _

/-- What keeps every receiver may happen on a channel. -/
theorem receives_onChannel (receives : Receives jsonC world) (topic : Topic)
    {change : Channel (List UInt8) → Channel (List UInt8)}
    (kept : ∀ (register : Register) (value : Int32) (channel : Channel (List UInt8)),
      Keeps (assign (register.setBy jsonC)) 0 channel value →
        Keeps (assign (register.setBy jsonC)) 0 (change channel) value) :
    Receives jsonC (world.onChannel topic change) where
  posts := receives.posts
  registers register own := by
    rw [channels_onChannel]
    split
    · exact kept register _ _ (receives.registers register own)
    · exact receives.registers register own

/-- A turn that takes no message. -/
theorem receives_onMachine (receives : Receives jsonC world) {turn : Turn}
    (unset : ∀ register : Register, register.MqttOnly →
      ((world.machine.takes turn.label).toList.flatMap (Input.calls jsonC)).filterMap
        (Call.sets register) = []) :
    Receives jsonC (world.onMachine jsonC turn) where
  posts := (pending_moves jsonC mqttOnly_busy receives.posts
    (moves_turn jsonC world.machine turn)).1
  registers register own := by
    have pending := (pending_moves jsonC own receives.posts (moves_turn jsonC world.machine turn)).2
    rw [unset register own] at pending
    show Keeps _ 0 (world.channels register.topic) ((world.machine.turn jsonC turn).pending register)
    rw [pending]
    exact receives.registers register own

/-- **A message is delivered**, perhaps not for the first time. -/
theorem receives_deliver (receives : Receives jsonC world) (topic : Topic) :
    Receives jsonC (world.deliver jsonC topic) := by
  unfold World.deliver
  cases next : (world.channels topic).next? with
  | none => exact receives
  | some payload =>
    dsimp only
    by_cases waiting : world.machine.Waiting .mqtt
    · rw [if_pos waiting]
      have takes : world.machine.takes (.message topic.name payload) =
          some (.mqtt topic.name payload) := by
        rw [Machine.takes]
        exact Option.filter_eq_some_iff.mpr ⟨rfl, decide_eq_true waiting⟩
      have moves := moves_turn jsonC world.machine ⟨.message topic.name payload, true⟩
      refine ⟨(pending_moves jsonC mqttOnly_busy receives.posts moves).1,
        fun register own => ?_⟩
      have pending := (pending_moves jsonC own receives.posts moves).2
      rw [takes, Option.toList_some, List.flatMap_singleton,
        show Input.calls jsonC (.mqtt topic.name payload) = messageCalls jsonC topic.name payload from rfl,
        sets_messageCalls jsonC own] at pending
      have keeps := receives.registers register own
      rw [channels_onChannel]
      show Keeps _ 0 _ ((world.machine.turn jsonC ⟨.message topic.name payload, true⟩).pending register)
      rw [pending]
      by_cases same : topic = register.topic
      · subst same
        rw [if_pos rfl, if_pos rfl]
        have delivered := keeps_deliver (overwriting_assign _) keeps next
        rw [assign] at delivered
        cases set : register.setBy jsonC payload with
        | none =>
          rw [set] at delivered
          exact delivered
        | some value =>
          rw [set] at delivered
          exact delivered
      · rw [if_neg same, if_neg same]
        exact keeps
    · rw [if_neg waiting]
      exact receives

/-- **The invariant is kept by everything that happens.** -/
theorem receives_next (jsonC : JsonC) (world : World) (label : WorldLabel)
    (receives : Receives jsonC world) : Receives jsonC (world.next jsonC label) := by
  cases label with
  | publish topic payload =>
    exact receives_onChannel receives topic fun _ _ _ keeps => keeps_publish keeps payload
  | controlPost payload published =>
    unfold World.next
    dsimp only
    split
    · exact receives_onChannel receives .control fun _ _ _ keeps => keeps_publish keeps payload
    · exact receives
  | feedbackPost payload =>
    exact receives_onMachine receives fun register own =>
      sets_takesPost jsonC world.machine own payload
  | deliver topic => exact receives_deliver receives topic
  | acknowledge topic => exact receives_onChannel receives topic fun _ _ _ => keeps_acknowledge
  | resend topic => exact receives_onChannel receives topic fun _ _ _ => keeps_resend
  | step thread now inserted => exact receives_onMachine receives fun _ _ => rfl
  | publishStatus => exact ⟨receives.posts, receives.registers⟩

/-- **A register, once everything has been delivered and handled**, has the value set last. -/
theorem value_of_receives (receives : Receives jsonC world) (waiting : world.machine.Waiting .mqtt)
    {register : Register} (own : register.MqttOnly) (caughtUp : (world.channels register.topic).CaughtUp) :
    register.value world.machine.side.current.toPumpFields =
      replay 0 ((world.channels register.topic).sent.filterMap (register.setBy jsonC)) := by
  have state := state_of_keeps (receives.registers register own) caughtUp
  rwa [run_assign, pending_of_waiting waiting] at state

end Worlds

/-- **The law**: once everything published on a topic has been delivered and handled, the fields its
messages set are those of the last message that set them. -/
structure LastMessageHolds (jsonC : JsonC) (world : World) : Prop where
  commands : (world.channels .control).CaughtUp → ∀ pump : Pump,
    world.machine.side.current.commandOf pump.id =
      replay 0 ((world.channels .control).sent.filterMap (commandFor jsonC pump))
  busy : (world.channels .feedback).CaughtUp →
    world.machine.side.current.busy =
      replay 0 ((world.channels .feedback).sent.filterMap (busyIn jsonC))
  alarm : (world.channels .feedback).CaughtUp →
    world.machine.side.current.alarm =
      replay 0 ((world.channels .feedback).sent.filterMap (alarmIn jsonC))

/-- **No command is lost in the broker**, and none counts twice: whatever is delivered how often, and
whatever is posted in the meantime. -/
theorem messages_determine_registers (jsonC : JsonC) (labels : List WorldLabel)
    (waiting : (Runs.run (World.next jsonC) {} labels).machine.Waiting .mqtt) :
    LastMessageHolds jsonC (Runs.run (World.next jsonC) {} labels) := by
  have receives : Receives jsonC (Runs.run (World.next jsonC) {} labels) :=
    Runs.invariant_run (receives_next jsonC) (receives_initial jsonC) labels
  exact ⟨fun caughtUp pump => value_of_receives receives waiting (mqttOnly_commands pump) caughtUp,
    value_of_receives receives waiting mqttOnly_busy,
    value_of_receives receives waiting mqttOnly_alarm⟩

/-- Pump 1 is switched on and off, and the broker delivers both commands again. -/
def redeliveredCommands : List WorldLabel :=
  let on := ascii "\x7b\"pump_id\":1,\"state\":1\x7d"
  let off := ascii "\x7b\"pump_id\":1,\"state\":0\x7d"
  let handled := List.replicate 5 (WorldLabel.step .mqtt 100 true)
  [.controlPost on true, .publish .control off, .deliver .control] ++ handled ++
    [.deliver .control] ++ handled ++ [.resend .control, .deliver .control] ++ handled ++
    [.acknowledge .control, .deliver .control] ++ handled

theorem messages_determine_redelivered :
    (Runs.run (World.next JsonC.reference) {} redeliveredCommands).machine.Waiting .mqtt ∧
      LastMessageHolds JsonC.reference (Runs.run (World.next JsonC.reference) {} redeliveredCommands) := by
  have waiting : (Runs.run (World.next JsonC.reference) {} redeliveredCommands).machine.Waiting .mqtt := by
    decide +kernel
  exact ⟨waiting, messages_determine_registers JsonC.reference redeliveredCommands waiting⟩

end ServerPump
