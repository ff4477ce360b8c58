/-
**One row for each command.**

Behind the broker, each command that is published is opened by the callback once, as long as nothing is
delivered twice, and the change detector then decides whether it gets a row. The detector compares with
the command before it, so that the rows are the published commands without their repetitions.

* `opening_next`: the commands the callback opens and those it has still to make are those it was given.
* `deliveredOnce_next`: the invariant, with the commands opened so far.
* `commands_logged_once`: when everything is delivered and handled, the rows of a pump in `pump_commands`
  are the changes among the commands published for it, in their order.
-/

import ServerPump.Proof.ControlLoop

namespace ServerPump

open CText ChangeLog Redelivery

/-! ### What the callback opens -/

section Rows

variable {jsonC : JsonC} {machine : Machine}

/-- The HTTP thread leaves the MQTT thread where it is. -/
theorem advance_http_mqtt (machine : Machine) (now : Int64) :
    (machine.advance .http now).threads .mqtt = machine.threads .mqtt := by
  have stays : ∀ side state, (machine.become .http side state).threads .mqtt = machine.threads .mqtt :=
    fun side state => Machine.become_other .http side state machine
  unfold Machine.advance
  rcases machine.threads .http with ⟨_ | ⟨update, stage⟩, calls⟩
  · rcases calls with _ | ⟨update | ⟨busy, alarm⟩, calls⟩
    · rfl
    · exact stays _ _
    · exact stays _ _
  · cases stage <;> exact stays _ _

/-- The commands opened at a step and those still to be made are those before it and those taken. -/
theorem opening_next (jsonC : JsonC) (machine : Machine) (label : Label) (pump : Pump) :
    valuesOf pump (machine.opening label).toList ++
        ((machine.next jsonC label).threads .mqtt).calls.filterMap (Call.sets (.of .commands pump)) =
      (machine.threads .mqtt).calls.filterMap (Call.sets (.of .commands pump)) ++
        ((machine.takes label).toList.flatMap (Input.calls jsonC)).filterMap
          (Call.sets (.of .commands pump)) := by
  cases label with
  | message topicName payload =>
    rw [show machine.opening (.message topicName payload) = none from rfl]
    by_cases waiting : machine.Waiting .mqtt
    · have takes : machine.takes (.message topicName payload) = some (.mqtt topicName payload) :=
        Option.filter_eq_some_iff.mpr ⟨rfl, decide_eq_true waiting⟩
      rw [takes, Machine.next, if_pos waiting, Machine.become_self,
        show machine.threads .mqtt = {} from waiting, Option.toList_some, List.flatMap_singleton]
      rfl
    · have takes : machine.takes (.message topicName payload) = none :=
        Option.filter_eq_none_iff.mpr fun input isInput => by
          cases isInput
          exact fun holds => waiting (of_decide_eq_true holds)
      rw [takes, Machine.next, if_neg waiting]
      exact (List.append_nil _).symm
  | post payload =>
    rw [show machine.opening (.post payload) = none from rfl]
    have stays : ((machine.next jsonC (.post payload)).threads .mqtt) = machine.threads .mqtt := by
      unfold Machine.next
      dsimp only
      split
      · exact Machine.become_other .http _ _ machine
      · rfl
    rw [sets_takesPost jsonC machine (mqttOnly_commands pump), stays, List.append_nil]
    rfl
  | step thread now =>
    rw [takes_step, Option.toList_none, List.flatMap_nil, List.filterMap_nil, List.append_nil]
    cases thread with
    | http =>
      rw [show machine.next jsonC (.step .http now) = machine.advance .http now from rfl,
        advance_http_mqtt]
      rfl
    | mqtt =>
      show valuesOf pump (machine.opening (.step .mqtt now)).toList ++
        ((machine.advance .mqtt now).threads .mqtt).calls.filterMap _ = _
      unfold Machine.opening Machine.advance
      rcases here : machine.threads .mqtt with ⟨_ | ⟨update, stage⟩, calls⟩
      · rcases calls with _ | ⟨update | ⟨busy, alarm⟩, calls⟩
        · dsimp only
          rw [here]
          rfl
        · dsimp only
          rw [Machine.openUpdate, Machine.become_self, valuesOf_command]
          rw [show update.puts (.of .commands pump) =
            Call.sets (.of .commands pump) (.update update) from rfl]
          cases sets : Call.sets (.of .commands pump) (.update update) with
          | none => exact (List.filterMap_cons_none sets).symm
          | some value => exact (List.filterMap_cons_some sets).symm
        · dsimp only
          rw [Machine.fillSystem, Machine.become_self]
          rfl
      · dsimp only
        cases stage <;> rw [Machine.branchStep, Machine.become_self] <;> rfl

end Rows

/-- The invariant while nothing is delivered twice: the commands opened, and those the callback has
still to make, are those of the messages delivered so far. -/
structure DeliveredOnce (jsonC : JsonC) (world : World) (opened : List (Int32 × Int32)) : Prop where
  recorded : OwnRecorded opened world.machine
  ordered : (world.channels .control).position ≤ (world.channels .control).sent.length
  commands : ∀ pump : Pump, valuesOf pump opened ++
      (world.machine.threads .mqtt).calls.filterMap (Call.sets (.of .commands pump)) =
    ((world.channels .control).sent.take (world.channels .control).position).filterMap
      (commandFor jsonC pump)

/-- A label that delivers nothing a second time, and whose insertion succeeds. -/
def WorldLabel.Plain : WorldLabel → Prop
  | .resend _ => False
  | .step _ _ inserted => inserted = true
  | _ => True

instance : DecidablePred WorldLabel.Plain := fun label => by
  cases label <;> unfold WorldLabel.Plain <;> infer_instance

section Plain

variable {jsonC : JsonC} {world : World} {opened : List (Int32 × Int32)}

/-- A turn that takes no control message. -/
theorem deliveredOnce_onMachine (delivered : DeliveredOnce jsonC world opened) (label : Label)
    (unset : ∀ pump : Pump, ((world.machine.takes label).toList.flatMap (Input.calls jsonC)).filterMap
      (Call.sets (.of .commands pump)) = []) :
    DeliveredOnce jsonC (world.onMachine jsonC ⟨label, true⟩)
      (opened ++ (world.machine.opening label).toList) where
  recorded := ownRecorded_next jsonC delivered.recorded label
  ordered := delivered.ordered
  commands pump := by
    have opening := opening_next jsonC world.machine label pump
    rw [unset pump, List.append_nil] at opening
    show valuesOf pump (opened ++ _) ++
      ((world.machine.next jsonC label).threads .mqtt).calls.filterMap _ = _
    rw [valuesOf_append, List.append_assoc, opening]
    exact delivered.commands pump

theorem deliveredOnce_publish (delivered : DeliveredOnce jsonC world opened) (topic : Topic)
    (payload : List UInt8) :
    DeliveredOnce jsonC (world.onChannel topic (Channel.publish payload)) opened where
  recorded := delivered.recorded
  ordered := by
    rw [channels_onChannel]
    split
    · show (world.channels .control).position ≤ ((world.channels .control).sent ++ [payload]).length
      rw [List.length_append]
      exact Nat.le_succ_of_le delivered.ordered
    · exact delivered.ordered
  commands pump := by
    rw [channels_onChannel]
    split
    · show _ = (((world.channels .control).sent ++ [payload]).take
        (world.channels .control).position).filterMap _
      rw [List.take_append_of_le_length delivered.ordered]
      exact delivered.commands pump
    · exact delivered.commands pump

theorem deliveredOnce_acknowledge (delivered : DeliveredOnce jsonC world opened) (topic : Topic) :
    DeliveredOnce jsonC (world.onChannel topic Channel.acknowledge) opened := by
  have same : ∀ channel : Channel (List UInt8), channel.acknowledge.sent = channel.sent ∧
      channel.acknowledge.position = channel.position := by
    intro channel
    unfold Channel.acknowledge
    split
    · exact ⟨rfl, rfl⟩
    · exact ⟨rfl, rfl⟩
  refine ⟨delivered.recorded, ?_, fun pump => ?_⟩
  · rw [channels_onChannel]
    split
    · rw [(same _).1, (same _).2]
      exact delivered.ordered
    · exact delivered.ordered
  · rw [channels_onChannel]
    split
    · rw [(same _).1, (same _).2]
      exact delivered.commands pump
    · exact delivered.commands pump

/-- **A message is delivered for the first time.** -/
theorem deliveredOnce_deliver (delivered : DeliveredOnce jsonC world opened) (topic : Topic) :
    ∃ more, DeliveredOnce jsonC (world.deliver jsonC topic) more := by
  unfold World.deliver
  cases next : (world.channels topic).next? with
  | none => exact ⟨opened, delivered⟩
  | some payload =>
    dsimp only
    by_cases waiting : world.machine.Waiting .mqtt
    · rw [if_pos waiting]
      have takes : world.machine.takes (.message topic.name payload) =
          some (.mqtt topic.name payload) :=
        Option.filter_eq_some_iff.mpr ⟨rfl, decide_eq_true waiting⟩
      have opening := opening_next jsonC world.machine (.message topic.name payload)
      rw [takes, Option.toList_some, List.flatMap_singleton,
        show Input.calls jsonC (.mqtt topic.name payload) = messageCalls jsonC topic.name payload from rfl]
        at opening
      have inside : (world.channels topic).position < (world.channels topic).sent.length :=
        (List.getElem?_eq_some_iff.mp next).1
      refine ⟨opened ++ (world.machine.opening (.message topic.name payload)).toList,
        ownRecorded_next jsonC delivered.recorded _, ?_, fun pump => ?_⟩
      · rw [channels_onChannel]
        split
        · rename_i isControl
          exact isControl ▸ inside
        · exact delivered.ordered
      · show valuesOf pump (opened ++ _) ++
          ((world.machine.next jsonC (.message topic.name payload)).threads .mqtt).calls.filterMap _ = _
        have opening := opening pump
        rw [sets_messageCalls jsonC (mqttOnly_commands pump)] at opening
        rw [valuesOf_append, List.append_assoc, opening, ← List.append_assoc, delivered.commands,
          channels_onChannel, show (Register.of .commands pump).topic = .control from rfl]
        by_cases isControl : topic = .control
        · subst isControl
          rw [if_pos rfl, if_pos rfl]
          show _ = ((world.channels .control).sent.take
            ((world.channels .control).position + 1)).filterMap _
          rw [List.take_add_one, List.filterMap_append,
            show (world.channels .control).sent[(world.channels .control).position]? = some payload from next]
          congr 1
        · rw [if_neg isControl, if_neg isControl, Option.toList_none, List.append_nil]
          rfl
    · rw [if_neg waiting]
      exact ⟨opened, delivered⟩

theorem deliveredOnce_next (label : WorldLabel) (plain : label.Plain)
    (delivered : ∃ opened, DeliveredOnce jsonC world opened) :
    ∃ opened, DeliveredOnce jsonC (world.next jsonC label) opened := by
  obtain ⟨opened, delivered⟩ := delivered
  cases label with
  | publish topic payload => exact ⟨opened, deliveredOnce_publish delivered topic payload⟩
  | controlPost payload published =>
    unfold World.next
    dsimp only
    split
    · exact ⟨opened, deliveredOnce_publish delivered .control payload⟩
    · exact ⟨opened, delivered⟩
  | feedbackPost payload =>
    exact ⟨_, deliveredOnce_onMachine delivered (.post payload) fun pump =>
      sets_takesPost jsonC world.machine (mqttOnly_commands pump) payload⟩
  | deliver topic => exact deliveredOnce_deliver delivered topic
  | acknowledge topic => exact ⟨opened, deliveredOnce_acknowledge delivered topic⟩
  | resend topic => exact absurd plain id
  | step thread now inserted =>
    obtain rfl : inserted = true := plain
    exact ⟨_, deliveredOnce_onMachine delivered (.step thread now) fun _ => rfl⟩
  | publishStatus => exact ⟨opened, delivered.recorded, delivered.ordered, delivered.commands⟩

end Plain

/-- **Each command published is logged once**, but for those that repeat the one before: where nothing
is delivered twice, the rows of a pump are the changes among the commands published for it. -/
theorem commands_logged_once (jsonC : JsonC) (labels : List WorldLabel)
    (plain : ∀ label ∈ labels, label.Plain)
    (waiting : (Runs.run (World.next jsonC) {} labels).machine.Waiting .mqtt)
    (caughtUp : ((Runs.run (World.next jsonC) {} labels).channels .control).CaughtUp) (pump : Pump) :
    valuesOf pump (Table.commands.rows
        (Runs.run (World.next jsonC) {} labels).machine.side.tables) =
      changes 0 (((Runs.run (World.next jsonC) {} labels).channels .control).sent.filterMap
        (commandFor jsonC pump)) := by
  have kept : ∀ (world : World) (label : WorldLabel), label.Plain →
      (∃ opened, DeliveredOnce jsonC world opened) →
        ∃ opened, DeliveredOnce jsonC (world.next jsonC label) opened :=
    fun _ label isPlain delivered => deliveredOnce_next label isPlain delivered
  have initial : ∃ opened, DeliveredOnce jsonC {} opened :=
    ⟨[], ownRecorded_initial, Nat.le_refl 0, fun _ => rfl⟩
  obtain ⟨opened, delivered⟩ := Runs.invariant_run_of_mem kept initial labels plain
  have rows := delivered.recorded.rows pump
  have commands := delivered.commands pump
  rw [show (Runs.run (World.next jsonC) {} labels).machine.threads .mqtt = {} from waiting] at rows commands
  rw [show ((Runs.run (World.next jsonC) {} labels).channels .control).position = _ from caughtUp,
    List.take_length] at commands
  rw [← commands]
  exact (List.append_nil _).symm.trans (rows.trans (congrArg (changes 0) (List.append_nil _).symm))

/-- Pump 1 is switched on twice, and then off. -/
def repeatedCommand : List WorldLabel :=
  let on := ascii "\x7b\"pump_id\":1,\"state\":1\x7d"
  let off := ascii "\x7b\"pump_id\":1,\"state\":0\x7d"
  let handled := List.replicate 5 (WorldLabel.step .mqtt 100 true)
  [.controlPost on true, .controlPost on true, .publish .control off, .deliver .control] ++ handled ++
    [.deliver .control] ++ handled ++ [.deliver .control] ++ handled

theorem commands_logged_repeatedCommand :
    let world := Runs.run (World.next JsonC.reference) {} repeatedCommand
    ((∀ label ∈ repeatedCommand, label.Plain) ∧ world.machine.Waiting .mqtt ∧
      (world.channels .control).CaughtUp) ∧
    valuesOf .one (Table.commands.rows world.machine.side.tables) =
      changes 0 ((world.channels .control).sent.filterMap (commandFor JsonC.reference .one)) := by
  have waiting : (Runs.run (World.next JsonC.reference) {} repeatedCommand).machine.Waiting .mqtt := by
    decide +kernel
  have caughtUp : ((Runs.run (World.next JsonC.reference) {} repeatedCommand).channels .control).CaughtUp := by
    decide +kernel
  have plain : ∀ label ∈ repeatedCommand, label.Plain := by decide +kernel
  exact ⟨⟨plain, waiting, caughtUp⟩,
    commands_logged_once JsonC.reference repeatedCommand plain waiting caughtUp .one⟩

end ServerPump
