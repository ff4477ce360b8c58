/-
**The broker between the HTTP handler and the callback.**

A POST to `/api/pump/control` changes nothing itself: `handle_pump_control` publishes its body under
`pump/control`, to which the server is subscribed as well, and the callback thread handles what the
broker brings back. Other clients publish under the same topics.

The subscriptions have quality of service 1. The broker keeps the messages of a topic in order and
delivers each at least once: it may go back to the first that is not acknowledged, and deliver from
there again. The callback takes a message when it has finished the one before it.

The publisher thread puts the live state under `pump/status`, where the broker retains the last one.

The callback thread handles heartbeats among its other messages, and keeps what they report in globals of
their own, to which nothing else writes. What a poll reads of them is written in one critical section, so that
a heartbeat is handled here as it is taken, while the updates of the pumps go step by step.
-/

import ServerPump.Library.Redelivery
import ServerPump.Server.HttpApi
import ServerPump.Server.Lifetimes

namespace ServerPump

open Redelivery

/-- The subscriptions of `mqtt_subscriber_thread`. -/
inductive Topic
  | heartbeat
  | control
  | feedback
  deriving DecidableEq

def Topic.name : Topic → String
  | heartbeat => "gateway/heartbeat"
  | control => "pump/control"
  | feedback => "pump/feedback"

/-- The two threads of the server, and the broker. -/
structure World where
  machine : Machine := {}
  channels : Topic → Channel (List UInt8) := fun _ => {}
  /-- the retained message under `pump/status` -/
  pumpStatus : Option (List UInt8) := none

/-- What happens next. -/
inductive WorldLabel
  /-- another client publishes -/
  | publish (topic : Topic) (payload : List UInt8)
  /-- the end of a POST to `/api/pump/control` -/
  | controlPost (payload : List UInt8) (published : Bool)
  /-- the end of a POST to `/api/pump/feedback` -/
  | feedbackPost (payload : List UInt8)
  | deliver (topic : Topic)
  | acknowledge (topic : Topic)
  | resend (topic : Topic)
  /-- a thread takes its next step -/
  | step (thread : Thread) (now : Int64) (inserted : Bool)
  /-- the publisher thread comes round -/
  | publishStatus
  deriving DecidableEq

namespace World

def onChannel (topic : Topic) (change : Channel (List UInt8) → Channel (List UInt8)) (world : World) :
    World :=
  { world with channels := Function.update world.channels topic (change (world.channels topic)) }

def onMachine (jsonC : JsonC) (turn : Turn) (world : World) : World :=
  { world with machine := world.machine.turn jsonC turn }

/-- The callback takes the next message of a topic. -/
def deliver (jsonC : JsonC) (topic : Topic) (world : World) : World :=
  match (world.channels topic).next? with
  | some payload =>
    if world.machine.Waiting .mqtt then
      (world.onMachine jsonC ⟨.message topic.name payload, true⟩).onChannel topic Channel.advance
    else world
  | none => world

def next (jsonC : JsonC) (world : World) : WorldLabel → World
  | .publish topic payload => world.onChannel topic (Channel.publish payload)
  | .controlPost payload published =>
    if world.machine.Waiting .http ∧ published then
      world.onChannel .control (Channel.publish payload)
    else world
  | .feedbackPost payload => world.onMachine jsonC ⟨.post payload, true⟩
  | .deliver topic => world.deliver jsonC topic
  | .acknowledge topic => world.onChannel topic Channel.acknowledge
  | .resend topic => world.onChannel topic Channel.resend
  | .step thread now inserted => world.onMachine jsonC ⟨.step thread now, inserted⟩
  | .publishStatus => { world with pumpStatus := some (publisherPayload world.machine.side.current) }

end World

/-! ### The gateway -/

structure GatewayWorld where
  world : World := {}
  gateway : GatewaySide := {}

namespace GatewayWorld

/-- The heartbeat that the callback takes, if it takes one. -/
def heard (label : WorldLabel) (state : GatewayWorld) : Option (List UInt8) :=
  match label with
  | .deliver .heartbeat =>
    if state.world.machine.Waiting .mqtt then (state.world.channels .heartbeat).next? else none
  | _ => none

/-- The second part of a label is what the environment answers to the callback. -/
def next (jsonC : JsonC) (state : GatewayWorld) (label : WorldLabel × UpdateIo) : GatewayWorld where
  world := state.world.next jsonC label.1
  gateway :=
    match state.heard label.1 with
    | some payload => gatewayHeartbeat jsonC label.2 (mqttPayload payload) state.gateway
    | none => state.gateway

end GatewayWorld

end ServerPump
