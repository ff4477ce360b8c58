/-
**The status page and the server behind it.**

`loadStatus` and `control` are two steps each. Up to the first `await` they send a request; when its
answer is there the rest of them runs (`arrive`): `loadStatus` draws the panel, `control` starts the timer
of another `loadStatus`. Any number of requests may be open, those of other clients among them, and they
may be answered in any order. A request that fails draws nothing.

The buttons are those of the cards drawn last; before the first answer there are none.
-/

import ServerPump.Server.Daemon
import ServerPump.Web.PumpCards

namespace ServerPump

structure StatusPage where
  daemon : Daemon := {}
  /-- the open requests of `loadStatus` -/
  polls : List ℕ := []
  /-- the open requests of `control` -/
  controls : List ℕ := []
  /-- the timers of `control` -/
  timers : ℕ := 0
  /-- the panel, with the request it answers -/
  panel : Option (ℕ × StatusPanel) := none

inductive StatusLabel
  /-- something happens at the server, or at another client -/
  | daemon (label : DaemonLabel)
  /-- the two seconds are over -/
  | poll
  | timer
  /-- a button is pressed -/
  | click (control : PumpControl)
  /-- an answer is there -/
  | arrive (id : ℕ) (now : ℤ)

/-- `fetch(API + '/api/pump/status')` -/
def statusRequest : Request where
  method := "GET"
  url := "/api/pump/status"

/-- The request of `control`. -/
def controlRequest (control : PumpControl) : Request where
  method := "POST"
  url := "/api/pump/control"
  upload := controlBody control

/-- The calls behind the buttons. -/
def StatusPanel.buttons (panel : StatusPanel) : List PumpControl :=
  [panel.pump1.turnOn, panel.pump1.turnOff, panel.pump2.turnOn, panel.pump2.turnOff]

namespace StatusPage

def loadStatus (page : StatusPage) : StatusPage :=
  { page with
    daemon := page.daemon.openRequest statusRequest
    polls := page.polls ++ [page.daemon.opened] }

def control (control : PumpControl) (page : StatusPage) : StatusPage :=
  { page with
    daemon := page.daemon.openRequest (controlRequest control)
    controls := page.controls ++ [page.daemon.opened] }

/-- The rest of `loadStatus`, or of `control`. -/
def arrive (id : ℕ) (now : ℤ) (page : StatusPage) : StatusPage :=
  match page.daemon.requests id with
  | .answered answer =>
    if id ∈ page.polls then
      { page with
        daemon := page.daemon.receive id
        polls := page.polls.erase id
        panel := ((drawStatus now answer.body).map fun panel => (id, panel)).or page.panel }
    else if id ∈ page.controls then
      { page with
        daemon := page.daemon.receive id
        controls := page.controls.erase id
        timers := page.timers + 1 }
    else page
  | _ => page

def next (jsonC : JsonC) (sqlite : Sqlite) (page : StatusPage) : StatusLabel → StatusPage
  | .daemon label => { page with daemon := page.daemon.next jsonC sqlite label }
  | .poll => page.loadStatus
  | .timer => if page.timers = 0 then page else { page.loadStatus with timers := page.timers - 1 }
  | .click control => if control ∈ page.panel.elim [] fun shown => shown.2.buttons then page.control control else page
  | .arrive id now => page.arrive id now

end StatusPage

end ServerPump
