/-
**The history page and the server behind it.**

An event of the page may send a request, for the dates chosen at that time. Its answer is read when it is
there (`arrive`), unless the connection fails first (`fail`); any number of requests may be open, those of
other clients among them, and they may be answered in any order. A request that fails may still be handled.
-/

import ServerPump.Server.Daemon
import ServerPump.Web.HistoryAnswer

namespace ServerPump

structure HistorySession where
  page : HistoryPage := {}
  daemon : Daemon := {}
  /-- the numbers of the open requests, in the order of `page.inFlight` -/
  sent : List ℕ := []

inductive SessionLabel
  /-- something happens at the server, or at another client -/
  | daemon (label : DaemonLabel)
  /-- the user does something, or a timer fires -/
  | event (event : HistoryEvent)
  /-- the answer to an open request is there -/
  | arrive (index : ℕ)
  /-- an open request fails -/
  | fail (index : ℕ)

/-- `fetch(apiUrl)` -/
def historyRequest (dates : DateRange) : Request where
  method := "GET"
  url := "/api/pump/history"
  arguments := historyArguments dates

/-- The events that are answers. -/
def HistoryEvent.isResponse : HistoryEvent → Bool
  | .respond _ _ => true
  | _ => false

namespace HistorySession

/-- The dates of the request that an event has sent. -/
def asked (before after : HistoryPage) : Option DateRange :=
  (after.inFlight.drop before.inFlight.length).head?

def event (browser : Browser) (event : HistoryEvent) (session : HistorySession) : HistorySession :=
  let page := historyStep browser session.page event
  match asked session.page page with
  | some dates =>
    { page := page
      daemon := session.daemon.openRequest (historyRequest dates)
      sent := session.sent ++ [session.daemon.opened] }
  | none => { session with page := page }

/-- An open request comes to something. -/
def respond (browser : Browser) (index : ℕ) (response : Response) (session : HistorySession) :
    HistorySession :=
  { session with
    page := historyStep browser session.page (.respond index response)
    sent := session.sent.eraseIdx index }

def arrive (browser : Browser) (index : ℕ) (session : HistorySession) : HistorySession :=
  match session.sent[index]? with
  | some id =>
    match session.daemon.requests id with
    | .answered answer =>
      { session.respond browser index (resJson answer.body) with daemon := session.daemon.receive id }
    | _ => session
  | none => session

def next (jsonC : JsonC) (sqlite : Sqlite) (browser : Browser) (session : HistorySession) :
    SessionLabel → HistorySession
  | .daemon label => { session with daemon := session.daemon.next jsonC sqlite label }
  | .event event => if event.isResponse then session else session.event browser event
  | .arrive index => session.arrive browser index
  | .fail index => if index < session.sent.length then session.respond browser index .failed else session

end HistorySession

end ServerPump
