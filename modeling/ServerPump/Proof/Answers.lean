/-
**What the server answers.**

Every answer is queued at the end of `handle_request`, with a status code that depends on the endpoint and
on the body of the request, and with a body that is printed from the live state or from the database.

* `parsed_pumpControl`, `parsed_pumpHistory`: the bodies that are printed are well formed.
* `served_answerOf`: one answer.
* `answers_served`: in every run, a request that is answered has the answer of its own endpoint; the page
  may read it whatever its origin, and it is well formed, except perhaps for the texts of the gateway.
-/

import ServerPump.Proof.Requests
import ServerPump.Proof.StatusTexts

namespace ServerPump

open CText JsonText Runs

/-! ### The law -/

/-- A body with the two members `handle_pump_feedback` asks for. -/
def feedbackReadable (jsonC : JsonC) (payload : List UInt8) : Bool :=
  (jsonC.tokenerParse payload).any fun parsed =>
    (jsonC.objectGetEx parsed "pump_id").isSome && (jsonC.objectGetEx parsed "status").isSome

/-- The status code for an endpoint. -/
def Endpoint.statusCode (jsonC : JsonC) : Endpoint → ℕ
  | .options => 204
  | .feedback payload => if feedbackReadable jsonC payload then 200 else 400
  | .notFound => 404
  | .notAllowed => 405
  | _ => 200

/-- The answer to a request that selects an endpoint: any page may read it, and it is JSON. The texts of a
gateway may break it. -/
structure Served (jsonC : JsonC) (endpoint : Endpoint) (answer : Answer) : Prop where
  crossOrigin : ("Access-Control-Allow-Origin", "*") ∈ answer.headers
  statusCode : answer.statusCode = endpoint.statusCode jsonC
  empty : endpoint = .options → answer.body = []
  json : endpoint ≠ .options → ("Content-Type", "application/json") ∈ answer.headers ∧
    (endpoint ≠ .gatewayStatus → (parse true answer.body).isSome)

/-- **The law**: an answer is that of the request's own endpoint. -/
structure AnswersServed (jsonC : JsonC) (events : List DaemonEvent) (daemon : Daemon) : Prop where
  served : ∀ (id : ℕ) (request : Request) (answer : Answer), (openings events)[id]? = some request →
    daemon.requests id = .answered answer →
      ∃ endpoint, Selected request endpoint ∧ Served jsonC endpoint answer

/-! ### The bodies -/

/-- The text `handle_pump_control` prints. -/
theorem controlText_eq (pump1 pump2 : ℤ) :
    ascii "\x7b\"status\":\"sent\",\"current_state\":\x7b\"pump1\":" ++ printInt pump1 ++
        ascii ",\"pump2\":" ++ printInt pump2 ++ ascii "\x7d\x7d" =
      renderObject [(ascii "status", 34 :: ascii "sent" ++ [34]),
        (ascii "current_state",
          renderObject [(ascii "pump1", printInt pump1), (ascii "pump2", printInt pump2)])] := by
  simp only [renderObject, renderMember, commaSep, List.map_cons, List.map_nil, List.append_assoc,
    List.cons_append, List.nil_append]
  rfl

theorem denotes_controlText (strict : Bool) (pump1 pump2 : ℤ) :
    Denotes strict 7
      (renderObject [(ascii "status", 34 :: ascii "sent" ++ [34]),
        (ascii "current_state",
          renderObject [(ascii "pump1", printInt pump1), (ascii "pump2", printInt pump2)])])
      (.obj [(ascii "status", .str (ascii "sent")),
        (ascii "current_state", .obj [(ascii "pump1", .num pump1 0), (ascii "pump2", .num pump2 0)])]) := by
  have plain : ∀ text ∈ [ascii "status", ascii "current_state", ascii "sent", ascii "pump1",
      ascii "pump2"], Verbatim strict text := by
    cases strict <;> decide
  have verbatimStatus : Verbatim strict (ascii "status") := plain _ (by decide)
  have verbatimState : Verbatim strict (ascii "current_state") := plain _ (by decide)
  have verbatimFirst : Verbatim strict (ascii "pump1") := plain _ (by decide)
  have verbatimSecond : Verbatim strict (ascii "pump2") := plain _ (by decide)
  have sent : Denotes strict 4 (34 :: ascii "sent" ++ [34]) (.str (ascii "sent")) :=
    (denotes_string (plain (ascii "sent") (by decide))).mono (by decide)
  have state : Denotes strict 4 _ _ := denotes_object [(ascii "pump1", printInt pump1, .num pump1 0),
      (ascii "pump2", printInt pump2, .num pump2 0)]
    (List.forall_mem_cons.mpr ⟨verbatimFirst, List.forall_mem_cons.mpr ⟨verbatimSecond, nofun⟩⟩)
    (List.forall_mem_cons.mpr ⟨denotes_printInt pump1, List.forall_mem_cons.mpr
      ⟨denotes_printInt pump2, nofun⟩⟩) (List.cons_ne_nil _ _)
  exact denotes_object [(ascii "status", 34 :: ascii "sent" ++ [34], .str (ascii "sent")),
    (ascii "current_state", _, _)]
    (List.forall_mem_cons.mpr ⟨verbatimStatus, List.forall_mem_cons.mpr ⟨verbatimState, nofun⟩⟩)
    (List.forall_mem_cons.mpr ⟨sent, List.forall_mem_cons.mpr ⟨state, nofun⟩⟩) (List.cons_ne_nil _ _)

/-- **The answer to a control is well formed**, whatever the commands. -/
theorem parsed_pumpControl (strict published : Bool) (status : PumpStatus) :
    (parse strict (handlePumpControl published status)).isSome := by
  cases published with
  | false =>
    rw [handlePumpControl, if_neg Bool.false_ne_true]
    cases strict <;> decide +kernel
  | true =>
    have first := length_printInt32_le status.pump1
    have second := length_printInt32_le status.pump2
    have lengths : (ascii "\x7b\"status\":\"sent\",\"current_state\":\x7b\"pump1\":").length = 42 ∧
        (ascii ",\"pump2\":").length = 9 ∧ (ascii "\x7d\x7d").length = 2 := by
      decide
    rw [handlePumpControl, if_pos rfl, snprintf_of_lt, controlText_eq, parse_of_denotes
      (denotes_controlText strict _ _), Option.isSome_some]
    · rw [← controlText_eq]
      simp only [List.length_append]
      omega
    · simp only [List.length_append]
      omega

/-- **The history answer is well formed**, whatever the query. -/
theorem parsed_pumpHistory (strict : Bool) (sqlite : Sqlite) (prepared : Bool) (table : List SnapshotRow)
    (arguments : List (String × Option (List UInt8))) :
    (parse strict (handlePumpHistory sqlite prepared (some table) arguments)).isSome := by
  unfold handlePumpHistory
  dsimp only
  cases prepared with
  | false =>
    rw [dbGetHistoryFiltered, if_neg Bool.false_ne_true, if_pos (by decide)]
    cases strict <;> decide +kernel
  | true =>
    obtain ⟨kept, loop⟩ := exists_kept (selectedRows sqlite (queryParams arguments) table)
    have answered := dbGetHistoryFiltered_eq sqlite table (historyLimit (queryParams arguments))
      (historyFrom (queryParams arguments)) (historyTo (queryParams arguments)) loop
    rw [answered, if_neg (not_not.mpr rfl), denotes_historyAnswer, Option.isSome_some]

theorem parsed_pumpStatus (strict : Bool) (status : PumpStatus) :
    (parse strict (handlePumpStatus status)).isSome := by
  have parsed := parsed_rowText strict status.row
  rw [handlePumpStatus_eq, pumpStatusText_eq]
  cases read : parse strict (rowText status.row) with
  | none => rw [read] at parsed; cases parsed
  | some value => rfl

/-! ### One answer -/

theorem feedbackCode (jsonC : JsonC) (io : UpdateIo) (payload : List UInt8) (side : PumpSide) :
    (handlePumpFeedback jsonC io payload side).1 = if feedbackReadable jsonC payload then 200 else 400 := by
  unfold feedbackReadable handlePumpFeedback
  cases jsonC.tokenerParse payload with
  | none => rfl
  | some parsed =>
    rw [Option.any_some]
    dsimp only
    cases jsonC.objectGetEx parsed "pump_id" with
    | none => rfl
    | some pumpId => cases jsonC.objectGetEx parsed "status" <;> rfl

/-- An answer with a body that is JSON. -/
theorem served_json {jsonC : JsonC} {endpoint : Endpoint} {body : List UInt8} {statusCode : ℕ}
    (code : statusCode = endpoint.statusCode jsonC) (other : endpoint ≠ .options)
    (parsed : endpoint ≠ .gatewayStatus → (parse true body).isSome) :
    Served jsonC endpoint (jsonAnswer statusCode body) where
  crossOrigin := .head _
  statusCode := code
  empty is_options := absurd is_options other
  json _ := ⟨.tail _ (.head _), parsed⟩

/-- **One answer**, from whatever state the handler reads. -/
theorem served_answerOf (jsonC : JsonC) (sqlite : Sqlite) (io : RequestIo) (published : Bool)
    (request : Request) (side : PumpSide) (endpoint : Endpoint) :
    Served jsonC endpoint (answerOf jsonC sqlite io published request side endpoint) := by
  cases endpoint with
  | options => exact ⟨.head _, rfl, fun _ => rfl, fun other => absurd rfl other⟩
  | control payload =>
    exact served_json rfl nofun fun _ => parsed_pumpControl true published side.current
  | feedback payload =>
    have acknowledged : (parse true (ascii "\x7b\"status\":\"ok\"\x7d")).isSome := by decide +kernel
    exact served_json (feedbackCode jsonC _ payload side) nofun fun _ => acknowledged
  | pumpStatus => exact served_json rfl nofun fun _ => parsed_pumpStatus true side.current
  | pumpHistory =>
    exact served_json rfl nofun fun _ =>
      parsed_pumpHistory true sqlite io.prepared side.tables.pumpSnapshots request.arguments
  | gatewayStatus => exact served_json rfl nofun fun other => absurd rfl other
  | notFound =>
    have missing : (parse true (ascii "\x7b\"error\":\"Not found\"\x7d")).isSome := by decide +kernel
    exact served_json rfl nofun fun _ => missing
  | notAllowed =>
    have refused : (parse true (ascii "\x7b\"error\":\"Not allowed\"\x7d")).isSome := by decide +kernel
    exact served_json rfl nofun fun _ => refused

/-! ### All answers -/

/-- The invariant: an answer is that of the endpoint called for the request. -/
def AnswersCalled (jsonC : JsonC) (events : List DaemonEvent) (daemon : Daemon) : Prop :=
  ∀ (id : ℕ) (answer : Answer), daemon.requests id = .answered answer →
    ∃ endpoint, callsOf id events = [endpoint] ∧ Served jsonC endpoint answer

section Run

variable {jsonC : JsonC} {events : List DaemonEvent} {daemon : Daemon}

/-- The handler called for a request whose handler is running. -/
theorem callsOf_handling (tracked : Tracked jsonC events daemon) {id : ℕ} {now : Request}
    {endpoint : Endpoint} {published : Bool} (here : daemon.requests id = .handling now endpoint published) :
    callsOf id events = [endpoint] := by
  have used : id < (openings events).length := by
    rw [← tracked.opened]
    exact used_of_tracked tracked (by rw [here]; nofun)
  have progress := tracked.each id _ (List.getElem?_eq_getElem used)
  rw [here] at progress
  exact progress.2

/-- **One request moves on**, perhaps to its answer. -/
theorem answersCalled_become (answers : AnswersCalled jsonC events daemon) {id : ℕ} {state : RequestState}
    {after : Daemon} (requests : after.requests = (daemon.become id state).requests)
    (new : ∀ answer, state = .answered answer →
      ∃ endpoint, callsOf id events = [endpoint] ∧ Served jsonC endpoint answer) :
    AnswersCalled jsonC events after := by
  intro other answer answered
  rw [requests, become_requests] at answered
  split_ifs at answered with same
  · subst same
    exact new answer answered
  · exact answers other answer answered

theorem answersCalled_call (answers : AnswersCalled jsonC events daemon) (id size : ℕ) (io : RequestIo) :
    AnswersCalled jsonC (events ++ (daemon.reaches id size io).toList) (daemon.call jsonC id size io) := by
  have called := called_call jsonC daemon id size io
  revert called
  generalize daemon.call jsonC id size io = after
  generalize daemon.reaches id size io = reached
  intro called
  cases called with
  | idle => exact (List.append_nil events).symm ▸ answers
  | refused here outcome => exact (List.append_nil events).symm ▸ answersCalled_become answers rfl nofun
  | passed here outcome => exact (List.append_nil events).symm ▸ answersCalled_become answers rfl nofun
  | @ended now endpoint here free outcome =>
    intro other answer answered
    have moved : ((daemon.become id (.handling now endpoint io.published)).requests other) =
        .answered answer := answered
    rw [become_requests] at moved
    split_ifs at moved with same
    rw [Option.toList_some, callsOf_other (Ne.symm same)]
    exact answers other answer moved

theorem answersCalled_finish (answers : AnswersCalled jsonC events daemon)
    (tracked : Tracked jsonC events daemon) (sqlite : Sqlite) (io : RequestIo) :
    AnswersCalled jsonC events (daemon.finish jsonC sqlite io) := by
  have finished := finished_finish jsonC sqlite daemon io
  revert finished
  generalize daemon.finish jsonC sqlite io = after
  intro finished
  cases finished with
  | idle => exact answers
  | @returned id now endpoint published inside here waiting =>
    refine answersCalled_become answers rfl fun answer answered => ?_
    cases answered
    exact ⟨endpoint, callsOf_handling tracked here,
      served_answerOf jsonC sqlite io published now daemon.world.machine.side endpoint⟩

theorem answersCalled_left (answers : AnswersCalled jsonC events daemon) {id : ℕ} {after : Daemon}
    (left : Left daemon id after) : AnswersCalled jsonC events after := by
  cases left with
  | idle => exact answers
  | received here => exact answersCalled_become answers rfl nofun
  | aborted here => exact answersCalled_become answers rfl nofun

/-- **The invariant is kept by every step.** -/
theorem answersCalled_next (jsonC : JsonC) (sqlite : Sqlite) (events : List DaemonEvent) (daemon : Daemon)
    (label : DaemonLabel) (holds : Tracked jsonC events daemon ∧ AnswersCalled jsonC events daemon) :
    Tracked jsonC (events ++ daemon.emits label) (daemon.next jsonC sqlite label) ∧
      AnswersCalled jsonC (events ++ daemon.emits label) (daemon.next jsonC sqlite label) := by
  obtain ⟨tracked, answers⟩ := holds
  refine ⟨tracked_next jsonC sqlite events daemon label tracked, ?_⟩
  cases label with
  | world label =>
    show AnswersCalled jsonC (events ++ if label.Outside then [.outside label] else [])
      (if label.Outside then daemon.onWorld jsonC (some label) else daemon)
    split_ifs with outside
    · intro id answer answered
      rw [callsOf_concat rfl]
      exact answers id answer answered
    · rw [List.append_nil]
      exact answers
  | openRequest request =>
    show AnswersCalled jsonC (events ++ if request.Fresh then [.opened request] else [])
      (daemon.openRequest request)
    split_ifs with fresh
    · intro id answer answered
      rw [openRequest_requests fresh] at answered
      split_ifs at answered
      rw [callsOf_concat rfl]
      exact answers id answer answered
    · rw [List.append_nil, Daemon.openRequest, if_neg fresh]
      exact answers
  | call id size io => exact answersCalled_call answers id size io
  | finish io => exact (List.append_nil events).symm ▸ answersCalled_finish answers tracked sqlite io
  | receive id => exact (List.append_nil events).symm ▸ answersCalled_left answers (left_receive daemon id)
  | abort id => exact (List.append_nil events).symm ▸ answersCalled_left answers (left_abort daemon id)

end Run

/-- **In every run, an answer is that of the request's own endpoint.** -/
theorem answers_served (jsonC : JsonC) (sqlite : Sqlite) (labels : List DaemonLabel) :
    AnswersServed jsonC (daemonEvents jsonC sqlite labels) (run (Daemon.next jsonC sqlite) {} labels) where
  served id request answer found answered := by
    have initial : Tracked jsonC [] {} ∧ AnswersCalled jsonC [] {} := ⟨tracked_initial jsonC, nofun⟩
    obtain ⟨tracked, answers⟩ := invariant_emitted (answersCalled_next jsonC sqlite) initial labels
    obtain ⟨endpoint, called, served⟩ := answers id answer answered
    have progress := tracked.each id request found
    rw [List.nil_append] at called
    rw [answered] at progress
    obtain ⟨same, selected, again⟩ := progress
    rw [List.nil_append, called] at again
    cases again
    exact ⟨endpoint, selected, served⟩

end ServerPump
