/-
**The chunks of a POST body.**

The network cuts the body of a POST into chunks. Each call of `handle_request` appends the C string of
its chunk to the buffer, so that a NUL ends the chunk it is in, but not the body: what the later chunks
have before their own NUL is appended behind it. One body then makes different payloads, depending on
the cuts.

* `handlerCalls_eq`: a request calls its handler once, with the C strings of the chunks one behind the
  other.
* `flatMap_cstr_iff`: these are the C string of the body exactly if the chunks behind the first NUL
  begin with a NUL.
* `handledOnce_iff`: the law that two ways of cutting make the same call, with the C string of the body,
  holds exactly if both meet this condition.
-/

import ServerPump.Proof.PostBody

namespace ServerPump

open CText

/-! ### All calls of a request -/

/-- The two URLs with a handler for a POST. -/
inductive PostTarget
  | control
  | feedback
  deriving DecidableEq

def PostTarget.url : PostTarget → String
  | control => "/api/pump/control"
  | feedback => "/api/pump/feedback"

/-- The handler of a URL, with the payload it is called with. -/
def PostTarget.endpoint (payload : List UInt8) : PostTarget → Endpoint
  | control => .control payload
  | feedback => .feedback payload

/-- The outcomes of the calls behind an outcome: one for each chunk, and a last one at the end of the
body. -/
def callOutcomes (url : String) : Outcome → List Chunk → List Outcome
  | outcome, [] => [outcome.next "POST" url []]
  | outcome, chunk :: rest =>
    uploadStep url outcome chunk :: callOutcomes url (uploadStep url outcome chunk) rest

/-- The call of the control or feedback handler, if there is one. -/
def Outcome.handlerCall : Outcome → Option Endpoint
  | .answer (.control payload) => some (.control payload)
  | .answer (.feedback payload) => some (.feedback payload)
  | _ => none

/-- The calls of the handlers while a request is served. -/
def handlerCalls (url : String) (chunks : List Chunk) : List Endpoint :=
  (firstCall url :: callOutcomes url (firstCall url) chunks).filterMap Outcome.handlerCall

/-- The body that is cut into chunks. -/
def bodyOf (chunks : List Chunk) : List UInt8 := chunks.flatMap Chunk.bytes

/-- **The law**: the body stays inside the buffer, and the handler is called once, with the C string
of the body. -/
structure HandledOnce (target : PostTarget) (body : List UInt8) (chunks : List Chunk) : Prop where
  fits : Runs.Always (uploadStep target.url) Outcome.Fits (firstCall target.url) chunks
  calls : handlerCalls target.url chunks = [target.endpoint (cstr body)]

/-- **Each chunk behind one with a NUL begins with a NUL.** -/
def EndsOnce (chunks : List Chunk) : Prop :=
  chunks.Pairwise fun chunk later => 0 ∈ chunk.bytes → later.bytes.head? = some 0

/-! ### The payload -/

theorem handlerCall_end (target : PostTarget) (postBuffer : List UInt8) :
    ((Outcome.proceed postBuffer).next "POST" target.url []).handlerCall =
      some (target.endpoint postBuffer) := by
  cases target <;> rfl

/-- **A request calls its handler once**, with the C strings of the chunks one behind the other. -/
theorem handlerCalls_eq (target : PostTarget) (chunks : List Chunk) :
    handlerCalls target.url chunks =
      [target.endpoint (chunks.flatMap fun chunk => cstr chunk.bytes)] := by
  have behind : ∀ postBuffer,
      (callOutcomes target.url (.proceed postBuffer) chunks).filterMap Outcome.handlerCall =
        [target.endpoint (postBuffer ++ chunks.flatMap fun chunk => cstr chunk.bytes)] := by
    induction chunks with
    | nil =>
      intro postBuffer
      rw [callOutcomes, List.filterMap_cons, handlerCall_end, List.flatMap_nil, List.append_nil]
      rfl
    | cons chunk rest ih =>
      intro postBuffer
      rw [callOutcomes, uploadStep_proceed, List.filterMap_cons]
      show (callOutcomes target.url _ rest).filterMap Outcome.handlerCall = _
      rw [ih, List.flatMap_cons, List.append_assoc]
  unfold handlerCalls
  rw [firstCall_eq, List.filterMap_cons]
  exact behind []

/-- What the chunks append is nothing exactly if each begins with a NUL. -/
theorem flatMap_cstr_eq_nil_iff (chunks : List Chunk) :
    (chunks.flatMap fun chunk => cstr chunk.bytes) = [] ↔
      ∀ chunk ∈ chunks, chunk.bytes.head? = some 0 := by
  rw [List.flatMap_eq_nil_iff]
  exact forall₂_congr fun chunk _ => cstr_eq_nil_iff chunk.nonempty

/-- **The C strings of the chunks make up that of the body exactly if the body ends once.** -/
theorem flatMap_cstr_iff (chunks : List Chunk) :
    (chunks.flatMap fun chunk => cstr chunk.bytes) = cstr (bodyOf chunks) ↔ EndsOnce chunks := by
  induction chunks with
  | nil => exact iff_of_true rfl List.Pairwise.nil
  | cons chunk rest ih =>
    have body : bodyOf (chunk :: rest) = chunk.bytes ++ bodyOf rest := List.flatMap_cons
    unfold EndsOnce
    rw [List.flatMap_cons, body, cstr_append, List.pairwise_cons]
    by_cases ends : 0 ∈ chunk.bytes
    · -- the body ends here, and nothing may be appended
      have later : (∀ other ∈ rest, 0 ∈ chunk.bytes → other.bytes.head? = some 0) ↔
          ∀ other ∈ rest, other.bytes.head? = some 0 :=
        forall₂_congr fun _ _ => forall_prop_of_true ends
      rw [if_pos ends, List.append_right_eq_self, flatMap_cstr_eq_nil_iff, later]
      refine (and_iff_left_of_imp fun each => ?_).symm
      exact List.pairwise_of_forall_mem_list fun _ _ other member _ => each other member
    · rw [if_neg ends, cstr_eq_self ends, List.append_cancel_left_eq, ih]
      exact (and_iff_right fun _ _ isNul => absurd isNul ends).symm

/-! ### Two ways of cutting a body -/

theorem endpoint_injective (target : PostTarget) :
    Function.Injective fun payload => target.endpoint payload := by
  intro first second same
  cases target with
  | control => exact Endpoint.control.inj same
  | feedback => exact Endpoint.feedback.inj same

/-- The chunks append no more bytes than the body has. -/
theorem appended_le_bodyOf (chunks : List Chunk) :
    (chunks.map Chunk.appended).sum ≤ (bodyOf chunks).length := by
  induction chunks with
  | nil => exact le_refl 0
  | cons chunk rest ih =>
    have body : bodyOf (chunk :: rest) = chunk.bytes ++ bodyOf rest := List.flatMap_cons
    rw [body, List.map_cons, List.sum_cons, List.length_append]
    exact Nat.add_le_add (length_cstr_le chunk.bytes) ih

/-- A body of at most 1023 bytes stays inside the buffer. -/
theorem fits_of_short {chunks : List Chunk} (short : (bodyOf chunks).length ≤ 1023) (url : String) :
    Runs.Always (uploadStep url) Outcome.Fits (firstCall url) chunks := by
  exact fits_of_small url (Nat.lt_succ_of_le ((appended_le_bodyOf chunks).trans short))

theorem handledOnce_of_cut {target : PostTarget} {body : List UInt8} {chunks : List Chunk}
    (short : body.length ≤ 1023) (cut : bodyOf chunks = body) :
    HandledOnce target body chunks ↔ EndsOnce chunks := by
  subst cut
  rw [← flatMap_cstr_iff, ← (endpoint_injective target).eq_iff]
  constructor
  · intro once
    exact List.singleton_injective ((handlerCalls_eq target chunks).symm.trans once.calls)
  · intro same
    exact ⟨fits_of_short short target.url,
      (handlerCalls_eq target chunks).trans (congrArg (fun call => [call]) same)⟩

/-- **Two ways of cutting a body make the same single call, with the C string of the body, exactly if
in both each chunk behind one with a NUL begins with a NUL.** -/
theorem handledOnce_iff (target : PostTarget) {body : List UInt8} (short : body.length ≤ 1023)
    {first second : List Chunk} (cutFirst : bodyOf first = body) (cutSecond : bodyOf second = body) :
    (HandledOnce target body first ∧ HandledOnce target body second) ↔
      (EndsOnce first ∧ EndsOnce second) :=
  and_congr (handledOnce_of_cut short cutFirst) (handledOnce_of_cut short cutSecond)

/-- A request to start pump 1, with a NUL and another byte behind it. -/
def startBody : List UInt8 := ascii "\x7b\"pump_id\":1,\"state\":1\x7d" ++ [0, 49]

def startWhole : List Chunk := [⟨startBody, by decide⟩]

/-- The same body, cut in front of its last byte. -/
def startCut : List Chunk := [⟨startBody.dropLast, by decide⟩, ⟨[49], by decide⟩]

theorem handledOnce_startBody :
    (startBody.length ≤ 1023 ∧ bodyOf startWhole = startBody ∧ bodyOf startCut = startBody) ∧
      ((HandledOnce .control startBody startWhole ∧ HandledOnce .control startBody startCut) ↔
        (EndsOnce startWhole ∧ EndsOnce startCut)) := by
  have short : startBody.length ≤ 1023 := by decide
  have whole : bodyOf startWhole = startBody := by decide
  have cut : bodyOf startCut = startBody := by decide
  exact ⟨⟨short, whole, cut⟩, handledOnce_iff .control short whole cut⟩

/-- The byte behind the NUL becomes part of the payload. -/
theorem cut_changes_payload :
    ¬ ∀ (target : PostTarget) (body : List UInt8), body.length ≤ 1023 → ∀ first second : List Chunk,
      bodyOf first = body → bodyOf second = body →
        HandledOnce target body first ∧ HandledOnce target body second := by
  intro always
  have once := (always .control startBody (by decide) startWhole startCut (by decide) (by decide)).2
  exact absurd once.calls (by decide +kernel)

end ServerPump
