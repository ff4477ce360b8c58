/-
**Messages in order, delivered at least once.**

A channel keeps the messages sent on it in their order. The receiver gets them one by one from a
position on, and acknowledges them from the front. At any time the sender may go back to the first
message that is not acknowledged and deliver from there again, so that the receiver gets a message any
number of times, but never one before it got all the earlier ones.

* `Overwriting`: an action makes up for every earlier one of its kind. `Overwriting.paired` is for two
  receivers of the same actions.
* `Keeps`: the invariant of a receiver whose actions overwrite. What it has got from the first message
  not acknowledged up to the position leaves its state alone, and what is to come up to the furthest
  position it ever reached makes up the state of all messages so far, each received once.
* `keeps_publish`, `keeps_deliver`, `keeps_acknowledge`, `keeps_resend`: the steps.
* `state_of_keeps`: a receiver that has got everything is in the state of exactly one delivery each.
* `overwriting_assign`, `run_assign`: a register that messages may set.
-/

import ServerPump.Library.ChangeLog
import ServerPump.Library.Runs

namespace Redelivery

open Runs

variable {σ α : Type*}

/-! ### Actions that overwrite -/

/-- **An action makes up for every earlier one of its kind.** -/
def Overwriting (act : σ → α → σ) : Prop :=
  ∀ state action between,
    act (run act (act state action) between) action = act (run act state between) action

section Overwriting

variable {act : σ → α → σ}

/-- An action whose list already took effect may be done once more at its end. -/
theorem run_concat_of_settled (overwriting : Overwriting act) {state : σ} {actions : List α}
    (settled : run act state actions = state) (action : α) :
    run act (act state action) (actions ++ [action]) = act state action := by
  rw [run_append, run_cons, run_nil, overwriting, settled]

/-- Two receivers of the same actions, as one. -/
def paired {τ : Type*} (first : σ → α → σ) (second : τ → α → τ) (both : σ × τ) (action : α) : σ × τ :=
  (first both.1 action, second both.2 action)

theorem run_paired {τ : Type*} (first : σ → α → σ) (second : τ → α → τ) (both : σ × τ)
    (actions : List α) :
    run (paired first second) both actions = (run first both.1 actions, run second both.2 actions) := by
  induction actions generalizing both with
  | nil => rfl
  | cons action rest ih =>
    rw [run_cons, ih]
    rfl

theorem Overwriting.paired {τ : Type*} {second : τ → α → τ} (one : Overwriting act)
    (other : Overwriting second) : Overwriting (paired act second) := by
  intro both action between
  rw [run_paired, run_paired]
  exact Prod.ext (one both.1 action between) (other both.2 action between)

end Overwriting

/-! ### Channels -/

/-- The messages sent, the number of those acknowledged, and the position of the next delivery. -/
structure Channel (α : Type*) where
  sent : List α := []
  acknowledged : ℕ := 0
  position : ℕ := 0

namespace Channel

def publish (message : α) (channel : Channel α) : Channel α :=
  { channel with sent := channel.sent ++ [message] }

/-- The message that is delivered next. -/
def next? (channel : Channel α) : Option α := channel.sent[channel.position]?

def advance (channel : Channel α) : Channel α := { channel with position := channel.position + 1 }

def acknowledge (channel : Channel α) : Channel α :=
  if channel.acknowledged < channel.position then
    { channel with acknowledged := channel.acknowledged + 1 }
  else channel

/-- Back to the first message that is not acknowledged. -/
def resend (channel : Channel α) : Channel α := { channel with position := channel.acknowledged }

/-- The messages from one position up to another. -/
def between (first last : ℕ) (channel : Channel α) : List α := (channel.sent.take last).drop first

/-- Everything sent has been delivered. -/
def CaughtUp (channel : Channel α) : Prop := channel.position = channel.sent.length

instance (channel : Channel α) : Decidable channel.CaughtUp :=
  inferInstanceAs (Decidable (channel.position = channel.sent.length))

theorem between_publish {first last : ℕ} {channel : Channel α} (inside : last ≤ channel.sent.length)
    (message : α) : (channel.publish message).between first last = channel.between first last := by
  rw [between, between, publish, List.take_append_of_le_length inside]

theorem between_self (position : ℕ) (channel : Channel α) : channel.between position position = [] :=
  List.drop_eq_nil_of_le (List.length_take_le _ _)

theorem between_append {first middle last : ℕ} (low : first ≤ middle) (high : middle ≤ last)
    (channel : Channel α) :
    channel.between first last = channel.between first middle ++ channel.between middle last := by
  have lengths : last - first = (middle - first) + (last - middle) := by omega
  have position : first + (middle - first) = middle := by omega
  unfold between
  rw [List.drop_take, List.drop_take, List.drop_take, lengths, List.take_add, List.drop_drop, position]

theorem between_concat {channel : Channel α} {first : ℕ} {message : α}
    (low : first ≤ channel.position) (next : channel.next? = some message) :
    channel.between first (channel.position + 1) =
      channel.between first channel.position ++ [message] := by
  have inside := (List.getElem?_eq_some_iff.mp next).1
  rw [between_append low (Nat.le_succ _)]
  congr 1
  rw [between, List.take_add_one, List.drop_append_of_le_length (by rw [List.length_take]; omega),
    List.drop_eq_nil_of_le (List.length_take_le _ _), List.nil_append,
    show channel.sent[channel.position]? = some message from next, Option.toList_some]

/-- The positions are in order. -/
structure Ordered (channel : Channel α) : Prop where
  acknowledged : channel.acknowledged ≤ channel.position
  position : channel.position ≤ channel.sent.length

section Ordered

variable {channel : Channel α}

theorem Ordered.publish (ordered : channel.Ordered) (message : α) : (channel.publish message).Ordered where
  acknowledged := ordered.acknowledged
  position := by
    rw [Channel.publish, List.length_append]
    exact Nat.le_add_right_of_le ordered.position

theorem Ordered.advance (ordered : channel.Ordered) {message : α} (next : channel.next? = some message) :
    channel.advance.Ordered where
  acknowledged := Nat.le_succ_of_le ordered.acknowledged
  position := (List.getElem?_eq_some_iff.mp next).1

theorem Ordered.acknowledge (ordered : channel.Ordered) : channel.acknowledge.Ordered := by
  unfold Channel.acknowledge
  split
  · rename_i waiting
    exact ⟨waiting, ordered.position⟩
  · exact ordered

theorem Ordered.resend (ordered : channel.Ordered) : channel.resend.Ordered where
  acknowledged := Nat.le_refl _
  position := ordered.acknowledged.trans ordered.position

/-- The messages still to be delivered. -/
def backlog (channel : Channel α) : ℕ := channel.sent.length - channel.position

theorem backlog_publish_le (channel : Channel α) (message : α) :
    (channel.publish message).backlog ≤ channel.backlog + 1 := by
  simp only [backlog, Channel.publish, List.length_append, List.length_singleton]
  omega

theorem backlog_advance {message : α} (next : channel.next? = some message) :
    channel.advance.backlog + 1 = channel.backlog := by
  have inside := (List.getElem?_eq_some_iff.mp next).1
  simp only [backlog, Channel.advance]
  omega

theorem caughtUp_of_next? (ordered : channel.Ordered) (none_left : channel.next? = none) :
    channel.CaughtUp :=
  Nat.le_antisymm ordered.position (List.getElem?_eq_none_iff.mp none_left)

end Ordered

end Channel

/-! ### The receiver -/

/-- **The invariant of a receiver** whose actions overwrite. -/
structure Keeps (act : σ → α → σ) (initial : σ) (channel : Channel α) (state : σ) : Prop where
  ordered : channel.Ordered
  settled : ∀ first, channel.acknowledged ≤ first → first ≤ channel.position →
    run act state (channel.between first channel.position) = state
  furthest : ∃ last, channel.position ≤ last ∧ last ≤ channel.sent.length ∧
    run act state (channel.between channel.position last) = run act initial (channel.sent.take last)

section Receiver

variable {act : σ → α → σ} {initial state : σ} {channel : Channel α}

theorem keeps_initial (act : σ → α → σ) (initial : σ) : Keeps act initial {} initial where
  ordered := ⟨Nat.le_refl 0, Nat.le_refl 0⟩
  settled first _ high := by
    obtain rfl := Nat.le_zero.mp high
    rw [Channel.between_self, run_nil]
  furthest := ⟨0, Nat.le_refl 0, Nat.le_refl 0, rfl⟩

theorem keeps_publish (keeps : Keeps act initial channel state) (message : α) :
    Keeps act initial (channel.publish message) state := by
  have length : (channel.publish message).sent.length = channel.sent.length + 1 :=
    List.length_append
  refine ⟨keeps.ordered.publish message, fun first low high => ?_, ?_⟩
  · rw [show (channel.publish message).position = channel.position from rfl,
      Channel.between_publish keeps.ordered.position]
    exact keeps.settled first low high
  · obtain ⟨last, low, high, caught⟩ := keeps.furthest
    refine ⟨last, low, length ▸ Nat.le_succ_of_le high, ?_⟩
    rw [show (channel.publish message).position = channel.position from rfl,
      Channel.between_publish high, caught]
    exact congrArg (run act initial) (List.take_append_of_le_length high).symm

/-- **The next message is delivered.** -/
theorem keeps_deliver (overwriting : Overwriting act) (keeps : Keeps act initial channel state)
    {message : α} (next : channel.next? = some message) :
    Keeps act initial channel.advance (act state message) := by
  have inside : channel.position < channel.sent.length := (List.getElem?_eq_some_iff.mp next).1
  have between : ∀ first last, channel.advance.between first last = channel.between first last :=
    fun _ _ => rfl
  refine ⟨keeps.ordered.advance next, fun first low high => ?_, ?_⟩
  · show run act (act state message) (channel.between first (channel.position + 1)) = act state message
    rcases Nat.le_or_eq_of_le_succ high with before | rfl
    · rw [Channel.between_concat before next]
      exact run_concat_of_settled overwriting (keeps.settled first low before) message
    · rw [Channel.between_self, run_nil]
  · obtain ⟨last, low, high, caught⟩ := keeps.furthest
    rcases Nat.eq_or_lt_of_le low with rfl | behind
    · -- the message is the first one beyond all deliveries so far
      rw [Channel.between_self, run_nil] at caught
      refine ⟨channel.position + 1, Nat.le_refl _, inside, ?_⟩
      show run act (act state message) (channel.between (channel.position + 1) (channel.position + 1)) = _
      rw [Channel.between_self, run_nil, caught]
      show _ = run act initial (channel.sent.take (channel.position + 1))
      rw [List.take_add_one, run_append, show channel.sent[channel.position]? = some message from next]
      rfl
    · refine ⟨last, behind, high, ?_⟩
      show run act (act state message) (channel.between (channel.position + 1) last) = _
      have first : channel.between channel.position (channel.position + 1) = [message] := by
        rw [Channel.between_concat (Nat.le_refl _) next, Channel.between_self, List.nil_append]
      rw [Channel.between_append (Nat.le_succ _) behind, first] at caught
      exact caught

theorem keeps_acknowledge (keeps : Keeps act initial channel state) :
    Keeps act initial channel.acknowledge state := by
  have ordered := keeps.ordered.acknowledge
  unfold Channel.acknowledge at ordered ⊢
  split
  · rename_i waiting
    rw [if_pos waiting] at ordered
    refine ⟨ordered, fun first low high => ?_, keeps.furthest⟩
    exact keeps.settled first (Nat.le_of_succ_le low) high
  · exact keeps

/-- **The sender goes back**: what comes again has been settled, and leads on to where it was. -/
theorem keeps_resend (keeps : Keeps act initial channel state) :
    Keeps act initial channel.resend state := by
  have back := keeps.ordered.acknowledged
  refine ⟨keeps.ordered.resend, fun first low high => ?_, ?_⟩
  · obtain rfl : first = channel.acknowledged := Nat.le_antisymm high low
    show run act state (channel.between channel.acknowledged channel.acknowledged) = state
    rw [Channel.between_self, run_nil]
  · obtain ⟨last, low, high, caught⟩ := keeps.furthest
    refine ⟨last, back.trans low, high, ?_⟩
    show run act state (channel.between channel.acknowledged last) = _
    rw [Channel.between_append back low, run_append, keeps.settled _ (Nat.le_refl _) back, caught]
    rfl

/-- **A receiver that has got everything** is in the state of exactly one delivery each. -/
theorem state_of_keeps (keeps : Keeps act initial channel state) (caughtUp : channel.CaughtUp) :
    state = run act initial channel.sent := by
  obtain ⟨last, low, high, caught⟩ := keeps.furthest
  obtain rfl : last = channel.sent.length := Nat.le_antisymm high (caughtUp ▸ low)
  rw [show channel.position = channel.sent.length from caughtUp, Channel.between_self, run_nil,
    List.take_length] at caught
  exact caught

end Receiver

/-! ### A register -/

section Register

variable {β : Type*} (sets : α → Option β)

/-- A message sets the register, or leaves it as it is. -/
def assign (value : β) (message : α) : β := (sets message).getD value

theorem overwriting_assign : Overwriting (assign sets) := by
  intro value message between
  cases set : sets message with
  | none => rw [show assign sets value message = value by rw [assign, set, Option.getD_none]]
  | some new =>
    have becomes : ∀ other, assign sets other message = new := fun other => by
      rw [assign, set, Option.getD_some]
    rw [becomes, becomes]

/-- **The value is the one set last.** -/
theorem run_assign (initial : β) (messages : List α) :
    run (assign sets) initial messages = ChangeLog.replay initial (messages.filterMap sets) := by
  induction messages generalizing initial with
  | nil => rfl
  | cons message rest ih =>
    rw [run_cons, ih, assign]
    cases set : sets message with
    | none => rw [List.filterMap_cons_none set, Option.getD_none]
    | some new =>
      rw [List.filterMap_cons_some set, Option.getD_some, ChangeLog.replay, ChangeLog.replay,
        List.getLastD_cons]

end Register

end Redelivery
