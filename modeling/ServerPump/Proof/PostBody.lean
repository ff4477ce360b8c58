/-
**The body of a POST.**

The buffer allocated at the first call of a POST holds 1024 bytes; every later call appends its
chunk with `strncat`, whose bound is the size of the chunk and not the room that is left.

* `buffer_run`: after any chunks the buffer holds their C strings, one behind the other.
* `postBuffer_fits_iff`: the string and its NUL stay inside the buffer in every state of the request
  exactly if the C strings of the chunks have fewer than 1024 bytes together.
-/

import ServerPump.Library.Runs
import ServerPump.Server.HttpApi

namespace ServerPump

open CText

/-- A chunk of a body. `libmicrohttpd` passes none that is empty. -/
structure Chunk where
  bytes : List UInt8
  nonempty : bytes ≠ []

/-- The first call of a POST, which allocates the buffer. -/
def firstCall (url : String) : Outcome := handleRequest true "POST" url [] none

/-- The call for one chunk. -/
def uploadStep (url : String) (outcome : Outcome) (chunk : Chunk) : Outcome :=
  outcome.next "POST" url chunk.bytes

/-- `strlen(post_buffer) + 1 <= 1024`, as long as the request has its buffer. -/
def Outcome.Fits : Outcome → Prop
  | .proceed postBuffer => postBuffer.length + 1 ≤ postBufferSize
  | _ => True

instance : DecidablePred Outcome.Fits
  | .proceed postBuffer => inferInstanceAs (Decidable (postBuffer.length + 1 ≤ postBufferSize))
  | .refuse => isTrue trivial
  | .answer _ => isTrue trivial

/-- The number of bytes of a chunk that `strncat` appends: those before its first NUL. -/
def Chunk.appended (chunk : Chunk) : ℕ := (cstr chunk.bytes).length

theorem uploadStep_proceed (url : String) (postBuffer : List UInt8) (chunk : Chunk) :
    uploadStep url (.proceed postBuffer) chunk = .proceed (postBuffer ++ cstr chunk.bytes) := by
  have sized : chunk.bytes.length ≠ 0 := fun isZero =>
    chunk.nonempty (List.length_eq_zero_iff.mp isZero)
  show handleRequest true "POST" url chunk.bytes (some postBuffer) = _
  unfold handleRequest
  rw [if_neg (by decide), if_pos rfl]
  simp only [if_pos sized, strncat, List.take_length]

/-- **The buffer after any chunks.** -/
theorem buffer_run (url : String) (postBuffer : List UInt8) (chunks : List Chunk) :
    Runs.run (uploadStep url) (.proceed postBuffer) chunks =
      .proceed (postBuffer ++ chunks.flatMap fun chunk => cstr chunk.bytes) := by
  induction chunks generalizing postBuffer with
  | nil => simp
  | cons chunk rest ih =>
    rw [Runs.run_cons, uploadStep_proceed, ih, List.flatMap_cons, List.append_assoc]

theorem firstCall_eq (url : String) : firstCall url = .proceed [] := by
  unfold firstCall handleRequest
  rw [if_neg (by decide), if_pos rfl]
  rfl

theorem fits_run_iff (url : String) (chunks : List Chunk) :
    (Runs.run (uploadStep url) (firstCall url) chunks).Fits ↔
      (chunks.map Chunk.appended).sum < postBufferSize := by
  rw [firstCall_eq, buffer_run]
  show ([] ++ chunks.flatMap fun (chunk : Chunk) => cstr chunk.bytes).length + 1 ≤ _ ↔ _
  rw [List.nil_append, List.length_flatMap]
  exact Nat.succ_le_iff

/-- A prefix of the chunks appends no more than all of them. -/
theorem appended_prefix_le {before chunks : List Chunk} (isPrefix : before <+: chunks) :
    (before.map Chunk.appended).sum ≤ (chunks.map Chunk.appended).sum := by
  obtain ⟨after, rfl⟩ := isPrefix
  rw [List.map_append, List.sum_append]
  exact Nat.le_add_right _ _

/-- Chunks that append fewer bytes than the buffer has never leave it. -/
theorem fits_of_small (url : String) {chunks : List Chunk}
    (small : (chunks.map Chunk.appended).sum < postBufferSize) :
    Runs.Always (uploadStep url) Outcome.Fits (firstCall url) chunks := by
  rw [Runs.always_iff]
  intro before isPrefix
  exact (fits_run_iff url before).mpr ((appended_prefix_le isPrefix).trans_lt small)

/-- **The buffer holds the body in every state of the request exactly if the chunks append fewer
bytes than it has.** -/
theorem postBuffer_fits_iff (url : String) (chunks : List Chunk) :
    Runs.Always (uploadStep url) Outcome.Fits (firstCall url) chunks ↔
      (chunks.map Chunk.appended).sum < postBufferSize := by
  constructor
  · intro each
    exact (fits_run_iff url chunks).mp (Runs.always_iff.mp each chunks List.prefix_rfl)
  · exact fits_of_small url

/-- A body of letters in one chunk. -/
def letters (count : ℕ) (positive : 0 < count) : Chunk where
  bytes := List.replicate count 97
  nonempty := fun isNil => positive.ne' (by simpa using isNil)

theorem appended_letters (count : ℕ) (positive : 0 < count) :
    (letters count positive).appended = count := by
  have noNul : 0 ∉ (letters count positive).bytes := by
    intro member
    exact absurd (List.eq_of_mem_replicate member) (by decide)
  rw [Chunk.appended, cstr_eq_self noNul]
  exact List.length_replicate

/-- One chunk of letters stays inside the buffer only if it is shorter than the buffer. -/
theorem lt_of_letters_fit {url : String} {count : ℕ} {positive : 0 < count}
    (always : Runs.Always (uploadStep url) Outcome.Fits (firstCall url) [letters count positive]) :
    count < postBufferSize := by
  have fits := Runs.always_iff.mp always _ List.prefix_rfl
  have small := (fits_run_iff url _).mp fits
  rwa [List.map_singleton, List.sum_singleton, appended_letters] at small

/-- A body of 1024 letters leaves no room for the NUL. -/
theorem postBuffer_overflows :
    ¬ ∀ (url : String) (chunks : List Chunk),
      Runs.Always (uploadStep url) Outcome.Fits (firstCall url) chunks := by
  intro always
  have inside : postBufferSize < postBufferSize :=
    lt_of_letters_fit (always "/api/pump/feedback" [letters postBufferSize (by decide)])
  exact lt_irrefl _ inside

end ServerPump
