import Todex.Conversation.Model

/-!
# The follow-up queue

Prompts submitted while a conversation is busy wait in a queue, which can be paused for several
reasons. A pause for a rate limit or a schedule lifts by itself at `resumeAt`.
-/

namespace Todex

/-- A prompt with its settings. -/
structure ConversationPrompt where
  permissionMode : Option String
  workMode : Option String
  clientRequestId : Option String
  text : String
  model : Option String
  reasoningEffort : Option String
  skills : List String
  content : List String
  permissionProfile : Option String
  sandboxMode : Option String
  approvalPolicy : Option String
deriving DecidableEq

/-- Why a queue is paused. -/
inductive PauseReason
  | user | scheduled | rateLimited | turnCancelled | turnInterrupted | turnFailed | startFailed
  | daemonRestarted
deriving DecidableEq

/-- `USER_HELD_PAUSES`: a rate-limit continuation does not lift these. -/
def userHeldPauses : List PauseReason :=
  [.user, .scheduled, .turnCancelled, .startFailed, .daemonRestarted]

/-- `RATE_LIMIT_CONTINUE_PREFIX`: how the ids of continuations start. -/
def rateLimitContinueStart : String := "rate-limit-continue-"

/-- The id is that of a continuation. -/
def isContinuation (id : String) : Bool := keyed id rateLimitContinueStart

def rateLimitContinueText : String :=
  "The previous request was interrupted by a provider usage limit before it could finish. " ++
    "Continue where it left off and complete the task."

def maxRateLimitContinuations : Nat := 3

def maxFollowUpItems : Nat := 32

structure FollowUpItem where
  id : String
  queuedAt : DateTime
  /-- Carries the item's id as its `clientRequestId`. -/
  request : ConversationPrompt
  /-- Whether the daemon queued the item itself; no operation reads it. -/
  automatic : Bool
deriving DecidableEq

structure FollowUpQueue where
  items : List FollowUpItem := []
  paused : Bool := false
  pauseReason : Option PauseReason := none
  pauseMessage : Option String := none
  resumeAt : Option DateTime := none
  /-- Consecutive continuations that failed on the limit. -/
  rateLimitFailures : Nat := 0
deriving DecidableEq

namespace FollowUpQueue

def ids (self : FollowUpQueue) : List String := self.items.map (·.id)

def pause (self : FollowUpQueue) (reason : PauseReason) (message : Option String) :
    FollowUpQueue :=
  { self with
    paused := true
    pauseReason := some reason
    pauseMessage := message.map fun text => String.ofList (text.toList.take 1000) }

def unpause (self : FollowUpQueue) : FollowUpQueue :=
  { self with paused := false, pauseReason := none, pauseMessage := none, resumeAt := none }

def rateLimited (self : FollowUpQueue) : Bool :=
  self.paused && self.pauseReason = some .rateLimited

def scheduled (self : FollowUpQueue) : Bool := self.paused && self.pauseReason = some .scheduled

def unpauseIfEmpty (self : FollowUpQueue) : FollowUpQueue :=
  if self.items.isEmpty && !self.scheduled then self.unpause else self

def heldByUser (self : FollowUpQueue) : Bool :=
  self.paused && self.pauseReason.any (· ∈ userHeldPauses)

def holdsItems (self : FollowUpQueue) : Bool := !self.items.isEmpty

/-- Nothing worth keeping. -/
def isIdle (self : FollowUpQueue) : Bool :=
  self.items.isEmpty && !self.paused && self.rateLimitFailures = 0

end FollowUpQueue

/-! ### When a continuation may run -/

/-- The largest `std::time::Duration`, in nanoseconds. -/
def stdDurationMax : Nat := (2 ^ 64 - 1) * 1000000000 + 999999999

/-- `chrono::Duration::MAX`, in nanoseconds. -/
def durationMax : Nat := (2 ^ 63 - 1) * 1000000

/-- `chrono::Duration::from_std`. -/
def durationFromStd (duration : Nat) : Option Nat :=
  if duration ≤ durationMax then some duration else none

namespace DateTime

/-- `DateTime::<Utc>::MAX_UTC`. -/
def maxUtc : DateTime := ⟨maxNanos, by decide⟩

/-- `checked_add_signed`. -/
def checkedAddSigned (time : DateTime) (wait : Nat) : Option DateTime :=
  if h : time.nanos + wait ≤ maxNanos then
    some ⟨time.nanos + wait, by have := time.inRange.1; omega, h⟩
  else none

instance : LE DateTime := ⟨fun a b => a.nanos ≤ b.nanos⟩

instance (a b : DateTime) : Decidable (a ≤ b) := inferInstanceAs (Decidable (a.nanos ≤ b.nanos))

lemma le_iff {a b : DateTime} : a ≤ b ↔ a.nanos ≤ b.nanos := Iff.rfl

/-- `Ord::max`. -/
def latest (a b : DateTime) : DateTime := if a ≤ b then b else a

/-- `self - now`, as a signed duration in nanoseconds. -/
def signedDurationSince (self now : DateTime) : Int := self.nanos - now.nanos

end DateTime

/-- `1u32.checked_shl(failures.saturating_sub(1))`, saturated. -/
def backoffFactor (failures : Nat) : Nat :=
  if failures - 1 < 32 then 2 ^ (failures - 1) else 2 ^ 32 - 1

/-- The wait after `failures` consecutive continuations failed on the limit. -/
def backoffWait (floor failures : Nat) : Nat :=
  (durationFromStd (min (floor * backoffFactor failures) stdDurationMax)).getD durationMax

/-- When a continuation may run: the provider's reset, but not before the wait is over. -/
def rateLimitResumeAt (reset now : DateTime) (failures floor : Nat) : DateTime :=
  reset.latest ((now.checkedAddSigned (backoffWait floor failures)).getD .maxUtc)

lemma backoffWait_eq (floor failures : Nat) :
    backoffWait floor failures = min (floor * backoffFactor failures) durationMax := by
  have hmax : durationMax ≤ stdDurationMax := by decide
  rw [backoffWait, durationFromStd]
  split_ifs with hle
  · rw [Option.getD_some]
    omega
  · rw [Option.getD_none]
    omega

lemma DateTime.nanos_latest (a b : DateTime) : (a.latest b).nanos = max a.nanos b.nanos := by
  rw [latest]
  split_ifs with hle
  · rw [le_iff] at hle
    omega
  · rw [le_iff] at hle
    omega

/-- An addition that would leave the range ends at the last instant. -/
lemma DateTime.nanos_checkedAddSigned_getD (now : DateTime) (wait : Nat) :
    ((now.checkedAddSigned (min wait durationMax)).getD .maxUtc).nanos = min (now.nanos + wait) maxNanos := by
  have hnow := now.inRange.1
  have hr : maxNanos ≤ minNanos + durationMax := by decide
  rw [checkedAddSigned]
  split_ifs with hle
  · simp only [Option.getD_some]
    omega
  · simp only [Option.getD_none, maxUtc]
    omega

/-- The exact time: nothing overflows, and what would be beyond the last instant is that
instant. -/
lemma nanos_rateLimitResumeAt (reset now : DateTime) (failures floor : Nat) :
    (rateLimitResumeAt reset now failures floor).nanos =
      max reset.nanos (min (now.nanos + (floor * backoffFactor failures : Nat)) maxNanos) := by
  rw [rateLimitResumeAt, DateTime.nanos_latest, backoffWait_eq,
    DateTime.nanos_checkedAddSigned_getD]

lemma backoffFactor_mono (h : failures ≤ failures') : backoffFactor failures ≤ backoffFactor failures' := by
  rw [backoffFactor, backoffFactor]
  split_ifs with hlt hlt'
  · exact Nat.pow_le_pow_right (by decide) (by omega)
  · have := Nat.pow_le_pow_right (n := 2) (by decide) (show failures - 1 ≤ 31 by omega)
    omega
  · omega
  · exact le_rfl

/-- More failures never shorten the wait. -/
lemma rateLimitResumeAt_mono (reset now : DateTime) {failures failures' : Nat}
    (h : failures ≤ failures') (floor : Nat) :
    rateLimitResumeAt reset now failures floor ≤ rateLimitResumeAt reset now failures' floor := by
  have hwait := Nat.mul_le_mul_left floor (backoffFactor_mono h)
  rw [DateTime.le_iff, nanos_rateLimitResumeAt, nanos_rateLimitResumeAt]
  omega

end Todex
