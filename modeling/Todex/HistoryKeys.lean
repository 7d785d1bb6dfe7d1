import Todex.HistoryCrypto
import Todex.Conversation.Model
import Todex.Lib.Program

/-!
# The content keys of a conversation

New records are sealed under the conversation's active key. The key is replaced when it is a day
old, when the recipients change and when the active file is sealed. A key that was replaced stays in
memory until its records are in a sealed segment.
-/

namespace Todex

/-- `MAX_DEK_AGE`: a day, in nanoseconds. -/
def maxDekAge : Int := 24 * 60 * 60 * 1000000000

structure ActiveKey where
  kid : String
  key : SegmentKey
  epoch : Nat
  /-- The owner recipient the key was also wrapped for. -/
  ownerRid : Option Bytes
  createdAt : DateTime
deriving DecidableEq

/-- Due for replacement by age; a clock that moved backwards counts too. -/
def ActiveKey.expired (self : ActiveKey) (now : DateTime) : Bool :=
  let age := now.nanos - self.createdAt.nanos
  age < 0 ∨ age ≥ maxDekAge

structure ConversationKeys where
  active : Option ActiveKey := none
  /-- Keys that were replaced and whose segment is not sealed yet, by kid. -/
  retained : List (String × SegmentKey) := []
  /-- The most recently created key, while it is in memory. -/
  newest : Option String := none
deriving DecidableEq

/-- What `active_recipients` gives. -/
structure ActiveRecipients where
  epoch : Nat
  keys : List Bytes
deriving DecidableEq

/-- What a request for the current key meets: the recipients, the clock, the key it would generate
and how storing that key in the keyring ends. -/
structure KeyIo where
  recipients : Except AppError ActiveRecipients
  ownerRid : Option Bytes := none
  now : DateTime
  generated : SegmentKey
  stored : Option AppError := none

namespace ConversationKeys

/-- `HashMap::insert`. -/
def insertKey (kid : String) (key : SegmentKey) (keys : List (String × SegmentKey)) :
    List (String × SegmentKey) :=
  (kid, key) :: keys.filter (·.1 ≠ kid)

def retireActive (self : ConversationKeys) : ConversationKeys :=
  match self.active with
  | some active =>
    { self with active := none, retained := insertKey active.kid active.key self.retained }
  | none => self

/-- The active key stands if nothing it depends on has changed. -/
def usable (io : KeyIo) (recipients : ActiveRecipients) (active : ActiveKey) : Bool :=
  active.epoch = recipients.epoch ∧ active.ownerRid = io.ownerRid ∧ active.expired io.now = false

def noRecipients : AppError := .other "HISTORY_KEY_REQUIRED"

/-- The key to seal the next record with. A new key is in the keyring before it is returned. -/
def currentKeyFor (P : Primitives) (io : KeyIo) : Program ConversationKeys AppError (String × SegmentKey) := do
  let recipients ← .ofExcept io.recipients
  match (← .get).active.filter (usable io recipients) with
  | some active => return (active.kid, active.key)
  | none =>
    .modify retireActive
    if recipients.keys = [] ∧ io.ownerRid = none then .fail noRecipients
    .failWith io.stored
    let kid := P.encodeBase64 io.generated.kid
    .modify fun keys => { keys with
      newest := some kid
      active := some {
        kid
        key := io.generated
        epoch := recipients.epoch
        ownerRid := io.ownerRid
        createdAt := io.now } }
    return (kid, io.generated)

/-- The newest key still in memory, active or not. -/
def fallbackKey (self : ConversationKeys) : Option (String × SegmentKey) :=
  self.newest.bind fun kid =>
    match self.active.filter (·.kid = kid) with
    | some active => some (kid, active.key)
    | none => (self.retained.find? (·.1 = kid)).map fun entry => (kid, entry.2)

/-- Whether the next request replaces the active key because of its age. -/
def activeKeyExpired (self : ConversationKeys) (now : DateTime) : Bool :=
  self.active.any (·.expired now)

/-- End the active key because its records are in a sealed file. -/
def rotate (self : ConversationKeys) : ConversationKeys := self.retireActive

/-- End the active key because a record sealed under it may persist without being committed; the key
must not seal another record either. -/
def abandon (self : ConversationKeys) : ConversationKeys := { self.retireActive with newest := none }

/-- Drop keys whose segments are sealed. -/
def releaseSealed (self : ConversationKeys) (kids : List String) : ConversationKeys where
  active := self.active.filter (·.kid ∉ kids)
  retained := self.retained.filter (·.1 ∉ kids)
  newest := self.newest.filter (· ∉ kids)

end ConversationKeys

end Todex
